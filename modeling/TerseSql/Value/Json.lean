import TerseSql.Error

/-!
# Values as JSON

A value becomes a document when it is assigned as JSON. Raw SQL becomes a string; fields,
queries and numbers that are not finite have no document.
-/

namespace TerseSql.Value

mutual

def toJson : Value → Built Json
  | null => .ok .null
  | bool b => .ok (.bool b)
  | int n => .ok (.number (.integer n.toInt))
  | float x =>
    if (Binary.ofFloat x).isFinite then .ok (.number (.float x))
    else .error (.value (.notFiniteJson x))
  | text s => .ok (.string s)
  | list items => do return .array (← itemsToJson items)
  | dict ⟨entries⟩ => do return .object (← entriesToJson [] entries)
  | raw r => .ok (.string r.sql)
  | json document => .ok document
  | field _ | query _ => .error (.value .termInJson)

def itemsToJson : List Value → Built (List Json)
  | [] => .ok []
  | item :: rest => do
    let first ← toJson item
    let others ← itemsToJson rest
    return first :: others

/-- Members added for the entries in turn; a later entry replaces one of the same text. -/
def entriesToJson (members : List (String × Json)) :
    List (Key × Value) → Built (List (String × Json))
  | [] => .ok members
  | (key, item) :: rest => do
    let document ← toJson item
    entriesToJson (Json.insertMember key.text document members) rest

end

end TerseSql.Value
