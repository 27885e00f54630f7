/-!
# JSON documents

An object keeps its members in ascending order of their keys. Inserting a member whose
key is present replaces its value.
-/

namespace TerseSql

inductive JsonNumber where
  | integer (n : Int)
  | float (x : Float)

inductive Json where
  | null
  | bool (b : Bool)
  | number (n : JsonNumber)
  | string (s : String)
  | array (items : List Json)
  | object (members : List (String × Json))

namespace Json

def insertMember (key : String) (value : Json) : List (String × Json) → List (String × Json)
  | [] => [(key, value)]
  | (k, v) :: rest =>
    if key = k then (key, value) :: rest
    else if key < k then (key, value) :: (k, v) :: rest
    else (k, v) :: insertMember key value rest

def isNull : Json → Bool
  | null => true
  | _ => false

end Json

/-- Equality of numbers. An integer never equals a floating-point number. -/
def JsonNumber.equal : JsonNumber → JsonNumber → Bool
  | .integer m, .integer n => m == n
  | .float x, .float y => x == y
  | _, _ => false

namespace Json

mutual

/-- Equality of documents. Floating-point zeros of both signs are equal. -/
def equal : Json → Json → Bool
  | null, null => true
  | bool a, bool b => a == b
  | number m, number n => m.equal n
  | string s, string t => s == t
  | array xs, array ys => equalItems xs ys
  | object xs, object ys => equalMembers xs ys
  | _, _ => false

def equalItems : List Json → List Json → Bool
  | [], [] => true
  | x :: xs, y :: ys => equal x y && equalItems xs ys
  | _, _ => false

def equalMembers : List (String × Json) → List (String × Json) → Bool
  | [], [] => true
  | (k, x) :: xs, (l, y) :: ys => k == l && equal x y && equalMembers xs ys
  | _, _ => false

end

end Json

end TerseSql
