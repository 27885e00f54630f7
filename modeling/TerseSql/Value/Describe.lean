import TerseSql.Json.Printer
import TerseSql.Text.Escaped
import TerseSql.Value

/-!
# Values inside messages

A message that rejects a value shows its kind and its contents.
-/

namespace TerseSql

/-- Messages write numbers positionally from `1e-4` up to sixteen digits; a tie goes up. -/
def Value.layout : FloatLayout := ⟨-3, 16, false, true⟩

namespace Describe

def bracketed (items : List String) : String :=
  "[" ++ Text.join ", " items ++ "]"

def optional (s : Option String) : String :=
  match s with
  | some s => "Some(" ++ s ++ ")"
  | none => "None"

def raw (r : Raw) : String :=
  "Raw(" ++ Text.escaped r.sql ++ ")"

def key : Key → String
  | .name s => "Name(" ++ Text.escaped s ++ ")"
  | .raw r => "Raw(" ++ raw r ++ ")"

def field (f : Field) : String :=
  "Field \x7b schema: " ++ optional (f.schema.map Text.escaped) ++
    ", table: " ++ optional (f.table.map Text.escaped) ++
    ", name: " ++ Text.escaped f.name ++ " \x7d"

def primary : Primary → String
  | .named reference => "Named(" ++ Text.escaped reference ++ ")"
  | .unaliased => "UnaliasedQuery"

def wrapping : Wrapping → String
  | .unset => "Unset"
  | .bare => "Bare"
  | .named aliasName => "Named(" ++ Text.escaped aliasName ++ ")"

def query (q : Query) : String :=
  "Builder \x7b dialect: " ++ q.lexicon.label ++
    ", terms: " ++ bracketed (q.statement.terms.map Text.escaped) ++
    ", primary: " ++ optional (q.statement.primary.map primary) ++
    ", sub: " ++ wrapping q.statement.wrapping ++ " \x7d"

mutual

def json : Json → String
  | .null => "Null"
  | .bool b => "Bool(" ++ boolLiteral true b ++ ")"
  | .number n => "Number(" ++ n.write ++ ")"
  | .string s => "String(" ++ Text.escaped s ++ ")"
  | .array items => "Array " ++ bracketed (jsonItems items)
  | .object members =>
    "Object \x7b" ++ Text.join ", " (jsonMembers members) ++ "\x7d"

def jsonItems : List Json → List String
  | [] => []
  | item :: rest => json item :: jsonItems rest

def jsonMembers : List (String × Json) → List String
  | [] => []
  | (name, item) :: rest => (Text.escaped name ++ ": " ++ json item) :: jsonMembers rest

end

mutual

def value : Value → String
  | .null => "Null"
  | .bool b => "Bool(" ++ boolLiteral true b ++ ")"
  | .int n => "Int(" ++ toString n.toInt ++ ")"
  | .float x => "Float(" ++ Value.layout.write x ++ ")"
  | .text s => "Str(" ++ Text.escaped s ++ ")"
  | .list items => "List(" ++ bracketed (values items) ++ ")"
  | .dict ⟨entries⟩ => "Map(Mapping \x7b entries: " ++ bracketed (pairs entries) ++ " \x7d)"
  | .raw r => "Raw(" ++ raw r ++ ")"
  | .field f => "Field(" ++ field f ++ ")"
  | .query q => "Query(" ++ query q ++ ")"
  | .json document => "Json(" ++ json document ++ ")"

def values : List Value → List String
  | [] => []
  | item :: rest => value item :: values rest

def pairs : List (Key × Value) → List String
  | [] => []
  | (k, item) :: rest => ("(" ++ key k ++ ", " ++ value item ++ ")") :: pairs rest

end

end Describe

end TerseSql
