import TerseSql.Error
import TerseSql.Grammar.Key

/-!
# Reading tables and fields

A dotted text gives a name and its qualifiers. A qualifier comes from the text or from an
argument, never from both.
-/

namespace TerseSql

namespace Table

def make (text : String) (schema : Option String) : Built Table :=
  match Text.split '.' text with
  | [name] => .ok ⟨schema, name⟩
  | [s, name] =>
    if schema.isSome then .error (.table (.schemaTwice text)) else .ok ⟨some s, name⟩
  | _ => .error (.table (.extraParts text))

def ofText (text : String) : Built Table :=
  make text none

end Table

namespace AliasedTable

def make (text : String) (aliasName : Option String) : Built AliasedTable := do
  return ⟨← Table.ofText text, aliasName⟩

/-- Read `schema.table(alias)`. -/
def ofText (text : String) : Built AliasedTable :=
  match Grammar.table? text with
  | some key => make key.path key.aliasName
  | none => .error (.table (.unrecognized text))

end AliasedTable

namespace Field

def make (path : String) (table schema : Option String) : Built Field :=
  match Text.split '.' path with
  | [name] => .ok ⟨schema, table, name⟩
  | [t, name] =>
    if table.isSome then .error (.field (.tableTwice path)) else .ok ⟨schema, some t, name⟩
  | [s, t, name] =>
    if table.isSome || schema.isSome then .error (.field (.qualifiersTwice path))
    else .ok ⟨some s, some t, name⟩
  | _ => .error (.field (.extraParts path))

def ofPath (path : String) : Built Field :=
  make path none none

end Field

namespace FieldExpr

/-- The function a text asks for, and whether a leading dot asks for distinct values. -/
def readFunction (func : Option String) : Option String × Bool :=
  match (func.map fun f => (Text.trim f).toList) with
  | none | some [] => (none, false)
  | some ('.' :: rest) => (some (String.ofList rest), true)
  | some cs => (some (String.ofList cs), false)

def make (path : String) (func aliasName : Option String) : Built FieldExpr := do
  let (func, distinct) := readFunction func
  return ⟨← Field.ofPath (Text.trim path), func, distinct, aliasName⟩

/-- Read `schema.table.field|function(alias)`. -/
def ofText (text : String) : Built FieldExpr :=
  match Grammar.field? text with
  | some key => make key.path key.func key.aliasName
  | none => .error (.field (.unrecognized text))

end FieldExpr

end TerseSql
