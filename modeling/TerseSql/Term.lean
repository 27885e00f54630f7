import TerseSql.Lexicon

/-!
# Tables and fields

Names of tables and fields with their qualifiers, and how a dialect writes them.
-/

namespace TerseSql

structure Table where
  schema : Option String
  name : String
deriving DecidableEq, Repr

structure AliasedTable where
  table : Table
  aliasName : Option String
deriving DecidableEq, Repr

structure Field where
  schema : Option String
  table : Option String
  name : String
deriving DecidableEq, Repr

structure FieldExpr where
  field : Field
  func : Option String
  distinct : Bool
  aliasName : Option String
deriving DecidableEq, Repr

namespace Table

def render (l : Lexicon) (t : Table) : String :=
  match t.schema with
  | some schema => l.quote schema ++ "." ++ l.quote t.name
  | none => l.quote t.name

end Table

namespace AliasedTable

/-- The name that other clauses qualify fields of the table with. -/
def reference (t : AliasedTable) : String :=
  t.aliasName.getD t.table.name

def render (l : Lexicon) (t : AliasedTable) : String :=
  match t.aliasName with
  | some aliasName => t.table.render l ++ " AS " ++ l.quote aliasName
  | none => t.table.render l

end AliasedTable

namespace Field

def parts (f : Field) : List String :=
  f.schema.toList ++ f.table.toList ++ [f.name]

def render (l : Lexicon) (f : Field) : String :=
  Text.join "." (f.parts.map l.quote)

def path (f : Field) : String :=
  Text.join "." f.parts

def qualify (f : Field) (table : String) : Field :=
  { f with table := some table }

end Field

namespace FieldExpr

def functionName (l : Lexicon) (func : String) : String :=
  Text.upper ((l.remapFunction func).getD func)

def renderBare (l : Lexicon) (e : FieldExpr) : String :=
  match e.func with
  | some func =>
    let distinct := if e.distinct then "DISTINCT " else ""
    functionName l func ++ "(" ++ distinct ++ e.field.render l ++ ")"
  | none => e.field.render l

def render (l : Lexicon) (e : FieldExpr) : String :=
  match e.aliasName with
  | some aliasName => e.renderBare l ++ " AS " ++ l.quote aliasName
  | none => e.renderBare l

end FieldExpr

end TerseSql
