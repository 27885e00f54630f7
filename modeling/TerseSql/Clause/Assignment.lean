import TerseSql.Dialect
import TerseSql.Term.Build

/-!
# Assignments

A dictionary of fields and the values they are set to. An operator in the key combines the
field with the value; a raw key is assigned to as it is.
-/

namespace TerseSql

structure AssignmentTerm where
  field : Field
  operator : Option String
deriving DecidableEq, Repr

namespace AssignmentTerm

/-- Read `schema.table.field[operator]`. -/
def ofKey (key : String) : Built AssignmentTerm :=
  match Grammar.assignment? key with
  | some k => do return { field := ← Field.ofPath k.path, operator := k.operator }
  | none => .error (.update (.unrecognizedKey key))

def render (t : AssignmentTerm) (d : Dialect) (v : Value) : Built String :=
  d.assignment t.operator (t.field.render d.toLexicon) v

end AssignmentTerm

namespace Assignment

def entry (d : Dialect) : Key × Value → Built String
  | (.raw r, v) => do return r.sql ++ "=" ++ (← d.literal v)
  | (.name key, v) => do (← AssignmentTerm.ofKey key).render d v

def render (d : Dialect) (sets : Dict Value) : Built String := do
  return Text.join "," (← sets.entries.mapM (entry d))

end Assignment

end TerseSql
