import TerseSql.Dialect
import TerseSql.Term.Build

/-!
# Sort orders

A dictionary of sort keys, each with a direction. A raw key is sorted by as it is.
-/

namespace TerseSql

inductive Direction where
  | asc
  | desc
deriving DecidableEq, Repr

namespace Direction

/-- True and null mean ascending and false descending; a word says it in any case. -/
def ofValue : Value → Built Direction
  | .null => .ok asc
  | .bool b => .ok (if b then asc else desc)
  | .text s =>
    match Text.upper (Text.trim s) with
    | "ASC" => .ok asc
    | "DESC" => .ok desc
    | _ => .error (.order (.unknownDirection s))
  | v => .error (.order (.notDirection v))

def sql : Direction → String
  | asc => "ASC"
  | desc => "DESC"

end Direction

structure OrderTerm where
  field : FieldExpr
  direction : Direction
deriving DecidableEq, Repr

namespace OrderTerm

/-- Read `schema.table.field|function` and its direction. -/
def ofEntry (key : String) (v : Value) : Built OrderTerm :=
  match Grammar.sort? key with
  | some k => do
    return { field := ← FieldExpr.make k.path k.func none, direction := ← Direction.ofValue v }
  | none => .error (.field (.unrecognizedOrder key))

def render (l : Lexicon) (t : OrderTerm) : String :=
  t.field.render l ++ " " ++ t.direction.sql

end OrderTerm

namespace Order

def entry (l : Lexicon) : Key × Value → Built String
  | (.raw r, v) => do return r.sql ++ " " ++ (← Direction.ofValue v).sql
  | (.name key, v) => do return (← OrderTerm.ofEntry key v).render l

def render (l : Lexicon) (orders : Dict Value) : Built String := do
  return Text.join "," (← orders.entries.mapM (entry l))

end Order

end TerseSql
