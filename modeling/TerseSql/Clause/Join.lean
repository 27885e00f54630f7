import TerseSql.Dialect
import TerseSql.Term.Build

/-!
# Joins

A dictionary of joined tables, each with the fields it is joined on: a name or a list of
names shared with the primary table, or pairs of a field of the joined table and a field of
the primary one.
-/

namespace TerseSql

structure JoinTerm where
  marker : String
  table : AliasedTable
  on : List (Field × Field)
deriving DecidableEq, Repr

namespace Primary

def reference? : Option Primary → Built (Option String)
  | none => .ok none
  | some (named reference) => .ok (some reference)
  | some unaliased => .error (.join .unaliasedPrimary)

end Primary

namespace JoinTerm

def sameField (joined : String) (primary : Option String) (name : String) :
    Built (Field × Field) := do
  let f ← Field.ofPath name
  if f.table.isSome then .error (.join (.qualifiedName name))
  else
    match primary with
    | some p => return (f.qualify joined, f.qualify p)
    | none => .error (.join .noPrimary)

def leftField : Key → Built Field
  | .raw r => .error (.join (.rawField r))
  | .name name => do
    let f ← Field.ofPath name
    if f.table.isSome then .error (.join (.qualifiedLeft name)) else return f

/-- A field of the primary table, or any qualified field if there is none. -/
def rightField (primary : Option String) (v : Value) : Built Field := do
  let f ← match v with
    | .text name => Field.ofPath name
    | .field f => .ok f
    | v => .error (.join (.notField v))
  match primary with
  | some p => if f.table.isSome then .error (.join (.qualifiedRight f.name)) else return f.qualify p
  | none => return f

def fieldPair (joined : String) (primary : Option String) : Key × Value → Built (Field × Field)
  | (key, v) => do
    let left ← leftField key
    let right ← rightField primary v
    return (left.qualify joined, right)

def listedField (joined : String) (primary : Option String) : Value → Built (Field × Field)
  | .text name => sameField joined primary name
  | v => .error (.join (.notFieldName v))

def onFields (joined : String) (primary : Option String) : Value → Built (List (Field × Field))
  | .text name => do return [← sameField joined primary name]
  | .list names => names.mapM (listedField joined primary)
  | .dict pairs => pairs.entries.mapM (fieldPair joined primary)
  | v => .error (.join (.notFields v))

/-- Read `[marker]schema.table(alias)` and the fields to join on. Without a marker the join
is an inner one. -/
def ofEntry (key : String) (v : Value) (primary : Option Primary) : Built JoinTerm :=
  match Grammar.join? key with
  | some k => do
    let table ← AliasedTable.make k.path k.aliasName
    let on ← onFields table.reference (← Primary.reference? primary) v
    return { marker := k.marker.getD "><", table, on }
  | none => .error (.join (.unrecognizedKey key))

def equality (l : Lexicon) (pair : Field × Field) : String :=
  pair.1.render l ++ "=" ++ pair.2.render l

def render (l : Lexicon) (t : JoinTerm) : Built String :=
  match l.join t.marker with
  | some keyword =>
    .ok (keyword ++ " " ++ t.table.render l ++ " ON " ++
      Text.join " AND " (t.on.map (equality l)))
  | none => .error (.join (.unknownMarker t.marker l.name))

end JoinTerm

namespace Join

def entry (l : Lexicon) (primary : Option Primary) : Key × Value → Built String
  | (.raw r, _) => .error (.join (.rawTable r))
  | (.name key, v) => do (← JoinTerm.ofEntry key v primary).render l

def render (l : Lexicon) (primary : Option Primary) (joins : Dict Value) : Built String := do
  return Text.join " " (← joins.entries.mapM (entry l primary))

end Join

end TerseSql
