import TerseSql.Clause.Assignment
import TerseSql.Clause.Condition
import TerseSql.Clause.Join
import TerseSql.Clause.Order
import TerseSql.Clause.Window
import TerseSql.Statement.Column

/-!
# Clauses

A clause is a change of the statement under construction: it adds one or more terms. A
change may fail halfway, and what it did until then stays.
-/

namespace TerseSql

namespace Statement

def push (s : Statement) (terms : List String) : Statement :=
  { s with terms := s.terms ++ terms }

end Statement

abbrev Building (α : Type) := EStateM BuildError Statement α

def Building.ofBuilt {α : Type} : Built α → Building α
  | .ok a => pure a
  | .error e => throw e

instance : MonadLift Built Building := ⟨Building.ofBuilt⟩

namespace Statement

variable (d : Dialect)

def add (terms : List String) : Building Unit :=
  modify (·.push terms)

/-! ## SELECT and FROM -/

def selected : Column → Built String
  | .name "" => .ok "*"
  | .name text => do return (← FieldExpr.ofText text).render d.toLexicon
  | .raw r => .ok r.sql
  | .field f => .ok (f.render d.toLexicon)

def selectList (columns : List Column) : Built String := do
  let rendered ← if columns.isEmpty then pure ["*"] else columns.mapM (selected d)
  return Text.join "," rendered

def select (columns : List Column) (distinct : Bool) : Building Unit := do
  let list ← selectList d columns
  add [if distinct then "SELECT DISTINCT" else "SELECT", list]

def source : Source → Built (String × Option Primary)
  | .table text => do
    let t ← AliasedTable.ofText text
    return (t.render d.toLexicon, some (.named t.reference))
  | .query q =>
    .ok (q.sql, some (match q.wrapping with
      | .named aliasName => .named aliasName
      | _ => .unaliased))
  | .raw r => .ok (r.sql, none)

def sourceList (sources : List Source) : Built (String × Option Primary) := do
  match ← sources.mapM (source d) with
  | [] => .error (.table .noSource)
  | (first, primary) :: rest => return (Text.join "," (first :: rest.map (·.1)), primary)

/-- `FROM` with its sources. The first one becomes the primary table. -/
def fromSources (sources : List Source) : Building Unit := do
  let (list, primary) ← sourceList d sources
  modify ({ · with primary })
  add ["FROM", list]

def withTable (keyword table : String) : Building Unit := do
  add [keyword, (← Table.ofText table).render d.toLexicon]

def into (table : String) : Building Unit :=
  withTable d "INTO" table

def join (joins : Dict Value) : Building Unit := do
  let s ← get
  add [← Join.render d.toLexicon s.primary joins]

/-! ## Predicates and order -/

def withPredicate (keyword : String) (conditions : Dict Value) : Building Unit :=
  if conditions.isEmpty then pure ()
  else do add [keyword, ← Condition.render d conditions]

def filter (conditions : Dict Value) : Building Unit :=
  withPredicate d "WHERE" conditions

def having (conditions : Dict Value) : Building Unit :=
  withPredicate d "HAVING" conditions

def orderBy (orders : Dict Value) : Building Unit := do
  add ["ORDER BY", ← Order.render d.toLexicon orders]

def grouped : Column → Built String
  | .name path => do return (← Field.ofPath path).render d.toLexicon
  | .raw r => .ok r.sql
  | .field f => .ok (f.render d.toLexicon)

def groupList (columns : List Column) : Built String := do
  return Text.join "," (← columns.mapM (grouped d))

def groupBy (columns : List Column) : Building Unit := do
  add ["GROUP BY", ← groupList d columns]

/-! ## Pagination -/

/-- Whether a predicate may hold a connective of its own. -/
def isCompound (predicate : String) : Bool :=
  Text.contains predicate " AND " || Text.contains predicate " OR "

/-- A fragment conjoined with the predicate that starts the terms after `WHERE`. -/
def conjoinPredicate (fragment : String) : List String → List String
  | [] => ["AND (" ++ fragment ++ ")"]
  | predicate :: rest =>
    -- Without parentheses an OR in the predicate would be the looser one.
    if isCompound predicate then
      ("(" ++ predicate ++ ") AND (" ++ fragment ++ ")") :: rest
    else predicate :: ("AND (" ++ fragment ++ ")") :: rest

def conjoinWhere (fragment : String) : List String → Option (List String)
  | [] => none
  | term :: rest =>
    if term = "WHERE" then some ("WHERE" :: conjoinPredicate fragment rest)
    else (conjoinWhere fragment rest).map (term :: ·)

def isUnion (term : String) : Bool :=
  term == "UNION" || term == "UNION ALL"

def followsWhere (term : String) : Bool :=
  term == "ORDER BY" || term == "GROUP BY" || term == "HAVING"

/-- The place of a new WHERE: before the first clause of the first query that follows it,
else at the end. -/
def whereSlot (terms : List String) : Nat :=
  -- If no clause of the first query follows, the end is that of the whole chain.
  ((terms.takeWhile (!isUnion ·)).findIdx? followsWhere).getD terms.length

def insertAt (index : Nat) (added terms : List String) : List String :=
  terms.take index ++ added ++ terms.drop index

def place (p : Pagination) (terms : List String) : List String :=
  match p.placement with
  | .append => terms ++ [p.sql]
  | .index n => insertAt n [p.sql] terms
  | .inWhere =>
    (conjoinWhere p.sql terms).getD (insertAt (whereSlot terms) ["WHERE", p.sql] terms)

def limit (v : Value) : Building Unit := do
  let w ← Window.ofValue v
  modify fun s => { s with terms := place (w.fragment d.toLexicon) s.terms }

/-! ## Queries beside the statement -/

def existence (q : Query) : Building Unit :=
  add ["EXISTS", q.sql]

def union (q : Query) (all : Bool) : Building Unit :=
  add ("UNION" :: (if all then ["ALL"] else []) ++ [q.sql])

/-- A further query of a chain. A wrapped one is added unwrapped and keeps duplicates. -/
def chained (q : Query) : List String :=
  if q.wrapping.isSet then ["UNION ALL", q.body] else ["UNION", q.sql]

/-! ## Changing rows -/

def update (table : String) : Building Unit :=
  withTable d "UPDATE" table

def set (sets : Dict Value) : Building Unit := do
  add ["SET", ← Assignment.render d sets]

def delete (table : String) : Building Unit :=
  withTable d "DELETE FROM" table

end Statement

end TerseSql
