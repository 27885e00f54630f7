import TerseSql.Statement.Insert

/-!
# Whole statements

A whole statement is a plan: its clauses in the order in which they are added, some of
which may turn out not to be readable. A run stops at the first failure, and what was built
until then is part of the outcome.
-/

namespace TerseSql

inductive Clause where
  | select (columns : List Column) (distinct : Bool)
  | fromSources (sources : List Source)
  | into (table : String)
  | join (joins : Dict Value)
  | filter (conditions : Dict Value)
  | orderBy (orders : Dict Value)
  | limit (v : Value)
  | groupBy (columns : List Column)
  | having (conditions : Dict Value)
  | existence (q : Query)
  | union (q : Query) (all : Bool)
  | insert (table : String) (rows : List Value) (columns : Option (List Column))
  | update (table : String)
  | set (sets : Dict Value)
  | delete (table : String)

def Clause.add (d : Dialect) : Clause → Building Unit
  | select columns distinct => Statement.select d columns distinct
  | fromSources sources => Statement.fromSources d sources
  | into table => Statement.into d table
  | join joins => Statement.join d joins
  | filter conditions => Statement.filter d conditions
  | orderBy orders => Statement.orderBy d orders
  | limit v => Statement.limit d v
  | groupBy columns => Statement.groupBy d columns
  | having conditions => Statement.having d conditions
  | existence q => Statement.existence q
  | union q all => Statement.union q all
  | insert table rows columns => Statement.insert d table rows columns
  | update table => Statement.update d table
  | set sets => Statement.set d sets
  | delete table => Statement.delete d table

structure Outcome where
  statement : Statement
  error : Option BuildError

abbrev Plan := List (Built Clause)

/-- Add the clauses of a plan in turn, up to the first that fails. -/
def Plan.run (d : Dialect) : Plan → Statement → Outcome
  | [], s => ⟨s, none⟩
  | .error e :: _, s => ⟨s, some e⟩
  | .ok clause :: rest, s =>
    match (clause.add d).run s with
    | .ok _ next => Plan.run d rest next
    | .error e left => ⟨left, some e⟩

/-! ## Selection -/

structure SelectOptions where
  join : Option (Dict Value)
  distinct : Bool
  into : Option String
  wrapping : Option Wrapping

def SelectOptions.none : SelectOptions := ⟨.none, false, .none, .none⟩

/-- Clauses that conditions may carry under a name of their own. A value that does not
count as given is dropped. -/
structure Lifted where
  order : Option Value
  limit : Option Value
  group : Option Value
  having : Option Value
  exists_ : Option Value
  /-- The conditions that remain. -/
  conditions : Dict Value

def Lifted.ofConditions (conditions : Dict Value) : Lifted :=
  let given (v : Option Value) := v.filter Value.isTruthy
  let (order, conditions) := conditions.remove "ORDER"
  let (limit, conditions) := conditions.remove "LIMIT"
  let (group, conditions) := conditions.remove "GROUP"
  let (having, conditions) := conditions.remove "HAVING"
  let (exists_, conditions) := conditions.remove "EXISTS"
  ⟨given order, given limit, given group, given having, given exists_, conditions⟩

def Column.sortKey : Column → Key
  | name s => .name s
  | raw r => .raw r
  | field f => .name f.path

namespace Clause

def ofOrder : Value → Built Clause
  | .dict orders => .ok (orderBy orders)
  | .raw r => .ok (orderBy (Dict.empty.insert (.raw r) .null))
  | v =>
    match Column.listOfValue v with
    | .ok columns => .ok (orderBy (.ofList (columns.map fun c => (c.sortKey, .null))))
    | .error _ => .error (.order (.notOrder v))

def ofGroup (v : Value) : Built Clause := do
  return groupBy (← Column.listOfValue v)

def ofHaving : Value → Built Clause
  | .dict conditions => .ok (having conditions)
  | v => .error (.condition (.notHaving v))

def ofExists : Value → Built Clause
  | .query q => .ok (existence q)
  | v => .error (.condition (.notExists v))

end Clause

namespace Plan

def joins (joins : Option (Dict Value)) : Plan :=
  match joins with
  | some joins => if joins.isEmpty then [] else [.ok (.join joins)]
  | none => []

def select (sources : List Source) (columns : List Column) (conditions : Dict Value)
    (options : SelectOptions) : Plan :=
  let lifted := Lifted.ofConditions conditions
  [.ok (.select columns options.distinct)]
    ++ (options.into.map fun table => .ok (.into table)).toList
    ++ [.ok (.fromSources sources)]
    ++ joins options.join
    ++ [.ok (.filter lifted.conditions)]
    ++ (lifted.order.map Clause.ofOrder).toList
    ++ (lifted.limit.map fun v => .ok (.limit v)).toList
    ++ (lifted.group.map Clause.ofGroup).toList
    ++ (lifted.having.map Clause.ofHaving).toList
    ++ (lifted.exists_.map Clause.ofExists).toList

def update (table : String) (sets : Dict Value) (conditions : Option (Dict Value)) : Plan :=
  [.ok (.update table), .ok (.set sets)] ++
    (conditions.map fun conditions => .ok (.filter conditions)).toList

def delete (table : String) (conditions : Dict Value) : Plan :=
  [.ok (.delete table), .ok (.filter conditions)]

end Plan

inductive InsertHead where
  | columns (columns : List Column)
  | row (values : List Value)
  /-- A record: its keys are the columns, its values the first row. -/
  | record (entries : Dict Value)

def InsertHead.clause (table : String) (rows : List Value) : InsertHead → Clause
  | .columns given => .insert table rows (some given)
  | .row values => .insert table (.list values :: rows) none
  | .record entries => .insert table (.dict entries :: rows) none

/-! ## Calls -/

inductive Call where
  | clause (c : Clause)
  | select (sources : List Source) (columns : List Column) (conditions : Option (Dict Value))
      (options : SelectOptions)
  | update (table : String) (sets : Dict Value) (conditions : Option (Dict Value))
  | delete (table : String) (conditions : Dict Value)
  | insert (table : String) (head : InsertHead) (rows : List Value)
  | union (queries : List Query)
  | wrap (aliasName : Option String)
  | clear

namespace Statement

/-- A chain of queries. The first one starts an empty statement, without its wrapping. -/
def chain (queries : List Query) (s : Statement) : Statement :=
  match queries with
  | [] => s
  | first :: rest =>
    if s.isEmpty then s.push (first.body :: rest.flatMap chained)
    else s.push ((first :: rest).flatMap chained)

def finish (wrapping : Option Wrapping) (o : Outcome) : Outcome :=
  match o.error, wrapping with
  | none, some w => { o with statement := { o.statement with wrapping := w } }
  | _, _ => o

end Statement

def Call.run (d : Dialect) (s : Statement) : Call → Outcome
  | clause c => Plan.run d [.ok c] s
  | select sources columns conditions options =>
    Statement.finish options.wrapping
      (Plan.run d (Plan.select sources columns (conditions.getD .empty) options) s)
  | update table sets conditions => Plan.run d (Plan.update table sets conditions) s
  | delete table conditions => Plan.run d (Plan.delete table conditions) s
  | insert table head rows => Plan.run d [.ok (head.clause table rows)] s
  | union queries => ⟨s.chain queries, none⟩
  | wrap aliasName => ⟨{ s with wrapping := .ofAlias aliasName }, none⟩
  | clear => ⟨.empty, none⟩

end TerseSql
