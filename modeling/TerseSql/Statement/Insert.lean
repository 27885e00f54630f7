import TerseSql.Statement.Clause

/-!
# Insertions

Rows are positional lists or records; a record first gives the columns, and then all
records must have its keys. Instead of rows, queries may be given, chained by UNION.
-/

namespace TerseSql.Statement

variable (d : Dialect)

def sameKeys (a b : Dict Value) : Bool :=
  a.keys.all (b.keys.contains ·) && b.keys.all (a.keys.contains ·)

/-- Whether every record among the rows has the keys of the first. -/
def consistent (first : Dict Value) (rows : List Value) : Bool :=
  rows.all fun
    | .dict record => sameKeys record first
    | _ => true

def insertColumn : Column → Built String
  | .name text => do return (← Table.ofText text).render d.toLexicon
  | .raw r => .ok r.sql
  | .field f => .ok (d.quote f.name)

/-- The values of a row, in the order of the columns if there are any. A record that lacks a
column has null there. -/
def rowValues (columns : Option (List Column)) : Value → Built (List Value)
  | .list items => .ok items
  | .dict record =>
    match columns with
    | some columns =>
      .ok (columns.map fun c =>
        ((record.entries.find? fun e => e.1.text = c.recordKey).map (·.2)).getD .null)
    | none => .ok record.values
  | .query _ => .error (.insert .queryAmongRows)
  | v => .error (.insert (.notRow v))

def insertRow (columns : Option (List Column)) (row : Value) : Built String := do
  let literals ← (← rowValues columns row).mapM d.literal
  return "(" ++ Text.join "," literals ++ ")"

def insertQuery : Value → Built (List String)
  | .query q => .ok (chained q)
  | _ => .error (.insert .notAllQueries)

/-- The columns of an insertion: those given, else the keys of a record that comes first. -/
def insertColumns (columns : Option (List Column)) (first : Value) (rest : List Value) :
    Built (Option (List Column)) :=
  match columns.filter (!·.isEmpty) with
  | some columns => .ok (some columns)
  | none =>
    match first with
    | .dict record =>
      if consistent record rest then .ok (some (record.keys.map .ofKey))
      else .error (.insert .inconsistentKeys)
    | _ => .ok none

def columnList : Option (List Column) → Built (List String)
  | some columns => do return ["(" ++ Text.join "," (← columns.mapM (insertColumn d)) ++ ")"]
  | none => .ok []

/-- What is inserted: a chain of queries if the first row is one, else rows of values. -/
def insertBody (columns : Option (List Column)) (first : Value) (rest : List Value) :
    Built (List String) :=
  match first with
  | .query q => do return q.sql :: (← rest.mapM insertQuery).flatten
  | _ => do return ["VALUES", Text.join "," (← (first :: rest).mapM (insertRow d columns))]

def insert (table : String) (rows : List Value) (columns : Option (List Column)) :
    Building Unit :=
  match rows with
  | [] => throw (.insert (.noRows table))
  | first :: rest => do
    let table ← Table.ofText table
    let columns ← insertColumns columns first rest
    let list ← columnList d columns
    let body ← insertBody d columns first rest
    add ("INSERT INTO" :: table.render d.toLexicon :: list ++ body)

end TerseSql.Statement
