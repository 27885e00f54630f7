import TerseSql.Error

/-!
# Columns and sources

Lists of columns and of sources are given as text with commas, as lists of names, or as
terms. Text with commas and a list of its parts are the same columns.
-/

namespace TerseSql

inductive Column where
  | name (text : String)
  | raw (sql : Raw)
  | field (f : Field)
deriving DecidableEq, Repr

namespace Column

def ofName (s : String) : Column :=
  name (Text.trim s)

def listOfText (s : String) : List Column :=
  (Text.splitNames s).map name

/-- The columns of a list of names, which are not split. -/
def listOfNames (names : List String) : List Column :=
  names.map ofName

def listOfSingle : Value → Built (List Column)
  | .text s => .ok (listOfText s)
  | .raw r => .ok [raw r]
  | .field f => .ok [field f]
  | v => .error (.field (.notColumn v))

def listOfValue : Value → Built (List Column)
  | .list items => do return (← items.mapM listOfSingle).flatten
  | v => listOfSingle v

def ofKey : Key → Column
  | .name s => name s
  | .raw r => raw r

/-- The text under which a record holds the value of a column. -/
def recordKey : Column → String
  | name s => s
  | raw r => r.sql
  | field f => f.name

end Column

inductive Source where
  | table (text : String)
  | raw (sql : Raw)
  | query (q : Query)

namespace Source

def ofName (s : String) : Source :=
  table (Text.trim s)

def listOfText (s : String) : List Source :=
  (Text.splitNames s).map table

def listOfNames (names : List String) : List Source :=
  names.map ofName

end Source

end TerseSql
