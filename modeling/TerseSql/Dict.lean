/-!
# Insertion-ordered dictionaries

A query is a dictionary of entries in the order in which they were given. A key is a name,
which the clause that reads it takes apart, or a piece of raw SQL; the two are never equal.
-/

namespace TerseSql

/-- SQL taken as it is, never quoted or escaped. -/
structure Raw where
  sql : String
deriving DecidableEq, Repr

inductive Key where
  | name (text : String)
  | raw (sql : Raw)
deriving DecidableEq, Repr

namespace Key

def text : Key → String
  | name s => s
  | raw r => r.sql

def name? : Key → Option String
  | name s => some s
  | raw _ => none

end Key

structure Dict (α : Type) where
  entries : List (Key × α)

namespace Dict

variable {α : Type}

def empty : Dict α := ⟨[]⟩

def insertEntry (key : Key) (value : α) : List (Key × α) → List (Key × α)
  | [] => [(key, value)]
  | (k, v) :: rest => if k = key then (k, value) :: rest else (k, v) :: insertEntry key value rest

def insert (d : Dict α) (key : Key) (value : α) : Dict α :=
  ⟨insertEntry key value d.entries⟩

def ofList (entries : List (Key × α)) : Dict α :=
  entries.foldl (fun d entry => d.insert entry.1 entry.2) empty

def get? (d : Dict α) (name : String) : Option α :=
  d.entries.lookup (.name name)

def removeEntry (key : Key) : List (Key × α) → Option α × List (Key × α)
  | [] => (none, [])
  | (k, v) :: rest =>
    if k = key then (some v, rest)
    else ((removeEntry key rest).1, (k, v) :: (removeEntry key rest).2)

def remove (d : Dict α) (name : String) : Option α × Dict α :=
  ((removeEntry (.name name) d.entries).1, ⟨(removeEntry (.name name) d.entries).2⟩)

def contains (d : Dict α) (name : String) : Bool :=
  (d.get? name).isSome

def size (d : Dict α) : Nat := d.entries.length

def isEmpty (d : Dict α) : Bool := d.entries.isEmpty

def keys (d : Dict α) : List Key := d.entries.map (·.1)

def values (d : Dict α) : List α := d.entries.map (·.2)

end Dict

end TerseSql
