/-!
# TOML tables

Text is kept; of other scalars a document keeps only what decides whether they can be read: a
number may be too large, and a date or a time counts as a table of its parts. A table
remembers how it came about.
-/

namespace TerseSql

/-- How a table came about, which decides whether it may be opened or extended again. -/
inductive TableOrigin where
  /-- Named on the way to another table. -/
  | implicit
  /-- Opened by a header. -/
  | header
  /-- Named on the way to a key. -/
  | dotted
  /-- Written in braces. -/
  | inline
deriving DecidableEq, Repr

inductive Toml where
  | text (s : String)
  /-- A boolean, or a number that can be held. -/
  | scalar
  /-- A number too large to be held. -/
  | tooLarge
  /-- A date, a time, or both. -/
  | moment
  /-- An array; `grows` if headers add tables to it. -/
  | array (grows : Bool) (items : List Toml)
  | table (origin : TableOrigin) (entries : List (String × Toml))

namespace Toml

abbrev Entries := List (String × Toml)

/-! ## Size of numbers -/

mutual

def fits : Toml → Bool
  | .tooLarge => false
  | .array _ items => fitsItems items
  | .table _ entries => fitsEntries entries
  | _ => true

def fitsItems : List Toml → Bool
  | [] => true
  | item :: rest => fits item && fitsItems rest

def fitsEntries : List (String × Toml) → Bool
  | [] => true
  | (_, value) :: rest => fits value && fitsEntries rest

end

/-! ## Tables -/

def replace (key : String) (value : Toml) (entries : Entries) : Entries :=
  entries.map fun entry => if entry.1 = key then (key, value) else entry

def changeLast (change : Entries → Option Entries) (items : List Toml) : Option (List Toml) :=
  match items.getLast? with
  | some (.table origin inner) =>
    (change inner).map fun inner => items.dropLast ++ [.table origin inner]
  | _ => none

/-- Assign a value to a dotted key. The key itself must be new, and the table that gets it is
made or extended by dotted keys alone; those on the way to it may also come from headers that
name them on the way, or end an array of tables. -/
def put : List String → Toml → Entries → Option Entries
  | [], _, _ => none
  | [key], value, entries =>
    if (entries.lookup key).isSome then none else some (entries ++ [(key, value)])
  | key :: rest, value, entries =>
    let onTheWay : Bool := 1 < rest.length
    match entries.lookup key with
    | none => (put rest value []).map fun inner => entries ++ [(key, .table .dotted inner)]
    | some (.table origin inner) =>
      if origin = .dotted ∨ (origin = .implicit ∧ onTheWay = true) then
        (put rest value inner).map fun inner => replace key (.table origin inner) entries
      else none
    | some (.array true items) =>
      if onTheWay then
        (changeLast (put rest value) items).map fun items => replace key (.array true items) entries
      else none
    | some _ => none

def openTable (grows : Bool) : List String → Entries → Option Entries
  | [], _ => none
  | [key], entries =>
    let fresh := Toml.table .header []
    match entries.lookup key, grows with
    | none, true => some (entries ++ [(key, .array true [fresh])])
    | none, false => some (entries ++ [(key, fresh)])
    | some (.table .implicit inner), false => some (replace key (.table .header inner) entries)
    | some (.array true items), true => some (replace key (.array true (items ++ [fresh])) entries)
    | some _, _ => none
  | key :: rest, entries =>
    match entries.lookup key with
    | none =>
      (openTable grows rest []).map fun inner => entries ++ [(key, .table .implicit inner)]
    | some (.table origin inner) =>
      if origin = .inline then none
      else (openTable grows rest inner).map fun inner => replace key (.table origin inner) entries
    | some (.array true items) =>
      (changeLast (openTable grows rest) items).map fun items =>
        replace key (.array true items) entries
    | some _ => none

def within (change : Entries → Option Entries) : List String → Entries → Option Entries
  | [], entries => change entries
  | key :: rest, entries =>
    match entries.lookup key with
    | some (.table origin inner) =>
      (within change rest inner).map fun inner => replace key (.table origin inner) entries
    | some (.array grows items) =>
      (changeLast (within change rest) items).map fun items =>
        replace key (.array grows items) entries
    | _ => none

end Toml

end TerseSql
