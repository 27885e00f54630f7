/-!
# Pagination

A statement is cut to a window of rows: a count and how many rows come before it. A
dialect writes the window as a fragment and says where in the statement it belongs.
-/

namespace TerseSql

inductive Placement where
  /-- After the last term. -/
  | append
  /-- Before the term of this index. -/
  | index (n : Nat)
  /-- Conjoined with the predicate of WHERE, which is opened if there is none. -/
  | inWhere
deriving DecidableEq, Repr

structure Pagination where
  sql : String
  placement : Placement
deriving DecidableEq, Repr

/-- A window of `count` rows. An offset of zero is no offset. -/
structure Window where
  count : UInt64
  offset : Option UInt64
  offset_ne_zero : offset ≠ some 0

def Window.make (count : UInt64) (offset : Option UInt64) : Window where
  count := count
  offset := offset.filter (· ≠ 0)
  offset_ne_zero := by cases offset <;> simp [Option.filter]

namespace Pagination

def saturatingAdd (a b : UInt64) : UInt64 :=
  if a.toNat + b.toNat < UInt64.size then a + b else UInt64.ofNat (UInt64.size - 1)

def number (n : UInt64) : String := toString n.toNat

def limitOffset (count : UInt64) : Option UInt64 → String
  | some offset => "LIMIT " ++ number count ++ " OFFSET " ++ number offset
  | none => "LIMIT " ++ number count

def offsetFetch (count offset : UInt64) : String :=
  "OFFSET " ++ number offset ++ " ROWS FETCH NEXT " ++ number count ++ " ROWS ONLY"

/-- A range of row numbers, both ends included. -/
def rowNumbers (count : UInt64) : Option UInt64 → String
  | some offset =>
    "ROWNUM >= " ++ number offset ++ " AND ROWNUM <= " ++ number (saturatingAdd offset count)
  | none => "ROWNUM <= " ++ number count

end Pagination

end TerseSql
