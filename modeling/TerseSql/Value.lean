import TerseSql.Dict
import TerseSql.Json.Basic
import TerseSql.Query
import TerseSql.Term

/-!
# Values

The right-hand side of an entry: a literal, a collection of values, a JSON document, or a
term that is SQL already.
-/

namespace TerseSql

inductive Value where
  | null
  | bool (b : Bool)
  | int (n : Int64)
  | float (x : Float)
  | text (s : String)
  | list (items : List Value)
  | dict (entries : Dict Value)
  | raw (sql : Raw)
  | field (f : Field)
  | query (q : Query)
  | json (document : Json)

namespace Value

instance : Inhabited Value := ⟨null⟩

def isNull : Value → Bool
  | null => true
  | _ => false

/-- Whether a value is SQL already rather than a literal. -/
def isTerm : Value → Bool
  | raw _ | field _ | query _ => true
  | _ => false

def text? : Value → Option String
  | text s => some s
  | _ => none

/-- Whether a value counts as given: empty and zero values do not. -/
def isTruthy : Value → Bool
  | null => false
  | bool b => b
  | int n => n != 0
  | float x => x != 0
  | text s => !s.isEmpty
  | list items => !items.isEmpty
  | dict entries => !entries.isEmpty
  | raw _ | field _ | query _ => true
  | json document => !document.isNull

/-- A list of one value stands for that value. -/
def collapse : Value → Value
  | list [item] => item
  | v => v

mutual

/-- Equality of values. Numbers compare as numbers, queries by the SQL they render. -/
def equal : Value → Value → Bool
  | null, null => true
  | bool a, bool b => a == b
  | int m, int n => m == n
  | float x, float y => x == y
  | text s, text t => s == t
  | list xs, list ys => equalItems xs ys
  | dict ⟨xs⟩, dict ⟨ys⟩ => equalEntries xs ys
  | raw r, raw s => r == s
  | field f, field g => f == g
  | query p, query q => p.sql == q.sql
  | json a, json b => a.equal b
  | _, _ => false

def equalItems : List Value → List Value → Bool
  | [], [] => true
  | x :: xs, y :: ys => equal x y && equalItems xs ys
  | _, _ => false

def equalEntries : List (Key × Value) → List (Key × Value) → Bool
  | [], [] => true
  | (k, x) :: xs, (l, y) :: ys => k == l && equal x y && equalEntries xs ys
  | _, _ => false

end

end Value

end TerseSql
