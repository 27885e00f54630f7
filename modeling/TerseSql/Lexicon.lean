import TerseSql.Pagination
import TerseSql.Text.Basic
import TerseSql.Text.Case
import TerseSql.Text.Quoted

/-!
# What a dialect fixes without looking at values

How names, strings and truth values are written, how a window of rows is asked for, which
joins exist and which functions go by another name.
-/

namespace TerseSql

inductive Delimiters where
  | double
  | backtick
  | bracket
deriving DecidableEq, Repr

namespace Delimiters

def opening : Delimiters → Char
  | double => '"'
  | backtick => '\x60'
  | bracket => '['

def closing : Delimiters → Char
  | double => '"'
  | backtick => '\x60'
  | bracket => ']'

def quote (d : Delimiters) (name : String) : String :=
  Text.quoted d.opening d.closing name

end Delimiters

/-- A text between single quotes, which are doubled inside; `N` marks national characters. -/
def textLiteral (national : Bool) (s : String) : String :=
  (if national then "N" else "") ++ Text.quoted '\x27' '\x27' s

def boolLiteral (keywords b : Bool) : String :=
  match keywords, b with
  | true, true => "true"
  | true, false => "false"
  | false, true => "1"
  | false, false => "0"

def standardJoin : String → Option String
  | ">" => some "LEFT JOIN"
  | "<" => some "RIGHT JOIN"
  | "<>" => some "FULL OUTER JOIN"
  | "><" => some "INNER JOIN"
  | _ => none

/-- The rules of a dialect that do not concern values. `name` is its public name and `label`
the one used inside messages. A star is never quoted. -/
structure Lexicon where
  name : String
  label : String
  quoteIdentifier : String → String
  quote : String → String := fun s => if s = "*" then s else quoteIdentifier s
  quoteText : String → String := textLiteral false
  bool : Bool → String := boolLiteral false
  null : String := "NULL"
  paginate : UInt64 → Option UInt64 → Pagination :=
    fun count offset => ⟨Pagination.limitOffset count offset, .append⟩
  join : String → Option String := standardJoin
  remapFunction : String → Option String := fun _ => none

end TerseSql
