import TerseSql.Text.Basic
import TerseSql.Text.Case

/-!
# Connectives

The keys `AND` and `OR`, in any case and perhaps with a `#comment` that keeps two of them
apart in one dictionary, group the conditions under them.
-/

namespace TerseSql

inductive Connective where
  | and
  | or
deriving DecidableEq, Repr

namespace Connective

def ofKey? (key : String) : Option Connective :=
  let head := Text.trim (String.ofList (key.toList.takeWhile (· ≠ '#')))
  if Text.equalsIgnoringAsciiCase head "AND" then some and
  else if Text.equalsIgnoringAsciiCase head "OR" then some or
  else none

def separator : Connective → String
  | and => " AND "
  | or => " OR "

def label : Connective → String
  | and => "And"
  | or => "Or"

def group (c : Connective) : List String → String
  | [single] => single
  | terms => "(" ++ Text.join c.separator terms ++ ")"

end Connective

end TerseSql
