import TerseSql.Dialect
import TerseSql.Term.Build

/-!
# Conditions

A dictionary of conditions is a tree. A raw key stands for itself, `AND` and `OR` group
what is under them, and any other key names a field, how it is compared, and whether the
comparison is negated.
-/

namespace TerseSql

structure ConditionTerm where
  negated : Bool
  field : FieldExpr
  operator : Option String
deriving DecidableEq, Repr

namespace ConditionTerm

/-- Read `!field|function[operator]#comment`. A blank operator is none. -/
def ofKey (key : String) : Built ConditionTerm :=
  match Grammar.condition? key with
  | some k => do
    return {
      negated := k.negated
      field := ← FieldExpr.make (Text.trim k.path) k.func none
      operator := k.operator.filter fun op => !Text.isAllBlank op }
  | none => .error (.condition (.unrecognizedKey key))

def render (t : ConditionTerm) (d : Dialect) (v : Value) : Built String := do
  let condition ← d.condition t.operator (t.field.render d.toLexicon) v
  return if t.negated then "NOT " ++ condition else condition

end ConditionTerm

namespace Condition

variable (d : Dialect)

def leaf (name : String) (v : Value) : Built String := do
  (← ConditionTerm.ofKey name).render d v

def single (key : Key) (v : Value) : Built String :=
  match key with
  | .raw r => .ok r.sql
  | .name name =>
    match Connective.ofKey? name with
    | some c => .error (.condition (.notGroup c v))
    | none => leaf d name v

/-- An entry whose value may be a group of conditions, rendered as `members`. The value of a
raw key is ignored. -/
def collection (key : Key) (v : Value) (members : Built (List String)) : Built String :=
  match key with
  | .raw r => .ok r.sql
  | .name name =>
    match Connective.ofKey? name with
    | some c => do return c.group (← members)
    | none => leaf d name v

def pairKey : Value → Built Key
  | .text name => .ok (.name name)
  | .raw r => .ok (.raw r)
  | k => .error (.condition (.notKey k))

mutual

def entry (key : Key) : Value → Built String
  | .dict ⟨entries⟩ => collection d key (.dict ⟨entries⟩) (entriesOf entries)
  | .list items => collection d key (.list items) (itemsOf items)
  | v => single d key v

def entriesOf : List (Key × Value) → Built (List String)
  | [] => .ok []
  | (key, v) :: rest => do
    let first ← entry key v
    let others ← entriesOf rest
    return first :: others

/-- Items of a group in list form: a pair of key and value, or a key alone, which is paired
with null. -/
def itemsOf : List Value → Built (List String)
  | [] => .ok []
  | .list [k, v] :: rest => do
    let key ← pairKey k
    let first ← entry key v
    let others ← itemsOf rest
    return first :: others
  | .raw r :: rest => do
    let others ← itemsOf rest
    return r.sql :: others
  | .text name :: rest => do
    let first ← single d (.name name) .null
    let others ← itemsOf rest
    return first :: others
  | item :: _ => .error (.condition (.notItem item))

end

/-- Whether every parenthesis closes within the text, outside quotes. `quote` is the mark
inside whose text the reading is, `depth` the number of parentheses open. -/
def closesWithin (quote : Option Char) (depth : Nat) : List Char → Bool
  | [] => quote.isNone && depth == 0
  | c :: rest =>
    match quote with
    | some q => closesWithin (if c = q then none else some q) depth rest
    | none =>
      if c = '\x27' ∨ c = '"' ∨ c = '\x60' then closesWithin (some c) depth rest
      else if c = '(' then closesWithin none (depth + 1) rest
      else if c = ')' then depth != 0 && closesWithin none (depth - 1) rest
      else closesWithin none depth rest

/-- The inside of a text that is one group in parentheses. -/
def inside? (sql : String) : Option String :=
  match sql.toList with
  | '(' :: rest =>
    if rest.getLast? = some ')' ∧ closesWithin none 0 rest.dropLast = true then
      some (String.ofList rest.dropLast)
    else none
  | _ => none

/-- Conditions joined by AND. A single one that is a group loses its parentheses. -/
def conjoin : List String → String
  | [only] => (inside? only).getD only
  | terms => Text.join " AND " terms

def render (conditions : Dict Value) : Built String := do
  return conjoin (← entriesOf d conditions.entries)

end Condition

end TerseSql
