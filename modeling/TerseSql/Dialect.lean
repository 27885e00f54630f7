import TerseSql.Dialect.Predicate
import TerseSql.Dialect.Registry
import TerseSql.Value.Json

/-!
# Dialects

A dialect is a record of rules. Every rule but the marks around names has a standard form,
so a dialect states only where it differs, and a new one needs no change here. Operators
that only one dialect knows are handlers in its registries.
-/

namespace TerseSql

abbrev Handler := Renderer → String → Value → Built String

def assignJson : Handler := fun r field v => do
  return field ++ "=" ++ r.quoteText (← v.toJson).write

def standardUpdates : Registry Handler :=
  .ofList [("json", assignJson)]

structure Dialect extends Renderer where
  equals : String → Value → Built String := toRenderer.membership "=" "IN"
  notEquals : String → Value → Built String := toRenderer.membership "<>" "NOT IN"
  like : String → Value → Built String := toRenderer.pattern "LIKE" " OR "
  notLike : String → Value → Built String := toRenderer.pattern "NOT LIKE" " AND "
  between : String → Value → Built String := toRenderer.range "BETWEEN"
  notBetween : String → Value → Built String := toRenderer.range "NOT BETWEEN"
  isNull : String → Value → Built String := Renderer.nullTest
  defaultOperator : String → String → Value → Built String := toRenderer.infixed
  operators : Registry Handler := .empty
  assign : String → Value → Built String := toRenderer.assignment
  defaultUpdate : String → String → Value → Built String := toRenderer.combination
  updateOperators : Registry Handler := standardUpdates

/-! ## Operators that every dialect knows -/

inductive Operator where
  | eq
  | ne
  | like
  | notLike
  | between
  | notBetween
  | isNull
deriving DecidableEq, Repr

namespace Operator

def ofToken? (token : String) : Option Operator :=
  match token with
  | "=" => some eq
  | "!" => some ne
  | "!=" => some ne
  | "~" => some like
  | "!~" => some notLike
  | "<>" => some between
  | "><" => some notBetween
  | "==" => some isNull
  | _ => if Text.equalsIgnoringAsciiCase token "is" then some isNull else none

def render (op : Operator) (d : Dialect) : String → Value → Built String :=
  match op with
  | eq => d.equals
  | ne => d.notEquals
  | like => d.like
  | notLike => d.notLike
  | between => d.between
  | notBetween => d.notBetween
  | isNull => d.isNull

end Operator

namespace Dialect

/-- A condition. A missing or blank token means equality. A registered handler goes before
an operator that every dialect knows, and that before the default rule. -/
def condition (d : Dialect) (token : Option String) (field : String) (v : Value) : Built String :=
  let token := (token.filter fun t => !Text.isAllBlank t).getD "="
  match d.operators.find? token with
  | some handler => handler d.toRenderer field v
  | none =>
    match Operator.ofToken? token with
    | some op => op.render d field v
    | none => d.defaultOperator token field v

def assignment (d : Dialect) (token : Option String) (field : String) (v : Value) : Built String :=
  match token with
  | none => d.assign field v
  | some token =>
    if token = "=" then d.assign field v
    else
      match d.updateOperators.find? token with
      | some handler => handler d.toRenderer field v
      | none => d.defaultUpdate token field v

end Dialect

end TerseSql
