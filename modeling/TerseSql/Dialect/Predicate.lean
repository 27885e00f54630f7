import TerseSql.Dialect.Renderer

/-!
# Elementary predicates

How a condition on one field is put together from the text of the field, an operator and a
value: comparison or membership, matching of patterns, a range, and quantified comparison
with a query.
-/

namespace TerseSql

/-- A pattern between percent signs, unless it starts or ends with one. -/
def Value.wrapPattern : Value → Value
  | text s =>
    if s.toList.head? = some '%' ∨ s.toList.getLast? = some '%' then text s
    else text ("%" ++ s ++ "%")
  | v => v

def isQuantified (token : String) : Bool :=
  let lower := Text.lower token
  Text.endsWith lower "any" || Text.endsWith lower "all" || Text.endsWith lower "some"

namespace Renderer

variable (r : Renderer)

def nonEmpty (field : String) : List Value → Built (List Value)
  | [] => .error (.condition (.emptyList field))
  | items => .ok items

/-- Comparison with a scalar by `op`, or membership in a list or query by `listOp`. -/
def membership (op listOp field : String) (v : Value) : Built String :=
  match v.collapse with
  | .list items => do
    let literals ← (← nonEmpty field items).mapM r.literal
    return field ++ " " ++ listOp ++ " (" ++ Text.join "," literals ++ ")"
  | .query q => .ok (field ++ " " ++ listOp ++ " (" ++ q.sql ++ ")")
  | scalar => do return field ++ " " ++ op ++ " " ++ (← r.literal scalar)

def matchOne (op field : String) (v : Value) : Built String := do
  return field ++ " " ++ op ++ " " ++ (← r.literal v.wrapPattern)

def pattern (op joiner field : String) (v : Value) : Built String :=
  match v.collapse with
  | .list items => do
    let matches_ ← (← nonEmpty field items).mapM (r.matchOne op field)
    return "(" ++ Text.join joiner matches_ ++ ")"
  | single => r.matchOne op field single

def range (op field : String) : Value → Built String
  | .list [low, high] => do
    return field ++ " " ++ op ++ " " ++ (← r.literal low) ++ " AND " ++ (← r.literal high)
  | _ => .error (.condition (.notPair op))

def nullTest (field : String) (v : Value) : Built String :=
  if v.isNull then .ok (field ++ " IS NULL") else .error (.condition .notNull)

/-- An operator written as it is between field and value. A quantified one is written in
upper case before a term in parentheses. -/
def infixed (token field : String) (v : Value) : Built String :=
  if isQuantified token then
    match r.term? v with
    | some term => .ok (field ++ " " ++ Text.upper token ++ " (" ++ term ++ ")")
    | none => .error (.quantifier (.noSubquery token))
  else do return field ++ " " ++ token ++ " " ++ (← r.literal v)

def assignment (field : String) (v : Value) : Built String := do
  return field ++ "=" ++ (← r.literal v)

def combination (token field : String) (v : Value) : Built String := do
  return field ++ "=" ++ field ++ token ++ (← r.literal v)

end Renderer

end TerseSql
