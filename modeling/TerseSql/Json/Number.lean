import TerseSql.Decimal.Nearest
import TerseSql.Json.Basic

/-!
# Reading numbers of JSON

An integer of 64 bits is kept as it is. Any other number is read to the nearest double, and
one that would become infinite is refused.
-/

namespace TerseSql.JsonNumber

/-! ## Parts -/

/-- Digits of an integer part: a single zero, or digits that start with none. -/
def whole? (cs : List Char) : Option (List Char × List Char) :=
  match cs with
  | '0' :: rest => if (rest.head?.map Char.isDigit).getD false then none else some (['0'], rest)
  | _ =>
    let digits := cs.takeWhile Char.isDigit
    if digits.isEmpty then none else some (digits, cs.dropWhile Char.isDigit)

def fraction? : List Char → Option (List Char × List Char)
  | '.' :: rest =>
    let digits := rest.takeWhile Char.isDigit
    if digits.isEmpty then none else some (digits, rest.dropWhile Char.isDigit)
  | cs => some ([], cs)

def exponent? : List Char → Option (Option Int × List Char)
  | [] => some (none, [])
  | c :: rest =>
    if c = 'e' ∨ c = 'E' then
      let (negative, rest) := match rest with
        | '+' :: r => (false, r)
        | '-' :: r => (true, r)
        | r => (false, r)
      let digits := rest.takeWhile Char.isDigit
      let n : Int := Decimal.ofDigits digits
      if digits.isEmpty then none
      else some (some (if negative then -n else n), rest.dropWhile Char.isDigit)
    else some (none, c :: rest)

/-! ## Numbers -/

/-- A number from its parts. An integer of 64 bits, signed or not, stays one, except minus
zero. -/
def ofParts? (negative : Bool) (whole fraction : List Char) (exponent : Option Int) :
    Option JsonNumber :=
  let n := Decimal.ofDigits whole
  let isInteger := exponent.isNone && fraction.isEmpty
  if isInteger && !negative && n < UInt64.size then some (.integer n)
  else if isInteger && negative && n ≠ 0 && n ≤ UInt64.size / 2 then some (.integer (-(n : Int)))
  else
    let unit := exponent.getD 0 - (fraction.length : Int)
    let x := Decimal.nearest .double ⟨negative, Decimal.ofDigits (whole ++ fraction), unit⟩
    if x.isFinite then some (.float x.toFloat) else none

def read? (cs : List Char) : Option (JsonNumber × List Char) := do
  let (negative, cs) := match cs with
    | '-' :: r => (true, r)
    | r => (false, r)
  let (whole, cs) ← whole? cs
  let (fraction, cs) ← fraction? cs
  let (exponent, cs) ← exponent? cs
  return (← ofParts? negative whole fraction exponent, cs)

end TerseSql.JsonNumber
