import TerseSql.Decimal.Binary

/-!
# Reading a decimal

A decimal is read to the nearest floating-point number, a tie going to the even mantissa.
The quotient is rounded in exact arithmetic.
-/

namespace TerseSql

/-- A decimal `± mantissa · 10 ^ exponent`. -/
structure Decimal where
  negative : Bool
  mantissa : Nat
  exponent : Int
deriving DecidableEq, Repr

/-- A floating-point format: bits of the mantissa, the least exponent, and the power of two
at which numbers become infinite. -/
structure Precision where
  bits : Nat
  lowest : Int
  ceiling : Int

def Precision.double : Precision := ⟨53, -1074, 1024⟩

def Precision.single : Precision := ⟨24, -149, 128⟩

namespace Decimal

/-- A quotient rounded to the nearest integer, a tie to the even one. -/
def divideToEven (numerator denominator : Nat) : Nat :=
  let q := numerator / denominator
  let r := 2 * (numerator % denominator)
  if r < denominator then q
  else if denominator < r then q + 1
  else if q % 2 = 0 then q else q + 1

/-- The exponent `e` with `2 ^ e ≤ numerator / denominator < 2 ^ (e + 1)`. -/
def floorLog2 (numerator denominator : Nat) : Int :=
  let e : Int := (numerator.log2 : Int) - denominator.log2
  if denominator * Nat.pow 2 e.toNat ≤ numerator * Nat.pow 2 (-e).toNat then e else e - 1

def roundQuotient (p : Precision) (negative : Bool) (numerator denominator : Nat) : Binary :=
  let e := max p.lowest (floorLog2 numerator denominator - p.bits + 1)
  let m := divideToEven (numerator * Nat.pow 2 (-e).toNat) (denominator * Nat.pow 2 e.toNat)
  if m ≠ 0 ∧ p.ceiling ≤ m.log2 + e then .infinite negative else .finite negative m e

/-- The nearest number of a format. Exponents far outside every format are settled first. -/
def nearest (p : Precision) (d : Decimal) : Binary :=
  let point := (Nat.toDigits 10 d.mantissa).length + d.exponent
  if d.mantissa = 0 ∨ point < -400 then .finite d.negative 0 0
  else if 400 < point then .infinite d.negative
  else
    roundQuotient p d.negative (d.mantissa * Nat.pow 10 d.exponent.toNat)
      (Nat.pow 10 (-d.exponent).toNat)

def toFloat (d : Decimal) : Float :=
  (d.nearest .double).toFloat

/-! ## Text -/

def ofDigits (cs : List Char) : Nat :=
  cs.foldl (fun n c => 10 * n + (c.toNat - 48)) 0

def readExponent : List Char → Option Int
  | [] => some 0
  | c :: rest =>
    if c = 'e' ∨ c = 'E' then
      let (negative, digits) := match rest with
        | '-' :: r => (true, r)
        | '+' :: r => (false, r)
        | r => (false, r)
      if digits.isEmpty || !digits.all Char.isDigit then none
      else some (if negative then -(ofDigits digits : Int) else ofDigits digits)
    else none

/-- Digits, optionally a point and more digits, optionally an exponent; at least one digit
before the exponent. -/
def readUnsigned (negative : Bool) (cs : List Char) : Option Decimal :=
  let whole := cs.takeWhile Char.isDigit
  let (fraction, rest) := match cs.dropWhile Char.isDigit with
    | '.' :: r => (r.takeWhile Char.isDigit, r.dropWhile Char.isDigit)
    | r => ([], r)
  if whole.isEmpty && fraction.isEmpty then none
  else
    (readExponent rest).map fun e =>
      ⟨negative, ofDigits (whole ++ fraction), e - fraction.length⟩

def ofText? (s : String) : Option Decimal :=
  match s.toList with
  | '-' :: rest => readUnsigned true rest
  | '+' :: rest => readUnsigned false rest
  | cs => readUnsigned false cs

end Decimal

def readFloat? (p : Precision) (s : String) : Option Float :=
  match s with
  | "NaN" => some Binary.nan.toFloat
  | "inf" => some (Binary.infinite false).toFloat
  | "-inf" => some (Binary.infinite true).toFloat
  | _ => (Decimal.ofText? s).map fun d => (d.nearest p).toFloat

end TerseSql
