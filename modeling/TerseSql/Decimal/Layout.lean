import TerseSql.Decimal.Binary
import TerseSql.Decimal.Shortest

/-!
# How a floating-point number is written

Every output chooses where positional notation ends and how an exponent looks. The
digits are the shortest that read back.
-/

namespace TerseSql

/-- The choices of one output. A number `0.d₁d₂… · 10 ^ p` is positional when `p` lies from
`lowest` to `highest`. -/
structure FloatLayout where
  lowest : Int
  highest : Int
  plusExponent : Bool
  tieUp : Bool

namespace FloatLayout

def positional (digits : List Char) (point : Int) : List Char :=
  if point ≤ 0 then '0' :: '.' :: List.replicate (-point).toNat '0' ++ digits
  else if digits.length ≤ point then
    digits ++ List.replicate (point.toNat - digits.length) '0' ++ ['.', '0']
  else digits.take point.toNat ++ '.' :: digits.drop point.toNat

def scientific (l : FloatLayout) (digits : List Char) (point : Int) : List Char :=
  let e := point - 1
  let head := digits.take 1
  let tail := if digits.length ≤ 1 then [] else '.' :: digits.drop 1
  head ++ tail ++ 'e' :: (if l.plusExponent && 0 ≤ e then ['+'] else []) ++ (toString e).toList

def write (l : FloatLayout) (x : Float) : String :=
  match Binary.ofFloat x with
  | .nan => "NaN"
  | .infinite negative => if negative then "-inf" else "inf"
  | .finite negative mantissa exponent =>
    let sign := if negative then "-" else ""
    if mantissa = 0 then sign ++ "0.0"
    else
      let (d, unit) := Shortest.digits l.tieUp mantissa exponent
      let digits := Nat.toDigits 10 d
      let point := digits.length + unit
      sign ++ String.ofList
        (if l.lowest ≤ point ∧ point ≤ l.highest then positional digits point
         else l.scientific digits point)

end FloatLayout

end TerseSql
