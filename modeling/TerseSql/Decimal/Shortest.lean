import TerseSql.Decimal.Binary

/-!
# Shortest decimal digits

Of all decimals that read back as a given binary number, the ones with the fewest digits
are sought, and of those the nearest. On the grid of decimals with `n` digits only the
two neighbours of the number can be nearest, so each grid is settled by looking at them.
-/

namespace TerseSql.Shortest

/-- A positive number and the interval of reals that round to it, as numerators over one
denominator. -/
structure Target where
  value : Nat
  lower : Nat
  upper : Nat
  denominator : Nat
  closed : Bool

/-- The number `mantissa · 2 ^ exponent`. The gap below a power of two is half as wide as
the gap above it. Ends belong to the interval when the mantissa is even. -/
def target (mantissa : Nat) (exponent : Int) : Target :=
  let below := if mantissa = Binary.hiddenBit ∧ -1074 < exponent then 1 else 2
  let scale := Nat.pow 2 (exponent - 2).toNat
  { value := 4 * mantissa * scale
    lower := (4 * mantissa - below) * scale
    upper := (4 * mantissa + 2) * scale
    denominator := Nat.pow 2 (2 - exponent).toNat
    closed := mantissa % 2 == 0 }

def Target.holds (t : Target) (numerator denominator : Nat) : Bool :=
  let x := numerator * t.denominator
  if t.closed then t.lower * denominator ≤ x && x ≤ t.upper * denominator
  else t.lower * denominator < x && x < t.upper * denominator

def leadingZeros : Nat → Nat → Nat → Nat
  | 0, _, _ => 0
  | fuel + 1, numerator, denominator =>
    if denominator ≤ 10 * numerator then 0
    else leadingZeros fuel (10 * numerator) denominator + 1

/-- Digits before the point, or minus the zeros after it: the number is at least
`10 ^ (p - 1)` and below `10 ^ p`. -/
def Target.point (t : Target) : Int :=
  if t.denominator ≤ t.value then (Nat.toDigits 10 (t.value / t.denominator)).length
  else -leadingZeros (t.denominator.log2 + 1) t.value t.denominator

/-- The nearest multiple of `10 ^ unit` that lies in the interval, if one of the two
neighbours does, as that multiple. A tie goes up or to the even one. -/
def Target.onGrid (t : Target) (tieUp : Bool) (unit : Int) : Option Nat :=
  let up := Nat.pow 10 unit.toNat
  let down := Nat.pow 10 (-unit).toNat
  let step := up * t.denominator
  let floor := t.value * down / step
  match t.holds (floor * up) down, t.holds ((floor + 1) * up) down with
  | false, false => none
  | true, false => some floor
  | false, true => some (floor + 1)
  | true, true =>
    let rest := 2 * (t.value * down - floor * step)
    if rest < step then some floor
    else if step < rest then some (floor + 1)
    else some (if tieUp || floor % 2 == 1 then floor + 1 else floor)

/-- The first grid from `n` digits on, within `fuel` grids, that has a point in the
interval: that point and its unit. -/
def Target.search (t : Target) (tieUp : Bool) : Nat → Nat → Nat × Int
  -- Some grid has a point before the fuel is used up.
  | 0, n => (t.value / t.denominator, n)
  | fuel + 1, n =>
    let unit := t.point - n
    match t.onGrid tieUp unit with
    | some d => (d, unit)
    | none => t.search tieUp fuel (n + 1)

def trimZeros : Nat → Nat × Int → Nat × Int
  | 0, d => d
  | fuel + 1, (d, unit) =>
    if d ≠ 0 ∧ d % 10 = 0 then trimZeros fuel (d / 10, unit + 1) else (d, unit)

/-- The shortest decimal `digits · 10 ^ unit` that reads back as `mantissa · 2 ^ exponent`,
for a positive mantissa. Seventeen digits always suffice. -/
def digits (tieUp : Bool) (mantissa : Nat) (exponent : Int) : Nat × Int :=
  trimZeros 20 ((target mantissa exponent).search tieUp 17 1)

end TerseSql.Shortest
