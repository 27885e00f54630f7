/-!
# Binary floating point, exactly

A finite floating-point number is an integer times a power of two. `Binary.ofFloat` takes
a number apart and `Binary.toFloat` puts it together again.
-/

namespace TerseSql

/-- A number taken apart: not a number, infinite, or `± mantissa · 2 ^ exponent`. -/
inductive Binary where
  | nan
  | infinite (negative : Bool)
  | finite (negative : Bool) (mantissa : Nat) (exponent : Int)
deriving DecidableEq, Repr

namespace Binary

def signBit : Nat := Nat.pow 2 63

/-- The weight of the bit before the fraction, which a double does not store. -/
def hiddenBit : Nat := Nat.pow 2 52

/-- The parts of a double: 52 bits of fraction, 11 of exponent, one of sign. -/
def ofBits (bits : Nat) : Binary :=
  let negative := bits / signBit % 2 == 1
  let biased : Nat := bits / hiddenBit % 2048
  let fraction : Nat := bits % hiddenBit
  if biased = 2047 then if fraction = 0 then infinite negative else nan
  else if biased = 0 then finite negative fraction (-1074)
  else finite negative (hiddenBit + fraction) ((biased : Int) - 1075)

def ofFloat (x : Float) : Binary :=
  ofBits x.toBits.toNat

/-- Bits of a finite double whose mantissa has at most 53 bits, shifted up as far as the
exponent allows. -/
def finiteBits (mantissa : Nat) (exponent : Int) : Nat :=
  let shift := min (52 - mantissa.log2) (exponent + 1074).toNat
  ((exponent - shift + 1074).toNat) * hiddenBit + mantissa * Nat.pow 2 shift

def bits : Binary → Nat
  | nan => 2047 * hiddenBit + hiddenBit / 2
  | infinite negative => (if negative then signBit else 0) + 2047 * hiddenBit
  | finite negative 0 _ => if negative then signBit else 0
  | finite negative mantissa exponent =>
    (if negative then signBit else 0) + finiteBits mantissa exponent

def toFloat (b : Binary) : Float :=
  Float.ofBits (UInt64.ofNat b.bits)

def isFinite : Binary → Bool
  | finite .. => true
  | _ => false

end Binary

end TerseSql
