/-
# Binary floating-point numbers

The values of the 64-bit binary format as exact data, a mantissa times a power of two, and the
rounding of a decimal literal to the nearest of them.  All arithmetic is on integers.
-/

namespace Stencil

/-- A value of the 64-bit binary format; a finite one is `mantissa * 2 ^ exponent`. -/
inductive Binary64 where
  | finite (negative : Bool) (mantissa : Nat) (exponent : Int)
  | infinite (negative : Bool)
  | notANumber
  deriving DecidableEq, Repr

namespace Binary64

/-! ## 1. Places and rounding -/

/-- The weight of the binary digit with `n` others behind it. -/
def twos (n : Nat) : Nat := Nat.pow 2 n

/-- The weight of the decimal digit with `n` others behind it. -/
def tens (n : Nat) : Nat := Nat.pow 10 n

/-- The quotient rounded to the nearest integer, a half to the even neighbour. -/
def roundDiv (num den : Nat) : Nat :=
  let q := num / den
  let r := num % den
  if 2 * r < den then q
  else if den < 2 * r then q + 1
  else q + q % 2

/-- The number of decimal digits of `n`. -/
def digitCount (n : Nat) : Nat :=
  (Nat.toDigits 10 n).length

/-! ## 2. Decimal literals -/

/-- The least exponent, and the greatest that goes with a mantissa below `2 ^ 53`. -/
def leastExponent : Int := -1074

def greatestExponent : Int := 971

/-- The value nearest to the positive quotient `num / den`, without its sign.  The exponent is
chosen so that the mantissa has 53 bits, unless that would put it below the least one. -/
def nearest (negative : Bool) (num den : Nat) : Binary64 :=
  let scaled (q : Int) : Nat × Nat :=
    if 0 ≤ q then (num, den * twos q.toNat) else (num * twos (-q).toNat, den)
  let guess := max leastExponent ((num.log2 : Int) - den.log2 - 53)
  let exponent :=
    if (scaled guess).1 / (scaled guess).2 < twos 53 then guess else guess + 1
  let mantissa := roundDiv (scaled exponent).1 (scaled exponent).2
  let (mantissa, exponent) :=
    if mantissa = twos 53 then (twos 52, exponent + 1) else (mantissa, exponent)
  if greatestExponent < exponent then infinite negative else finite negative mantissa exponent

/-- The value nearest to `digits * 10 ^ exponent`.  Literals far outside the range are settled by
their magnitude alone. -/
def ofDecimal (negative : Bool) (digits : Nat) (exponent : Int) : Binary64 :=
  let magnitude := digitCount digits + exponent
  if digits = 0 ∨ magnitude < -330 then finite negative 0 leastExponent
  else if 310 < magnitude then infinite negative
  else if 0 ≤ exponent then nearest negative (digits * tens exponent.toNat) 1
  else nearest negative digits (tens (-exponent).toNat)

end Binary64

end Stencil
