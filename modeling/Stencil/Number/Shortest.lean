/-
# The shortest decimal text of a floating-point number

The fewest significant digits that lie nearer to the number than to its neighbours, and of those the
digits nearest to it.  The search goes through the decimal grids from coarse to fine; on each grid
only the two points next to the number can qualify.  Everything is exact integer arithmetic.
-/
import Stencil.Number.Binary64

namespace Stencil

namespace Binary64

/-! ## 1. The number among its neighbours -/

/-- A positive number between the halfway points to its neighbours, all three over one denominator.
The halfway points belong to the number when `closed`. -/
structure Bracket where
  low : Nat
  value : Nat
  high : Nat
  denominator : Nat
  closed : Bool

/-- The bracket of `mantissa * 2 ^ exponent`.  Below the least mantissa of 53 bits the lower
neighbour is only half as far away. -/
def bracket (mantissa : Nat) (exponent : Int) : Bracket :=
  let up := twos (exponent - 2).toNat
  let down := twos (2 - exponent).toNat
  let below := if mantissa = twos 52 ∧ leastExponent < exponent then 1 else 2
  ⟨(4 * mantissa - below) * up, 4 * mantissa * up, (4 * mantissa + 2) * up, down,
    mantissa % 2 == 0⟩

/-- Whether a point, over the same denominator, reads back as the number. -/
def Bracket.admits (b : Bracket) (point : Nat) : Bool :=
  if b.closed then b.low ≤ point && point ≤ b.high else b.low < point && point < b.high

/-- The bracket in units of `10 ^ k`: the numerators and the length of a unit. -/
def Bracket.onGrid (b : Bracket) (k : Int) : Bracket × Nat :=
  let up := tens (-k).toNat
  (⟨b.low * up, b.value * up, b.high * up, b.denominator, b.closed⟩, b.denominator * tens k.toNat)

/-- The multiple of `10 ^ k` that is nearest to the number among those that read back. -/
def Bracket.candidate? (b : Bracket) (k : Int) : Option Nat :=
  let (g, unit) := b.onGrid k
  let c := g.value / unit
  let lower := g.admits (c * unit)
  let upper := g.admits ((c + 1) * unit)
  if lower && upper then
    let left := g.value - c * unit
    let right := (c + 1) * unit - g.value
    some (if left < right then c else if right < left then c + 1 else c + c % 2)
  else if lower then some c
  else if upper then some (c + 1)
  else none

/-! ## 2. The search -/

/-- The number of digits before the decimal point; not positive for numbers below 0.1. -/
def Bracket.magnitude (b : Bracket) : Int :=
  let whole := b.value / b.denominator
  if 0 < whole then digitCount whole
  else
    match (List.range 400).find? fun j => b.denominator ≤ b.value * tens (j + 1) with
    | some leadingZeros => -(leadingZeros : Int)
    | none => 0

/-- The digits of the shortest form and the place of the decimal point before, within or after
them. -/
def Bracket.shortest (b : Bracket) : List Char × Int :=
  let found := (List.range 17).findSome? fun n : Nat =>
    let k := b.magnitude - (n + 1)
    (b.candidate? k).map fun c => (c, k)
  let (c, k) := found.getD (0, 0)
  let digits := Nat.toDigits 10 c
  ((digits.reverse.dropWhile (· == '0')).reverse, digits.length + k)

/-! ## 3. The text -/

/-- Digits with a point at the given place.  Places from -3 to 16 are written out, with at least one
digit on either side of the point; all others with an exponent of at least two digits. -/
def layOut (digits : List Char) (point : Int) : List Char :=
  if -4 < point ∧ point ≤ 16 then
    if point ≤ 0 then '0' :: '.' :: (List.replicate (-point).toNat '0' ++ digits)
    else
      let whole := digits.take point.toNat
      let rest := digits.drop point.toNat
      whole ++ List.replicate (point.toNat - whole.length) '0' ++
        '.' :: (if rest = [] then ['0'] else rest)
  else
    let exponent := point - 1
    let size := Nat.toDigits 10 exponent.natAbs
    let size := if size.length < 2 then '0' :: size else size
    digits.take 1 ++ (if digits.length ≤ 1 then [] else '.' :: digits.drop 1) ++
      'e' :: (if exponent < 0 then '-' else '+') :: size

def text : Binary64 → String
  | notANumber => "nan"
  | infinite negative => if negative then "-inf" else "inf"
  | finite negative mantissa exponent =>
    let body :=
      if mantissa = 0 then ['0', '.', '0']
      else let (digits, point) := (bracket mantissa exponent).shortest
        layOut digits point
    String.ofList (if negative then '-' :: body else body)

end Binary64

end Stencil
