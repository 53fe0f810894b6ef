/-!
# Binary floating-point numbers of 64 bits

A finite number is a sign, a significand below `2 ^ 53` and a power of two; every operation works
on the exact quotient of two natural numbers and rounds once, to the nearest number, a tie to the
even significand.
-/

set_option autoImplicit false

namespace IngestConsole.Numeral

/-- A quotient rounded to the nearest natural number, a half to the even neighbour. -/
def roundDiv (num den : Nat) : Nat :=
  let q := num / den
  let r := num % den
  if 2 * r < den then q
  else if 2 * r = den then q + q % 2
  else q + 1

/-- The finite number `± significand * 2 ^ exponent`.  Zero keeps its sign. -/
structure Finite64 where
  negative : Bool
  significand : Nat
  exponent : Int
  deriving DecidableEq, Repr

/-- A floating-point number. -/
inductive Binary64
  | finite (x : Finite64)
  | infinite (negative : Bool)
  | nan
  deriving DecidableEq, Repr

namespace Finite64

/-- The least exponent, that of the subnormal numbers. -/
def minExponent : Int := -1074

/-- The greatest exponent. -/
def maxExponent : Int := 971

/-- Zero with a sign. -/
def zero (negative : Bool) : Finite64 :=
  ⟨negative, 0, minExponent⟩

/-- The factor by which a power of two multiplies a numerator. -/
def raise (exponent : Int) : Nat :=
  Nat.pow 2 exponent.toNat

/-- The numerator of the magnitude. -/
def num (x : Finite64) : Nat :=
  x.significand * raise x.exponent

/-- The denominator of the magnitude, a power of two. -/
def den (x : Finite64) : Nat :=
  raise (-x.exponent)

/-- The greatest `b` with `2 ^ b ≤ num / den`, for positive `num` and `den`. -/
def binaryOrder (num den : Nat) : Int :=
  let b : Int := (Nat.log2 num : Int) - Nat.log2 den
  if den * raise b ≤ num * raise (-b) then b else b - 1

/-- The number nearest to `num / den`, for positive `den`; none if its magnitude is too large. -/
def ofRatio? (negative : Bool) (num den : Nat) : Option Finite64 :=
  if num = 0 then some (zero negative)
  else
    let e := max (binaryOrder num den - 52) minExponent
    let m := roundDiv (num * raise (-e)) (den * raise e)
    if m < 0x20000000000000 then
      if e ≤ maxExponent then some ⟨negative, m, e⟩ else none
    else if e + 1 ≤ maxExponent then some ⟨negative, 0x10000000000000, e + 1⟩ else none

/-- The number nearest to an integer; none if its magnitude is too large. -/
def ofInt? (n : Int) : Option Finite64 :=
  ofRatio? (n < 0) n.natAbs 1

/-- The product, rounded. -/
def mul? (x y : Finite64) : Option Finite64 :=
  ofRatio? (x.negative != y.negative) (x.num * y.num) (x.den * y.den)

/-- The quotient by a number that is not zero, rounded. -/
def div? (x y : Finite64) : Option Finite64 :=
  ofRatio? (x.negative != y.negative) (x.num * y.den) (x.den * y.num)

/-- The magnitude is zero. -/
def isZero (x : Finite64) : Bool :=
  x.significand == 0

/-- The magnitude rounded to the nearest natural number, a half away from zero. -/
def roundAway (x : Finite64) : Nat :=
  (2 * x.num + x.den) / (2 * x.den)

end Finite64

/-- A number or, beyond the largest one, infinity. -/
def Binary64.ofFinite? (negative : Bool) : Option Finite64 → Binary64
  | some x => .finite x
  | none => .infinite negative

/-- The number nearest to `num * 10 ^ exponent` in magnitude, infinity if that is too large. -/
def Binary64.ofScientific (negative : Bool) (num : Nat) (exponent : Int) : Binary64 :=
  if num = 0 then .finite (.zero negative)
  else
    let order := (Nat.toDigits 10 num).length + exponent
    if order > 400 then .infinite negative
    else if order < -400 then .finite (.zero negative)
    else ofFinite? negative
      (Finite64.ofRatio? negative (num * Nat.pow 10 exponent.toNat)
        (Nat.pow 10 (-exponent).toNat))

end IngestConsole.Numeral
