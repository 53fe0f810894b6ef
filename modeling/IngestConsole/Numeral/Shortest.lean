import IngestConsole.Numeral.Binary64
import IngestConsole.Numeral.Decimal

/-!
# The shortest decimal that reads back

The text of a floating-point number holds the fewest decimal digits that determine it, and of
those the ones nearest to it.  The layout of the text (where positional notation ends, how the
exponent is written) is a record of its own.
-/

set_option autoImplicit false

namespace IngestConsole.Numeral

/-- The quotients that round to a finite number, as numerators over one denominator. -/
structure RoundingInterval where
  low : Nat
  value : Nat
  high : Nat
  den : Nat
  /-- Both ends round to the number too. -/
  closed : Bool

/-- The rounding interval of a number that is not zero. -/
def Finite64.interval (x : Finite64) : RoundingInterval :=
  let unit := Finite64.raise x.exponent
  let isLeast := x.significand = 0x10000000000000 ∧ x.exponent > Finite64.minExponent
  let below := if isLeast then 1 else 2
  { low := (4 * x.significand - below) * unit
    value := 4 * x.significand * unit
    high := (4 * x.significand + 2) * unit
    den := 4 * x.den
    closed := x.significand % 2 = 0 }

/-- A power of ten as a factor of a numerator. -/
def tenTo (exponent : Int) : Nat :=
  Nat.pow 10 exponent.toNat

/-- Whether `d * 10 ^ k` lies in the interval. -/
def RoundingInterval.contains (i : RoundingInterval) (d : Nat) (k : Int) : Bool :=
  let v := d * i.den * tenTo k
  let low := i.low * tenTo (-k)
  let high := i.high * tenTo (-k)
  if i.closed then low ≤ v && v ≤ high else low < v && v < high

/-- The neighbour of the value on the grid of multiples of `10 ^ k` that reads back; of two the
nearer, a tie to the even one. -/
def RoundingInterval.neighbour? (i : RoundingInterval) (k : Int) : Option Nat :=
  let num := i.value * tenTo (-k)
  let den := i.den * tenTo k
  let below := num / den
  match i.contains below k, i.contains (below + 1) k with
  | true, true => some (roundDiv num den)
  | true, false => some below
  | false, true => some (below + 1)
  | false, false => none

/-- The least `k` from `k` upward, within `fuel` steps, with `num / den < 10 ^ k`. -/
def decimalOrder (num den : Nat) : Nat → Int → Int
  | 0, k => k
  | fuel + 1, k =>
    if num * tenTo (-k) < den * tenTo k then k else decimalOrder num den fuel (k + 1)

/-- The first grid with a point that reads back, from the grid of `10 ^ k` downward. -/
def RoundingInterval.search (i : RoundingInterval) : Nat → Int → Nat × Int
  | 0, k => (i.value * tenTo (-k) / (i.den * tenTo k), k)
  | fuel + 1, k =>
    match i.neighbour? k with
    | some d => (d, k)
    | none => search i fuel (k - 1)

/-- Digits without the zeros at their end, and how many those were. -/
def stripZeros (ds : List Char) : List Char × Nat :=
  let kept := (ds.reverse.dropWhile (· == '0')).reverse
  (kept, ds.length - kept.length)

/-- The shortest decimal of a number that is not zero: digits `ds` and an exponent `k`, standing
for `0.ds * 10 ^ k`. -/
def Finite64.shortest (x : Finite64) : List Char × Int :=
  let i := x.interval
  let order := decimalOrder i.value i.den 700 (-330)
  let (d, k) := i.search 17 (order - 1)
  let ds := digits d
  ((stripZeros ds).1, k + ds.length)

/-- How a decimal is laid out as text. -/
structure DecimalLayout where
  /-- The least exponent `e` of a positional text, where the number is `d.ddd * 10 ^ e`. -/
  minPositional : Int
  /-- The greatest exponent of a positional text. -/
  maxPositional : Int
  /-- What stands before the digits of a positive exponent. -/
  positiveMark : List Char
  /-- What stands before the digits of a negative exponent. -/
  negativeMark : List Char

/-- Digits with a point after `k` of them, filled with zeros so that a digit stands on both
sides. -/
def positional (ds : List Char) (k : Int) : List Char :=
  if k ≤ 0 then '0' :: '.' :: List.replicate (-k).toNat '0' ++ ds
  else
    let whole := ds.take k.toNat ++ List.replicate (k.toNat - ds.length) '0'
    let rest := ds.drop k.toNat
    whole ++ '.' :: (if rest.isEmpty then ['0'] else rest)

/-- Digits with a point after the first of them, followed by the exponent. -/
def DecimalLayout.scientific (layout : DecimalLayout) (ds : List Char) (e : Int) : List Char :=
  let mantissa := match ds with
    | [] => []
    | [d] => [d]
    | d :: rest => d :: '.' :: rest
  mantissa ++ (if e < 0 then layout.negativeMark else layout.positiveMark) ++ digits e.natAbs

/-- The text of a finite number under a layout. -/
def DecimalLayout.text (layout : DecimalLayout) (x : Finite64) : List Char :=
  (if x.negative then ['-'] else []) ++
    if x.isZero then ['0', '.', '0']
    else
      let (ds, k) := x.shortest
      if layout.minPositional ≤ k - 1 ∧ k - 1 ≤ layout.maxPositional then positional ds k
      else layout.scientific ds (k - 1)

end IngestConsole.Numeral
