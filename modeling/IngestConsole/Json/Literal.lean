import IngestConsole.Numeral.Binary64
import IngestConsole.Numeral.Decimal

/-!
# Literals of JSON text

A literal keeps what was written; what it denotes is a second step that may fail.  A string
literal denotes no text when a surrogate escape lacks its partner, and a number literal denotes no
number when it lies beyond the range of floating-point numbers.
-/

set_option autoImplicit false

namespace IngestConsole.Json

open IngestConsole.Numeral

/-- An integer that JSON text can carry exactly: one of 64 bits, signed or not. -/
structure WireInt where
  val : Int
  low : -0x8000000000000000 ≤ val
  high : val < 0x10000000000000000
  deriving DecidableEq, Repr

/-- A number: an exact integer or a floating-point number. -/
inductive Number
  | int (n : WireInt)
  | float (x : Finite64)
  deriving DecidableEq, Repr

/-- The exact integer, if it lies in the range. -/
def Number.ofInt? (n : Int) : Option Number :=
  if h : -0x8000000000000000 ≤ n ∧ n < 0x10000000000000000 then some (.int ⟨n, h.1, h.2⟩)
  else none

/-- A piece of a string literal: a character, or a code unit of UTF-16 written as an escape. -/
inductive StringPiece
  | char (c : Char)
  | unit (u : Nat)
  deriving DecidableEq, Repr

/-- The code unit may only start a surrogate pair. -/
def isLeading (u : Nat) : Bool :=
  0xd800 ≤ u && u ≤ 0xdbff

/-- The code unit may only end a surrogate pair. -/
def isTrailing (u : Nat) : Bool :=
  0xdc00 ≤ u && u ≤ 0xdfff

/-- The text of a string literal. -/
def stringValue? : List StringPiece → Option (List Char)
  | [] => some []
  | .char c :: rest => (stringValue? rest).map (c :: ·)
  | .unit u :: .unit v :: rest =>
    if isLeading u then
      if isTrailing v then
        (stringValue? rest).map (Char.ofNat (0x10000 + (u - 0xd800) * 0x400 + (v - 0xdc00)) :: ·)
      else none
    else if isTrailing u then none
    else (stringValue? (.unit v :: rest)).map (Char.ofNat u :: ·)
  | .unit u :: rest =>
    if isLeading u || isTrailing u then none
    else (stringValue? rest).map (Char.ofNat u :: ·)

/-- The exponent part of a number literal. -/
structure ExponentPart where
  negative : Bool
  digits : List Char
  deriving DecidableEq, Repr

/-- A number literal.  `fraction` holds the digits after the point, if there is one. -/
structure NumberLiteral where
  negative : Bool
  whole : List Char
  fraction : Option (List Char)
  exponent : Option ExponentPart
  deriving DecidableEq, Repr

namespace NumberLiteral

/-- One digit more. -/
def push (value : Nat) (d : Char) : Nat :=
  value * 10 + (d.toNat - '0'.toNat)

/-- Reads digits onto a significand as long as it stays below `2 ^ 64`; also tells the digits that
were left out. -/
def accumulate (significand : Nat) : List Char → Nat × List Char
  | [] => (significand, [])
  | d :: rest =>
    if push significand d < 0x10000000000000000 then accumulate (push significand d) rest
    else (significand, d :: rest)

/-- The floating-point number nearest to a power of ten. -/
def powerOfTen (k : Nat) : Finite64 :=
  (Finite64.ofRatio? false (Nat.pow 10 k) 1).getD (.zero false)

/-- `x * 10 ^ k`, by one multiplication or division; below `10 ^ -308` first by divisions by
`10 ^ 308`.  There is none above the range. -/
def scale (x : Finite64) (k : Int) : Option Finite64 :=
  if k.natAbs ≤ 308 then
    if 0 ≤ k then x.mul? (powerOfTen k.natAbs) else x.div? (powerOfTen k.natAbs)
  else if x.isZero then some x
  else if 0 ≤ k then none
  else (x.div? (powerOfTen 308)).bind fun y => scale y (k + 308)
termination_by k.natAbs
decreasing_by omega

/-- The largest exponent that is read digit by digit. -/
def exponentBound : Nat := 0x80000000

/-- An exponent brought into the range that is kept. -/
def clampExponent (k : Int) : Int :=
  max (-0x80000000) (min k 0x7fffffff)

/-- The number of a literal with a fraction, an exponent or too many digits. -/
def float? (l : NumberLiteral) : Option Finite64 :=
  let (whole, skipped) := accumulate 0 l.whole
  let (significand, ignored) := accumulate whole (l.fraction.getD [])
  let start : Int :=
    (skipped.length : Int) - (((l.fraction.getD []).length : Int) - ignored.length)
  let scaled : Option Finite64 :=
    match l.exponent with
    | none => (Finite64.ofInt? significand).bind fun x => scale x start
    | some e =>
      let k := ofDigits e.digits
      if k < exponentBound then
        (Finite64.ofInt? significand).bind fun x =>
          scale x (clampExponent (if e.negative then start - k else start + k))
      else if significand ≠ 0 ∧ e.negative = false then none
      else some (.zero false)
  scaled.map fun x => { x with negative := l.negative }

/-- The number of a literal.  A literal of digits alone is an exact integer as far as 64 bits
reach; a negative zero is a floating-point number. -/
def value? (l : NumberLiteral) : Option Number :=
  match l.fraction, l.exponent with
  | none, none =>
    let n := ofDigits l.whole
    let exact :=
      if l.negative then
        (if 0 < n ∧ n ≤ 0x8000000000000000 then Number.ofInt? (-(n : Int)) else none)
      else Number.ofInt? n
    exact.or (l.float?.map .float)
  | _, _ => l.float?.map .float

end NumberLiteral

end IngestConsole.Json
