/-!
# Decimal numerals

Numerals of natural numbers and integers, their thousands groups, and the readings of numerals
that bounded unsigned integers allow.
-/

set_option autoImplicit false

namespace IngestConsole.Numeral

/-- The decimal digits of a natural number, the most significant first. -/
def digits (n : Nat) : List Char :=
  Nat.toDigits 10 n

/-- The value of decimal digits. -/
def ofDigits (ds : List Char) : Nat :=
  Nat.ofDigitChars 10 ds 0

/-- The numeral of an integer: a minus sign if it is negative, then its digits. -/
def intDigits (n : Int) : List Char :=
  if n < 0 then '-' :: digits n.natAbs else digits n.natAbs

/-- The numeral of a natural number as text. -/
def natText (n : Nat) : String :=
  String.ofList (digits n)

/-- The numeral of an integer as text. -/
def intText (n : Int) : String :=
  String.ofList (intDigits n)

/-- Digits with a comma before every group of three counted from the end. -/
def grouped (ds : List Char) : List Char :=
  match ds with
  | [] => []
  | d :: rest =>
    if rest ≠ [] ∧ rest.length % 3 = 0 then d :: ',' :: grouped rest else d :: grouped rest

/-- A numeral in groups of three digits. -/
def groupedText (n : Int) : String :=
  String.ofList (if n < 0 then '-' :: grouped (digits n.natAbs) else grouped (digits n.natAbs))

/-- A numeral of at least `width` digits, filled with zeros. -/
def padded (width n : Nat) : List Char :=
  List.replicate (width - (digits n).length) '0' ++ digits n

/-- Why a text is no numeral of an unsigned integer. -/
inductive NumeralError
  | empty
  | invalidDigit
  | tooLarge
  deriving DecidableEq, Repr

/-- The wording of a numeral error. -/
def NumeralError.message : NumeralError → String
  | .empty => "cannot parse integer from empty string"
  | .invalidDigit => "invalid digit found in string"
  | .tooLarge => "number too large to fit in target type"

/-- Reads digits after `value`; the first fault from the left is reported. -/
def readDigits (bound value : Nat) : List Char → Except NumeralError Nat
  | [] => .ok value
  | c :: rest =>
    if c.isDigit then
      let next := value * 10 + (c.toNat - '0'.toNat)
      if next < bound then readDigits bound next rest else .error .tooLarge
    else .error .invalidDigit

/-- Reads an unsigned numeral below `bound`; a plus sign may stand before the digits. -/
def readUnsigned (bound : Nat) : List Char → Except NumeralError Nat
  | [] => .error .empty
  | ['+'] => .error .invalidDigit
  | '+' :: rest => readDigits bound 0 rest
  | ds => readDigits bound 0 ds

/-- Reads an unsigned numeral of 64 bits. -/
def readUInt64 (s : String) : Except NumeralError UInt64 :=
  (readUnsigned 0x10000000000000000 s.toList).map UInt64.ofNat

end IngestConsole.Numeral
