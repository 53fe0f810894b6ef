import IngestConsole.Text.Utf8

/-!
# UTF-16

A text as units of two bytes.  A character beyond the first 65536 takes two units, the halves of a
pair.  Reading never fails: a half without the other, and a byte that is left at the end, are read
as one replacement character.
-/

set_option autoImplicit false

namespace IngestConsole.Text

/-- The order of the two bytes of a unit. -/
inductive ByteOrder
  | littleEndian
  | bigEndian
  deriving DecidableEq, Repr

namespace ByteOrder

/-- The unit that two bytes make. -/
def unit : ByteOrder → UInt8 → UInt8 → Nat
  | littleEndian, a, b => b.toNat * 256 + a.toNat
  | bigEndian, a, b => a.toNat * 256 + b.toNat

/-- The two bytes of a unit. -/
def bytes (order : ByteOrder) (u : Nat) : List UInt8 :=
  match order with
  | littleEndian => [.ofNat (u % 256), .ofNat (u / 256)]
  | bigEndian => [.ofNat (u / 256), .ofNat (u % 256)]

end ByteOrder

/-- The unit is the first half of a pair. -/
def isFirstHalf (u : Nat) : Bool :=
  0xd800 ≤ u && u < 0xdc00

/-- The unit is the second half of a pair. -/
def isSecondHalf (u : Nat) : Bool :=
  0xdc00 ≤ u && u < 0xe000

/-- The character that two halves make. -/
def joinHalves (first second : Nat) : Char :=
  .ofNat (0x10000 + (first - 0xd800) * 0x400 + (second - 0xdc00))

/-- The units that a character takes. -/
def charUnits (c : Char) : List Nat :=
  let n := c.toNat
  if n < 0x10000 then [n]
  else [0xd800 + (n - 0x10000) / 0x400, 0xdc00 + (n - 0x10000) % 0x400]

/-- The bytes of a text. -/
def utf16 (order : ByteOrder) (s : List Char) : List UInt8 :=
  (s.flatMap charUnits).flatMap order.bytes

/-- The units of bytes; a byte that is left at the end is none. -/
def units (order : ByteOrder) : List UInt8 → List (Option Nat)
  | a :: b :: rest => some (order.unit a b) :: units order rest
  | [_] => [none]
  | [] => []

/-- The character that a unit makes on its own. -/
def loneUnit (u : Nat) : Char :=
  if isFirstHalf u || isSecondHalf u then replacement else .ofNat u

/-- The characters that units are read as. -/
def decodeUnits : List (Option Nat) → List Char
  | some u :: some v :: rest =>
    if isFirstHalf u && isSecondHalf v then joinHalves u v :: decodeUnits rest
    else loneUnit u :: decodeUnits (some v :: rest)
  -- a byte that is left behind a first half is replaced together with it
  | some u :: none :: _ =>
    if isFirstHalf u then [replacement] else [loneUnit u, replacement]
  | [some u] => [loneUnit u]
  | none :: _ => [replacement]
  | [] => []

/-- The text of a sequence of bytes. -/
def decodeUtf16 (order : ByteOrder) (bytes : List UInt8) : List Char :=
  decodeUnits (units order bytes)

end IngestConsole.Text
