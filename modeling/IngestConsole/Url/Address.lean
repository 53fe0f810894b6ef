import IngestConsole.Numeral.Decimal
import IngestConsole.Url.Percent

/-!
# Addresses in numbers

Addresses of 32 bits, written as up to four numbers between points, and addresses of 128 bits,
written as eight pieces between colons where one run of zeros may be left out.
-/

set_option autoImplicit false

namespace IngestConsole.Url

open Numeral

/-- The parts of a text between the given character. -/
def splitAt (separator : Char) : List Char → List (List Char)
  | [] => [[]]
  | c :: rest =>
    if c = separator then [] :: splitAt separator rest
    else match splitAt separator rest with
      | part :: parts => (c :: part) :: parts
      | [] => [[c]]

/-- The value of digits in a base. -/
def ofBase (base : Nat) (ds : List Char) : Option Nat :=
  ds.foldl (fun n d => do
    let n ← n
    let x ← hexValue? d
    guard (x < base)
    pure (n * base + x)) (some 0)

/-- One number of an address: decimal, octal after a zero, hexadecimal after `0x`. -/
def addressNumber? : List Char → Option Nat
  | [] => none
  | '0' :: 'x' :: rest => ofBase 16 rest
  | '0' :: 'X' :: rest => ofBase 16 rest
  | '0' :: d :: rest => ofBase 8 (d :: rest)
  | ds => ofBase 10 ds

/-- The parts of a host between points, without an empty one at its end. -/
def addressParts (s : List Char) : List (List Char) :=
  let parts := splitAt '.' s
  if parts.getLast? = some [] then parts.dropLast else parts

/-- Whether a host ends in a number and so must be an address. -/
def endsInNumber (s : List Char) : Bool :=
  match (addressParts s).getLast? with
  | some last => (!last.isEmpty && last.all Char.isDigit) || (addressNumber? last).isSome
  | none => false

/-- The address of 32 bits that a host writes.  The last number fills all bits that are left. -/
def ipv4? (s : List Char) : Option Nat := do
  let parts := addressParts s
  guard (parts.length ≤ 4)
  let numbers ← parts.mapM addressNumber?
  let last ← numbers.getLast?
  let first := numbers.dropLast
  guard (first.all (· ≤ 255))
  guard (last < Nat.pow 256 (4 - first.length))
  pure (first.zipIdx.foldl (fun sum n => sum + n.1 * Nat.pow 256 (3 - n.2)) last)

/-- An address of 32 bits in its usual form. -/
def ipv4Text (n : Nat) : List Char :=
  digits (n / 0x1000000) ++ '.' :: digits (n / 0x10000 % 256) ++ '.' :: digits (n / 0x100 % 256)
    ++ '.' :: digits (n % 256)

/-- One number below 256 of an embedded address, without superfluous zeros. -/
def octet? (ds : List Char) : Option Nat := do
  guard (!ds.isEmpty && ds.length ≤ 3 && ds.all Char.isDigit)
  guard (ds.length = 1 || ds.head? ≠ some '0')
  let n := ofDigits ds
  guard (n ≤ 255)
  pure n

/-- The two pieces of an address of 32 bits at the end of an address of 128 bits. -/
def embedded? (s : List Char) : Option (List Nat) :=
  match (splitAt '.' s).mapM octet? with
  | some [a, b, c, d] => some [a * 256 + b, c * 256 + d]
  | _ => none

/-- One piece: up to four hexadecimal digits. -/
def piece? (ds : List Char) : Option Nat := do
  guard (!ds.isEmpty && ds.length ≤ 4)
  ofBase 16 ds

/-- The pieces of one side of an address.  Only at the end of an address may its last part be an
address of 32 bits. -/
def pieces? (isLast : Bool) (s : List Char) : Option (List Nat) :=
  if s.isEmpty then some []
  else
    let parts := splitAt ':' s
    match parts.getLast? with
    | some last =>
      if isLast && last.contains '.' then do
        let first ← parts.dropLast.mapM piece?
        let rest ← embedded? last
        pure (first ++ rest)
      else parts.mapM piece?
    | none => none

/-- The two sides of the first pair of colons, if there is one. -/
def splitGap? : List Char → Option (List Char × List Char)
  | ':' :: ':' :: rest => some ([], rest)
  | c :: rest => (splitGap? rest).map fun r => (c :: r.1, r.2)
  | [] => none

/-- The eight pieces of an address of 128 bits. -/
def ipv6? (s : List Char) : Option (List Nat) :=
  match splitGap? s with
  | none => do
    let ps ← pieces? true s
    guard (ps.length = 8)
    pure ps
  | some (before, after) => do
    let first ← pieces? false before
    let rest ← pieces? true after
    guard (first.length + rest.length ≤ 7)
    pure (first ++ List.replicate (8 - first.length - rest.length) 0 ++ rest)

/-- How many zeros a list starts with. -/
def leadingZeros (ps : List Nat) : Nat :=
  (ps.takeWhile (· = 0)).length

/-- The first longest run of zeros among pieces that start at `start`, as a start and a length. -/
def longestZeros (start : Nat) : List Nat → Nat × Nat
  | [] => (start, 0)
  | p :: rest =>
    let here := leadingZeros (p :: rest)
    let later := longestZeros (start + 1) rest
    if here ≥ later.2 ∧ here > 0 then (start, here) else later

/-- Pieces between colons. -/
def piecesText : List Nat → List Char
  | [] => []
  | [p] => Nat.toDigits 16 p
  | p :: rest => Nat.toDigits 16 p ++ ':' :: piecesText rest

/-- An address of 128 bits in its usual form: the first longest run of at least two zeros is left
out. -/
def ipv6Text (ps : List Nat) : List Char :=
  let (start, length) := longestZeros 0 ps
  if length < 2 then piecesText ps
  else piecesText (ps.take start) ++ ':' :: ':' :: piecesText (ps.drop (start + length))

end IngestConsole.Url
