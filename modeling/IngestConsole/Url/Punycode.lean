/-!
# Punycode

A label of any characters written with letters, digits and hyphens: first its ASCII characters,
then, in ascending order, the other ones as differences in a number system whose thresholds adapt
to the differences seen before.  Characters are given as code points.
-/

set_option autoImplicit false

namespace IngestConsole.Url.Punycode

/-- The base of the number system. -/
def base : Nat := 36

/-- The first code point that is written as a difference. -/
def initial : Nat := 128

/-- The bias before the first difference. -/
def initialBias : Nat := 72

/-- The threshold of the digit at place `k`. -/
def threshold (k bias : Nat) : Nat :=
  if k ≤ bias then 1 else min 26 (k - bias)

/-- Divides a difference until it is small; tells the remaining one and the number of steps. -/
def shrink : Nat → Nat → Nat × Nat
  | 0, delta => (delta, 0)
  | fuel + 1, delta =>
    if delta > 455 then
      let r := shrink fuel (delta / 35)
      (r.1, r.2 + 1)
    else (delta, 0)

/-- The bias after a difference. -/
def adapt (delta count : Nat) (isFirst : Bool) : Nat :=
  let delta := if isFirst then delta / 700 else delta / 2
  let (delta, steps) := shrink (delta + 1) (delta + delta / count)
  base * steps + base * delta / (delta + 38)

/-- A digit: the letters from zero, then the decimal digits. -/
def digit (d : Nat) : Char :=
  if d < 26 then Char.ofNat ('a'.toNat + d) else Char.ofNat ('0'.toNat + (d - 26))

/-- The value of a digit. -/
def digitValue? (c : Char) : Option Nat :=
  if 'a' ≤ c ∧ c ≤ 'z' then some (c.toNat - 'a'.toNat)
  else if 'A' ≤ c ∧ c ≤ 'Z' then some (c.toNat - 'A'.toNat)
  else if c.isDigit then some (c.toNat - '0'.toNat + 26)
  else none

/-- The digits of a difference from place `k` on. -/
def encodeNumber (bias : Nat) : Nat → Nat → Nat → List Char
  | 0, _, _ => []
  | fuel + 1, k, q =>
    let t := threshold k bias
    if q < t then [digit q]
    else digit (t + (q - t) % (base - t)) :: encodeNumber bias fuel (k + base) ((q - t) / (base - t))

/-- What the writer of a label keeps: the difference so far, the bias, how many characters are
written, and the text. -/
structure Writer where
  delta : Nat
  bias : Nat
  written : Nat
  text : List Char

/-- Writes every place of the code point `m`. -/
def writePlaces (isFirst : Nat → Bool) (m : Nat) (w : Writer) : List Nat → Writer
  | [] => w
  | c :: rest =>
    if c < m then writePlaces isFirst m { w with delta := w.delta + 1 } rest
    else if c = m then
      writePlaces isFirst m
        { delta := 0
          bias := adapt w.delta (w.written + 1) (isFirst w.written)
          written := w.written + 1
          text := w.text ++ encodeNumber w.bias (w.delta + 1) base w.delta }
        rest
    else writePlaces isFirst m w rest

/-- The text of a label. -/
def encode (label : List Nat) : List Char :=
  let basic := label.filter (· < initial)
  let others := (label.filter (initial ≤ ·)).mergeSort.eraseDups
  let start : List Char :=
    basic.map Char.ofNat ++ (if basic.isEmpty then [] else ['-'])
  let step := fun (acc : Writer × Nat) (m : Nat) =>
    let delta := acc.1.delta + (m - acc.2) * (acc.1.written + 1)
    let w := writePlaces (· == basic.length) m { acc.1 with delta } label
    ({ w with delta := w.delta + 1 }, m + 1)
  (others.foldl step (⟨0, initialBias, basic.length, start⟩, initial)).1.text

/-- What the reader of a label keeps: the code points read, the next code point and place, the
bias, where the current number started, and the weight and place of its next digit. -/
structure Reader where
  label : List Nat
  next : Nat
  place : Nat
  bias : Nat
  start : Nat
  weight : Nat
  k : Nat

/-- A code point of a character. -/
def isScalar (n : Nat) : Bool :=
  n < 0xd800 || (0xdfff < n && n < 0x110000)

/-- Reads the digits of the differences. -/
def decodeDigits (r : Reader) : List Char → Option (List Nat)
  | [] => if r.k = base then some r.label else none
  | c :: rest =>
    match digitValue? c with
    | none => none
    | some d =>
      let place := r.place + d * r.weight
      let t := threshold r.k r.bias
      if d < t then
        let count := r.label.length + 1
        let next := r.next + place / count
        let slot := place % count
        if isScalar next then
          decodeDigits
            { label := r.label.take slot ++ next :: r.label.drop slot
              next
              place := slot + 1
              bias := adapt (place - r.start) count (r.start == 0)
              start := slot + 1
              weight := 1
              k := base }
            rest
        else none
      else decodeDigits { r with place, weight := r.weight * (base - t), k := r.k + base } rest

/-- The label of a text. -/
def decode? (s : List Char) : Option (List Nat) :=
  let tail := (s.reverse.takeWhile (· ≠ '-')).reverse
  let basic := s.take (s.length - tail.length - 1)
  decodeDigits ⟨basic.map Char.toNat, initial, 0, initialBias, 0, 1, base⟩ tail

end IngestConsole.Url.Punycode
