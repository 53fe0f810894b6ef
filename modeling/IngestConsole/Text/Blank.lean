/-!
# Blank characters

Which characters count as white space, and how text loses them at its ends.  The class is the
Unicode property White_Space, so it is larger than the class that `Char.isWhitespace` knows.
-/

set_option autoImplicit false

namespace IngestConsole.Text

/-- Ranges of the property White_Space. -/
def blankRanges : List (Nat × Nat) :=
  [(0x9, 0xd), (0x20, 0x20), (0x85, 0x85), (0xa0, 0xa0), (0x1680, 0x1680), (0x2000, 0x200a),
   (0x2028, 0x2029), (0x202f, 0x202f), (0x205f, 0x205f), (0x3000, 0x3000)]

/-- Whether a code point lies in one of the ranges. -/
def inRanges (ranges : List (Nat × Nat)) (c : Nat) : Bool :=
  ranges.any fun r => r.1 ≤ c && c ≤ r.2

/-- A character is blank when it has the property White_Space. -/
def isBlank (c : Char) : Bool :=
  inRanges blankRanges c.toNat

/-- Text without the blank characters at its start. -/
def trimStart (s : List Char) : List Char :=
  s.dropWhile isBlank

/-- Text without the blank characters at its end. -/
def trimEnd (s : List Char) : List Char :=
  (s.reverse.dropWhile isBlank).reverse

/-- Text without the blank characters at both ends. -/
def trim (s : List Char) : List Char :=
  trimEnd (trimStart s)

end IngestConsole.Text
