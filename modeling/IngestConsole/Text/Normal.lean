import IngestConsole.Text.Blank
import IngestConsole.Text.NormalTable

/-!
# Composed text

Text is composed by taking every character apart, putting combining characters into their order,
and joining each base character with the characters after it as far as there is a character for
both.  Characters are given as code points.
-/

set_option autoImplicit false

namespace IngestConsole.Text

/-- The first of the syllables that are composed by calculation. -/
def syllableBase : Nat := 0xac00

/-- The number of syllables with one initial. -/
def syllablesPerInitial : Nat := 588

/-- The number of finals, counting none as one. -/
def finals : Nat := 28

/-- The combining class of a code point; zero for a base character. -/
def combiningClass (c : Nat) : Nat :=
  ((combiningRuns.find? fun r => r.1 ≤ c && c ≤ r.2.1).map (·.2.2)).getD 0

/-- Whether a code point is a composed syllable. -/
def isSyllable (c : Nat) : Bool :=
  syllableBase ≤ c && c < syllableBase + 19 * syllablesPerInitial

/-- The parts of a syllable. -/
def syllableParts (c : Nat) : List Nat :=
  let s := c - syllableBase
  let final := s % finals
  [0x1100 + s / syllablesPerInitial, 0x1161 + s % syllablesPerInitial / finals]
    ++ (if final = 0 then [] else [0x11a7 + final])

/-- The parts of a code point, taken apart at most `depth` times. -/
def decomposed : Nat → Nat → List Nat
  | 0, c => [c]
  | depth + 1, c =>
    if isSyllable c then syllableParts c
    else match pairDecompositions.lookup c with
      | some (a, b) => decomposed depth a ++ [b]
      | none => [c]

/-- Puts a combining character into its place at the end of a text in reverse order. -/
def placeMark (c : Nat) : List Nat → List Nat
  | [] => [c]
  | d :: before =>
    if combiningClass c < combiningClass d then d :: placeMark c before else c :: d :: before

/-- A text with its combining characters in order. -/
def ordered (s : List Nat) : List Nat :=
  (s.foldl (fun before c =>
    if combiningClass c = 0 then c :: before else placeMark c before) []).reverse

/-- The code point that stands for two. -/
def composedPair? (a b : Nat) : Option Nat :=
  if 0x1100 ≤ a && a < 0x1113 && 0x1161 ≤ b && b < 0x1176 then
    some (syllableBase + (a - 0x1100) * syllablesPerInitial + (b - 0x1161) * finals)
  else if isSyllable a && (a - syllableBase) % finals = 0 && 0x11a8 ≤ b && b < 0x11c3 then
    some (a + (b - 0x11a7))
  else
    (pairDecompositions.find? fun p =>
      p.2.1 == a && p.2.2 == b && !compositionExclusions.contains p.1).map (·.1)

/-- Joins the characters after a base character with it; `marks` holds, in reverse order, those
that could not be joined. -/
def composeFrom (base : Nat) (marks : List Nat) : List Nat → List Nat
  | [] => base :: marks.reverse
  | c :: rest =>
    let reachable := match marks with
      | [] => true
      | m :: _ => combiningClass m < combiningClass c
    match (if reachable then composedPair? base c else none) with
    | some joined => composeFrom joined marks rest
    | none =>
      if combiningClass c = 0 then base :: marks.reverse ++ composeFrom c [] rest
      else composeFrom base (c :: marks) rest

/-- The composed form of a text. -/
def composed (s : List Nat) : List Nat :=
  match ordered (s.flatMap (decomposed 4)) with
  | [] => []
  | c :: rest => composeFrom c [] rest

end IngestConsole.Text
