import IngestConsole.Text.Blank
import IngestConsole.Text.CaseTable

/-!
# Letter case

The lower case and the upper case of a character may be several characters, so both maps give
lists.  The lower case of a whole text also looks at its surroundings in one place: a capital
sigma at the end of a word becomes the final form.
-/

set_option autoImplicit false

namespace IngestConsole.Text

/-- The first assignment that a list of runs makes to a code point. -/
def mappedBy? (runs : List CaseRun) (c : Nat) : Option Nat :=
  runs.findSome? (·.assign? c)

/-- The lower case of a character: for ASCII the usual one, else the Unicode map. -/
def lowerChar (c : Char) : List Char :=
  if c.toNat < 128 then [c.toLower]
  else if c = 'İ' then ['i', '\u0307']
  else [((mappedBy? lowerRuns c.toNat).map Char.ofNat).getD c]

/-- The upper case of a character: for ASCII the usual one, else the Unicode map with its
expansions. -/
def upperChar (c : Char) : List Char :=
  if c.toNat < 128 then [c.toUpper]
  else match upperExpansions.lookup c.toNat with
    | some cs => cs.map Char.ofNat
    | none => [((mappedBy? upperRuns c.toNat).map Char.ofNat).getD c]

/-- Characters with a case. -/
def isCased (c : Char) : Bool :=
  inRanges casedRanges c.toNat

/-- Characters that the search for a neighbouring letter steps over. -/
def isCaseIgnorable (c : Char) : Bool :=
  inRanges caseIgnorableRanges c.toNat

/-- The next character that counts is a letter with a case. -/
def startsCased (s : List Char) : Bool :=
  match s.dropWhile isCaseIgnorable with
  | c :: _ => isCased c
  | [] => false

/-- The lower case of the text `rest` that stands after `before` (nearest character first). -/
def lowerFrom (before : List Char) : List Char → List Char
  | [] => []
  | c :: rest =>
    (if c = 'Σ' then
      [if startsCased before && !startsCased rest then 'ς' else 'σ']
    else lowerChar c) ++ lowerFrom (c :: before) rest

/-- The lower case of a text. -/
def lower (s : List Char) : List Char :=
  lowerFrom [] s

/-- The key by which texts are ordered without regard to case: the lower case of each character
on its own. -/
def caseKey (s : List Char) : List Char :=
  s.flatMap lowerChar

end IngestConsole.Text
