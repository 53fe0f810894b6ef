import IngestConsole.Text.Case
import IngestConsole.Text.Normal
import IngestConsole.Url.DirectionTable
import IngestConsole.Url.DomainTable
import IngestConsole.Url.Percent
import IngestConsole.Url.Punycode

/-!
# Domain names

The ASCII form of a domain name: letters in lower case, and labels with other characters in
Punycode.  There is none for a name with a character that hosts must not hold, with an invisible
joiner out of place, or with labels that mix directions.
-/

set_option autoImplicit false

namespace IngestConsole.Url

open Text

/-- What one character of a domain name is read as; none if no name holds it. -/
def domainChar? (c : Char) : Option (List Nat) :=
  let n := c.toNat
  if n < 128 then some [c.toLower.toNat]
  else if inRanges domainRefused n then none
  else if inRanges domainIgnored n then some []
  else
    let runs := [domainRunsAlphabets, domainRunsSymbols, domainRunsCompat, domainRunsMath,
      domainRunsIdeographs]
    let expansions := [domainExpansionsAlphabets, domainExpansionsSymbols,
      domainExpansionsCompat, domainExpansionsMath]
    match runs.findSome? (mappedBy? · n) with
    | some m => some [m]
    | none => some ((expansions.findSome? (·.lookup n)).getD [n])

/-- A character of ASCII that a host must not hold. -/
def isForbidden (n : Nat) : Bool :=
  n ≤ 0x20 || n == 0x7f
    || ['%', '#', '/', ':', '<', '>', '?', '@', '[', '\\', ']', '^', '|'].any (·.toNat == n)

/-- A character that stands for itself in a domain name. -/
def isDomainChar (n : Nat) : Bool :=
  domainChar? (Char.ofNat n) == some [n]

/-- The combining class of the marks after which an invisible joiner may stand. -/
def viramaClass : Nat := 9

/-- Letters join across the character. -/
def isTransparent (n : Nat) : Bool :=
  inRanges nonspacingRanges n || inRanges invisibleRanges n

/-- The letter before and the letter after a place would join there.  What comes before is given
from its end on. -/
def joinsAcross (before after : List Nat) : Bool :=
  (before.dropWhile isTransparent).head?.any (inRanges joinsNextRanges)
    && (after.dropWhile isTransparent).head?.any (inRanges joinsBackRanges)

/-- Every invisible joiner stands after a mark that allows it, or keeps two letters apart that would
join.  What comes before is given from its end on. -/
def joinersAllowed (before : List Nat) : List Nat → Bool
  | [] => true
  | n :: rest =>
    let isAllowed := before.head?.any (combiningClass · == viramaClass)
    (if n = 0x200d then isAllowed
      else if n = 0x200c then isAllowed || joinsAcross before rest
      else true) && joinersAllowed (n :: before) rest

/-- A label beyond ASCII that a domain name may hold. -/
def isLabel (label : List Nat) : Bool :=
  label.all isDomainChar && composed label == label
    && !(label.head?.any fun n => inRanges markRanges n || n == 0x200c || n == 0x200d)
    && joinersAllowed [] label

/-- The mark at the start of a label in Punycode. -/
def punycodeMark : List Nat :=
  ['x', 'n', '-', '-'].map Char.toNat

/-- The label that is written; one in Punycode is decoded. -/
def labelText? (label : List Nat) : Option (List Nat) :=
  let isAscii := label.all (· < 128)
  if punycodeMark.isPrefixOf label then do
    guard isAscii
    let decoded ← Punycode.decode? ((label.drop 4).map Char.ofNat)
    guard (!decoded.all (· < 128) && isLabel decoded)
    pure decoded
  else if isAscii || isLabel label then some label
  else none

/-- The ASCII form of a label. -/
def labelAscii (label : List Nat) : List Char :=
  if label.all (· < 128) then label.map Char.ofNat
  else punycodeMark.map Char.ofNat ++ Punycode.encode label

/-- The direction in which a character of a domain name is written. -/
inductive Direction
  | leftToRight
  | rightToLeft
  | arabicNumber
  | europeanNumber
  /-- That of the character before it. -/
  | mark
  /-- That of what is around it. -/
  | neutral
  deriving DecidableEq, Repr

/-- The direction of a character. -/
def Direction.of (n : Nat) : Direction :=
  if inRanges rightToLeftRanges n then rightToLeft
  else if inRanges arabicNumberRanges n then arabicNumber
  else if inRanges europeanNumberRanges n then europeanNumber
  else if inRanges nonspacingRanges n then mark
  else if inRanges neutralRanges n then neutral
  else leftToRight

/-- The label holds a character that runs to the left. -/
def runsLeftward (label : List Nat) : Bool :=
  label.any fun n => Direction.of n == .rightToLeft || Direction.of n == .arabicNumber

/-- A label of a name in which some label runs to the left keeps to the direction of its first
character, which is a letter, and ends in a letter or a digit. -/
def keepsDirection (label : List Nat) : Bool :=
  let directions := label.map Direction.of
  let ends := fun allowed : List Direction =>
    (directions.reverse.dropWhile (· == .mark)).head?.any allowed.contains
  match directions.head? with
  | none => true
  | some .rightToLeft =>
    ends [.rightToLeft, .europeanNumber, .arabicNumber] && !directions.contains .leftToRight
      && !(directions.contains .europeanNumber && directions.contains .arabicNumber)
  | some .leftToRight =>
    ends [.leftToRight, .europeanNumber] && !directions.contains .rightToLeft
      && !directions.contains .arabicNumber
  | _ => false

/-- The labels of a domain name, between points. -/
def labels (s : List Nat) : List (List Nat) :=
  match s with
  | [] => [[]]
  | c :: rest =>
    if c = '.'.toNat then [] :: labels rest
    else match labels rest with
      | label :: more => (c :: label) :: more
      | [] => [[c]]

/-- Labels with points between them. -/
def joinLabels : List (List Char) → List Char
  | [] => []
  | [label] => label
  | label :: rest => label ++ '.' :: joinLabels rest

/-- The ASCII form of a domain name. -/
def domainAscii? (s : List Char) : Option (List Char) := do
  let mapped ← s.mapM domainChar?
  let name := composed mapped.flatten
  guard (name.all fun n => !isForbidden n)
  let texts ← (labels name).mapM labelText?
  guard (!texts.any runsLeftward || texts.all keepsDirection)
  pure (joinLabels ((labels name).map labelAscii))

end IngestConsole.Url
