import IngestConsole.Numeral.Fixed

/-!
# Amounts

How counters, rates, shares and sizes are shown.
-/

set_option autoImplicit false

namespace IngestConsole.Display

open Numeral

/-- A counter in groups of thousands. -/
def numberText (n : Int64) : String :=
  groupedText n.toInt

/-- A counter that may be absent, which counts as zero. -/
def countText (n : Option Int64) : String :=
  numberText (n.getD 0)

/-- An unsigned counter shown through the signed word with the same bits. -/
def counterText (n : UInt64) : String :=
  numberText n.toInt64

/-- A finite number rounded to an integer, a half away from zero, and cut to 64 bits. -/
def roundToInt64 (x : Finite64) : Int :=
  let n : Int := if x.negative then -x.roundAway else x.roundAway
  max (-0x8000000000000000) (min n 0x7fffffffffffffff)

/-- The magnitude reaches a thousand. -/
def reachesThousand (x : Finite64) : Bool :=
  !x.negative && 1000 * x.den ≤ x.num

/-- Messages a second: in thousands with one place from a thousand up, else a whole number. -/
def rateText : Option Binary64 → String
  | none => "0/s"
  | some .nan => "0/s"
  | some (.infinite true) => intText (-0x8000000000000000) ++ "/s"
  | some (.infinite false) =>
    String.ofList ((Binary64.infinite false).fixed 1) ++ "k/s"
  | some (.finite x) =>
    if reachesThousand x then
      let thousands := (Finite64.ofInt? 1000).bind x.div?
      String.ofList ((Binary64.ofFinite? false thousands).fixed 1) ++ "k/s"
    else intText (roundToInt64 x) ++ "/s"

/-- A share in percent with one place. -/
def percentText (x : Binary64) : String :=
  String.ofList (x.fixed 1) ++ "%"

/-- The units of sizes; each is 1024 times the one before. -/
def sizeUnits : List String :=
  ["B", "KB", "MB", "GB"]

/-- A natural number rounded to 53 significant bits, a half to the even neighbour. -/
def roundTo53Bits (n : Nat) : Nat :=
  if n < 0x20000000000000 then n
  else
    let shift := Nat.log2 n - 52
    roundDiv n (Nat.pow 2 shift) * Nat.pow 2 shift

/-- The size `n / unit` in the first of the units, or in a later one if it reaches 1024. -/
def sizeIn (n unit : Nat) : List String → String
  | [] => ""
  | [name] => String.ofList (trimPlaces (fixed 2 n unit)) ++ " " ++ name
  | name :: larger =>
    if 1024 * unit ≤ n then sizeIn n (1024 * unit) larger
    else String.ofList (trimPlaces (fixed 2 n unit)) ++ " " ++ name

/-- A number of bytes in the largest unit that it reaches, with up to two places. -/
def sizeText (bytes : UInt64) : String :=
  if bytes = 0 then "0 B" else sizeIn (roundTo53Bits bytes.toNat) 1 sizeUnits

/-- A span of seconds in days, hours, minutes and seconds, without the ones that are zero. -/
def uptimeText (seconds : UInt64) : String :=
  let n := seconds.toNat
  let parts :=
    [(n / 86400, "d"), (n % 86400 / 3600, "h"), (n % 3600 / 60, "m"), (n % 60, "s")]
  match parts.filter (·.1 > 0) with
  | [] => "0s"
  | shown => " ".intercalate (shown.map fun p => natText p.1 ++ p.2)

end IngestConsole.Display
