import IngestConsole.Json.Printer
import IngestConsole.Text.Case

/-!
# Settings

How the keys and the values of a configuration are shown.
-/

set_option autoImplicit false

namespace IngestConsole.Display

open Json Text

/-- A capital letter of ASCII. -/
def isCapital (c : Char) : Bool :=
  'A' ≤ c && c ≤ 'Z'

/-- A blank before every capital letter. -/
def spaced (key : List Char) : List Char :=
  key.flatMap fun c => if isCapital c then [' ', c] else [c]

/-- A key as separate words, the first with a capital. -/
def keyText (key : String) : String :=
  match trim (spaced key.toList) with
  | [] => ""
  | c :: rest => String.ofList (upperChar c ++ rest)

/-- A value: a text as it is, a nested structure over several lines. -/
def valueText : Value → String
  | .string s => s
  | v => String.ofList v.pretty

end IngestConsole.Display
