import IngestConsole.Text.Blank
import IngestConsole.Text.CategoryTable

/-!
# Quoted text in messages

Messages quote a text between double quotes.  A character that could not be read as itself, such
as a control or a combining mark, is written as an escape.
-/

set_option autoImplicit false

namespace IngestConsole.Text

/-- The hexadecimal digits of a number, in lower case. -/
def hexText (n : Nat) : List Char :=
  Nat.toDigits 16 n

/-- A character that stands for itself inside quotes. -/
def isPlain (c : Char) : Bool :=
  if c.toNat < 127 then 32 ≤ c.toNat
  else !inRanges glyphlessRanges c.toNat && !inRanges extendingRanges c.toNat

/-- How one character is written inside quotes. -/
def escapeChar (c : Char) : List Char :=
  if c = '"' then ['\\', '"']
  else if c = '\\' then ['\\', '\\']
  else if c = '\t' then ['\\', 't']
  else if c = '\n' then ['\\', 'n']
  else if c = '\r' then ['\\', 'r']
  else if c = '\x00' then ['\\', '0']
  else if isPlain c then [c]
  else ['\\', 'u', '\x7b'] ++ hexText c.toNat ++ ['\x7d']

/-- A text between double quotes, with escapes where needed. -/
def quoted (s : String) : String :=
  String.ofList ('"' :: s.toList.flatMap escapeChar ++ ['"'])

end IngestConsole.Text
