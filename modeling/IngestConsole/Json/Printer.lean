import IngestConsole.Json.Value
import IngestConsole.Numeral.Shortest

/-!
# JSON text of a value

Two layouts: everything on one line, and one item or member a line with an indentation of two
blanks.  Only quotes, backslashes and control characters are escaped.
-/

set_option autoImplicit false

namespace IngestConsole.Json

open IngestConsole.Numeral

/-- A floating-point number in JSON is positional from `1e-5` up to below `1e16`; beyond that a
positive exponent has a plus sign. -/
def floatLayout : DecimalLayout where
  minPositional := -5
  maxPositional := 15
  positiveMark := ['e', '+']
  negativeMark := ['e', '-']

/-- The text of a number. -/
def Number.text : Number → List Char
  | .int n => intDigits n.val
  | .float x => floatLayout.text x

/-- How one character is written in a string literal. -/
def escapeChar (c : Char) : List Char :=
  if c = '"' then ['\\', '"']
  else if c = '\\' then ['\\', '\\']
  else if c = '\x08' then ['\\', 'b']
  else if c = '\x0c' then ['\\', 'f']
  else if c = '\n' then ['\\', 'n']
  else if c = '\r' then ['\\', 'r']
  else if c = '\t' then ['\\', 't']
  else if c.toNat < 0x20 then
    ['\\', 'u', '0', '0', Nat.digitChar (c.toNat / 16), Nat.digitChar (c.toNat % 16)]
  else [c]

/-- A string literal. -/
def stringText (s : String) : List Char :=
  '"' :: s.toList.flatMap escapeChar ++ ['"']

mutual

/-- The text of a value on one line. -/
def Value.compact : Value → List Char
  | .null => "null".toList
  | .bool b => (if b then "true" else "false").toList
  | .number n => n.text
  | .string s => stringText s
  | .array items => '[' :: compactItems items
  | .object members => '\x7b' :: compactMembers members

/-- The items of an array and its end. -/
def compactItems : List Value → List Char
  | [] => [']']
  | [v] => v.compact ++ [']']
  | v :: rest => v.compact ++ ',' :: compactItems rest

/-- The members of an object and its end. -/
def compactMembers : List (String × Value) → List Char
  | [] => ['\x7d']
  | [(key, v)] => stringText key ++ ':' :: v.compact ++ ['\x7d']
  | (key, v) :: rest => stringText key ++ ':' :: v.compact ++ ',' :: compactMembers rest

end

/-- A new line at a level of indentation. -/
def newLine (level : Nat) : List Char :=
  '\n' :: List.replicate (2 * level) ' '

mutual

/-- The text of a value over several lines, where `level` is the indentation of its last line. -/
def Value.prettyAt (level : Nat) : Value → List Char
  | .null => "null".toList
  | .bool b => (if b then "true" else "false").toList
  | .number n => n.text
  | .string s => stringText s
  | .array [] => ['[', ']']
  | .array (v :: rest) =>
    '[' :: newLine (level + 1) ++ v.prettyAt (level + 1) ++ prettyItems level rest
  | .object [] => ['\x7b', '\x7d']
  | .object ((key, v) :: rest) =>
    '\x7b' :: newLine (level + 1) ++ stringText key ++ ':' :: ' ' :: v.prettyAt (level + 1)
      ++ prettyMembers level rest

/-- The items of an array after the first one, and its end. -/
def prettyItems (level : Nat) : List Value → List Char
  | [] => newLine level ++ [']']
  | v :: rest => ',' :: newLine (level + 1) ++ v.prettyAt (level + 1) ++ prettyItems level rest

/-- The members of an object after the first one, and its end. -/
def prettyMembers (level : Nat) : List (String × Value) → List Char
  | [] => newLine level ++ ['\x7d']
  | (key, v) :: rest =>
    ',' :: newLine (level + 1) ++ stringText key ++ ':' :: ' ' :: v.prettyAt (level + 1)
      ++ prettyMembers level rest

end

/-- The text of a value over several lines. -/
def Value.pretty (v : Value) : List Char :=
  v.prettyAt 0

end IngestConsole.Json
