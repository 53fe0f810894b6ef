import IngestConsole.Numeral.Hexadecimal
import IngestConsole.Text.Utf8

/-!
# Percent-encoding

A character outside the allowed ones is written as its bytes in UTF-8, each as a percent sign and
two hexadecimal digits.  Every part of a URL has its own set of characters that are written so;
characters beyond ASCII always are.
-/

set_option autoImplicit false

namespace IngestConsole.Url

open Numeral Text

/-- A hexadecimal digit, a capital from ten up. -/
def hexCapital (n : Nat) : Char :=
  (Nat.digitChar n).toUpper

/-- A byte as a percent sign and two digits. -/
def percentByte (b : UInt8) : List Char :=
  ['%', hexCapital (b.toNat / 16), hexCapital (b.toNat % 16)]

/-- A text in which the characters of a set, and all beyond ASCII, are percent-encoded. -/
def percentEncode (set : Char → Bool) (s : List Char) : List Char :=
  s.flatMap fun c =>
    if c.toNat < 128 && !set c then [c] else (String.utf8EncodeChar c).flatMap percentByte

/-- Control characters of ASCII. -/
def isControl (c : Char) : Bool :=
  c.toNat < 0x20 || c.toNat == 0x7f

/-- Characters that are encoded in a fragment. -/
def inFragmentSet (c : Char) : Bool :=
  isControl c || [' ', '"', '<', '>', '`'].contains c

/-- Characters that are encoded in a path. -/
def inPathSet (c : Char) : Bool :=
  inFragmentSet c || ['#', '?', '\x7b', '\x7d'].contains c

/-- Characters that are encoded in a single segment of a path.  A backslash separates segments
where a scheme is special. -/
def inSegmentSet (special : Bool) (c : Char) : Bool :=
  inPathSet c || ['/', '%'].contains c || (special && c == '\\')

/-- Characters that are encoded in a user name or a password. -/
def inUserSet (c : Char) : Bool :=
  inPathSet c || ['/', ':', ';', '=', '@', '[', '\\', ']', '^', '|'].contains c

/-- Characters that are encoded in a query. -/
def inQuerySet (special : Bool) (c : Char) : Bool :=
  isControl c || [' ', '"', '#', '<', '>'].contains c || (special && c == '\'')

/-- The bytes of a percent-encoded text.  A percent sign without two digits stands for itself. -/
def percentDecode : List Char → List UInt8
  | [] => []
  | '%' :: a :: b :: rest =>
    match hexValue? a, hexValue? b with
    | some x, some y => UInt8.ofNat (x * 16 + y) :: percentDecode rest
    | _, _ => 0x25 :: percentDecode (a :: b :: rest)
  | c :: rest => String.utf8EncodeChar c ++ percentDecode rest

end IngestConsole.Url
