import IngestConsole.Text.Utf16

/-!
# Charsets

What bytes are read as when they are sent in a charset.  A byte order mark at the start of the
bytes outweighs the charset, and is no part of the text.
-/

set_option autoImplicit false

namespace IngestConsole.Text

/-- A charset in which a text is sent. -/
inductive Charset
  | utf8
  | utf16 (order : ByteOrder)
  /-- A charset with a table of its own; `reads` is what the bytes read as in it. -/
  | legacy (reads : String)
  deriving DecidableEq, Repr

namespace Charset

/-- The charsets that have a byte order mark, with their marks. -/
def marks : List (List UInt8 × Charset) :=
  [([0xef, 0xbb, 0xbf], utf8), ([0xff, 0xfe], utf16 .littleEndian),
    ([0xfe, 0xff], utf16 .bigEndian)]

/-- The mark at the start of bytes, and the charset that it tells of. -/
def mark? (bytes : List UInt8) : Option (List UInt8 × Charset) :=
  marks.find? fun m => m.1.isPrefixOf bytes

/-- What bytes without a mark are read as. -/
def decodeUnmarked (bytes : List UInt8) : Charset → List Char
  | utf8 => decodeBytes bytes
  | utf16 order => decodeUtf16 order bytes
  | legacy reads => reads.toList

/-- What bytes are read as that are sent in a charset. -/
def decode (c : Charset) (bytes : List UInt8) : List Char :=
  match mark? bytes with
  | some (mark, marked) => marked.decodeUnmarked (bytes.drop mark.length)
  | none => c.decodeUnmarked bytes

/-- The names of UTF-8 in the head of a response. -/
def utf8Labels : List String :=
  ["unicode-1-1-utf-8", "unicode11utf8", "unicode20utf8", "utf-8", "utf8", "x-unicode20utf8"]

/-- The names of UTF-16 with the lower byte first. -/
def littleEndianLabels : List String :=
  ["csunicode", "iso-10646-ucs-2", "ucs-2", "unicode", "unicodefeff", "utf-16", "utf-16le"]

/-- The names of UTF-16 with the higher byte first. -/
def bigEndianLabels : List String :=
  ["unicodefffe", "utf-16be"]

/-- The charset of a name, if it is one of Unicode. -/
def ofLabel? (label : String) : Option Charset :=
  if utf8Labels.contains label then some utf8
  else if littleEndianLabels.contains label then some (utf16 .littleEndian)
  else if bigEndianLabels.contains label then some (utf16 .bigEndian)
  else none

end Charset

end IngestConsole.Text
