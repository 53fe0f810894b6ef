/-!
# UTF-8

A text as bytes, and bytes read as text.  Reading never fails: a longest start of a character that
its next byte does not continue is read as one replacement character.  A byte order mark at the
start of the bytes is not part of the text.
-/

set_option autoImplicit false

namespace IngestConsole.Text

/-- The bytes of a text. -/
def utf8 (s : List Char) : List UInt8 :=
  s.flatMap String.utf8EncodeChar

/-- The character that stands for bytes that are no character. -/
def replacement : Char := '\ufffd'

/-- How a byte starts a character. -/
inductive Lead
  /-- The byte is a character. -/
  | single
  /-- More bytes follow, the first of them within the bounds; `bits` is what this byte adds. -/
  | pair (bits : Nat)
  | triple (bits low high : Nat)
  | quadruple (bits low high : Nat)
  /-- No character starts with this byte. -/
  | none

/-- What a byte starts. -/
def Lead.of (b : UInt8) : Lead :=
  let n := b.toNat
  if n < 0x80 then .single
  else if n < 0xc2 then .none
  else if n < 0xe0 then .pair (n - 0xc0)
  else if n = 0xe0 then .triple 0 0xa0 0xbf
  else if n = 0xed then .triple 0xd 0x80 0x9f
  else if n < 0xf0 then .triple (n - 0xe0) 0x80 0xbf
  else if n = 0xf0 then .quadruple 0 0x90 0xbf
  else if n < 0xf4 then .quadruple (n - 0xf0) 0x80 0xbf
  else if n = 0xf4 then .quadruple 4 0x80 0x8f
  else .none

/-- The byte lies within the bounds. -/
def within (low high : Nat) (b : UInt8) : Bool :=
  low ≤ b.toNat && b.toNat ≤ high

/-- The byte continues a character. -/
def continues (b : UInt8) : Bool :=
  within 0x80 0xbf b

/-- The six bits that a continuing byte adds to `bits`. -/
def addBits (bits : Nat) (b : UInt8) : Nat :=
  bits * 64 + (b.toNat - 0x80)

/-- Reads the first character of `b :: rest` and tells what is left. -/
def readChar (b : UInt8) (rest : List UInt8) : Char × List UInt8 :=
  match Lead.of b with
  | .single => (Char.ofNat b.toNat, rest)
  | .none => (replacement, rest)
  | .pair bits =>
    match rest with
    | c :: r => if continues c then (Char.ofNat (addBits bits c), r) else (replacement, rest)
    | [] => (replacement, [])
  | .triple bits low high =>
    match rest with
    | c :: r =>
      if within low high c then
        match r with
        | d :: r' =>
          if continues d then (Char.ofNat (addBits (addBits bits c) d), r') else (replacement, r)
        | [] => (replacement, [])
      else (replacement, rest)
    | [] => (replacement, [])
  | .quadruple bits low high =>
    match rest with
    | c :: r =>
      if within low high c then
        match r with
        | d :: r' =>
          if continues d then
            match r' with
            | e :: r'' =>
              if continues e then (Char.ofNat (addBits (addBits (addBits bits c) d) e), r'')
              else (replacement, r')
            | [] => (replacement, [])
          else (replacement, r)
        | [] => (replacement, [])
      else (replacement, rest)
    | [] => (replacement, [])

/-- A character takes at least the byte that starts it. -/
theorem length_readChar_le (b : UInt8) (rest : List UInt8) :
    (readChar b rest).2.length ≤ rest.length := by
  unfold readChar
  repeat' split
  all_goals simp_all only [List.length_cons, List.length_nil]
  all_goals omega

/-- The characters that the bytes are read as. -/
def decodeBytes : List UInt8 → List Char
  | [] => []
  | b :: rest => (readChar b rest).1 :: decodeBytes (readChar b rest).2
termination_by bytes => bytes.length
decreasing_by
  have := length_readChar_le b rest
  simp only [List.length_cons]
  omega

/-- The text of a sequence of bytes, less a byte order mark at its start. -/
def decodeUtf8 (bytes : List UInt8) : List Char :=
  match decodeBytes bytes with
  | '\ufeff' :: rest => rest
  | s => s

end IngestConsole.Text
