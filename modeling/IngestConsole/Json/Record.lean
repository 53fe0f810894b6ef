import IngestConsole.Json.Document

/-!
# Reading records

A record is read from an object by the names of its fields, or from an array by their order.
Members with other names are ignored and absent fields take their defaults; a field that is
present must hold a value of its type.
-/

set_option autoImplicit false

namespace IngestConsole.Json

/-- The fields of a record that a document holds. -/
abbrev Fields := List (String × Document)

/-- The members whose key is one of the names; fails when such a key repeats or when some key
denotes no text. -/
def knownMembers? (names : List String) :
    List (Option String × Document) → Option Fields
  | [] => some []
  | (none, _) :: _ => none
  | (some key, d) :: rest => do
    let fs ← knownMembers? names rest
    if names.contains key then
      if fs.any (·.1 == key) then none else pure ((key, d) :: fs)
    else pure fs

/-- The fields of a record with the given names, in the order of their declaration. -/
def Document.fields? (names : List String) : Document → Option Fields
  | .object members => knownMembers? names members
  | .array items => if items.length ≤ names.length then some (names.zip items) else none
  | _ => none

/-- Reads a field that has a default. -/
def Fields.get {α : Type} (fs : Fields) (name : String) (read : Document → Option α)
    (default : α) : Option α :=
  match fs.lookup name with
  | some d => read d
  | none => some default

/-- Reads a field that must be present. -/
def Fields.require {α : Type} (fs : Fields) (name : String) (read : Document → Option α) :
    Option α :=
  (fs.lookup name).bind read

namespace Document

/-- Reads a text. -/
def text? : Document → Option String
  | .string s => s
  | _ => none

/-- Reads an integer of 64 bits, signed or not. -/
def int? : Document → Option Int
  | .number (some (.int n)) => some n.val
  | _ => none

/-- Reads a signed integer of 64 bits. -/
def int64? (d : Document) : Option Int64 := do
  let n ← d.int?
  if n < 0x8000000000000000 then some (Int64.ofInt n) else none

/-- Reads an unsigned integer of 64 bits. -/
def uint64? (d : Document) : Option UInt64 := do
  let n ← d.int?
  if 0 ≤ n then some (UInt64.ofNat n.toNat) else none

/-- Reads an unsigned integer of 16 bits. -/
def uint16? (d : Document) : Option UInt16 := do
  let n ← d.int?
  if 0 ≤ n ∧ n < 0x10000 then some (UInt16.ofNat n.toNat) else none

/-- Reads a floating-point number; integers are rounded to one. -/
def float? : Document → Option Numeral.Finite64
  | .number (some (.float x)) => some x
  | .number (some (.int n)) => Numeral.Finite64.ofInt? n.val
  | _ => none

/-- Reads an absent value from `null`, else a present one. -/
def optional? {α : Type} (read : Document → Option α) : Document → Option (Option α)
  | .null => some none
  | d => (read d).map some

/-- Reads the items of an array. -/
def list? {α : Type} (read : Document → Option α) : Document → Option (List α)
  | .array items => items.mapM read
  | _ => none

/-- Reads the items of an array, none of them from `null`. -/
def nullableList? {α : Type} (read : Document → Option α) : Document → Option (List α)
  | .null => some []
  | d => list? read d

/-- Reads the name of a choice, written as a text or as the only key of an object that holds
`null`. -/
def choice? : Document → Option String
  | .string s => s
  | .object [(key, .null)] => key
  | _ => none

end Document

/-- A member of a record that is written only if it is present. -/
def optionalMember {α : Type} (name : String) (write : α → Value) : Option α →
    List (String × Value)
  | some a => [(name, write a)]
  | none => []

end IngestConsole.Json
