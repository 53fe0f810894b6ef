import IngestConsole.Proofs.Json.Records

/-!
# Texts and numbers as they stand

A reader of texts or of integers takes what stands in a document as it is, so that writing it again
gives the same text or number.  For a field of a record that settles what is written in its place:
what stood there, or the default of an absent field, which for an optional field is nothing.
-/

set_option autoImplicit false

namespace IngestConsole.Json

variable {α : Type}

/-- What stands under a name in an object. -/
def Value.member? (name : String) : Value → Option Value
  | .object members => members.lookup name
  | _ => none

/-- A member of a record is found as among its members. -/
theorem IsRecord.member?_ofMembers {names : List String} {members : List (String × Value)}
    (h : IsRecord names members) (unique : names.Nodup) (name : String) :
    (Value.ofMembers members).member? name = members.lookup name :=
  (lookup_sortMembers members name).trans (lookup_reverse (h.named.nodup unique) name)

/-- The text or the number that a document holds, as it stands there. -/
def Document.scalar? : Document → Option Value
  | .string s => s.map .string
  | .number n => n.map .number
  | _ => none

/-- What was read from a document is written as the text or the number of that document. -/
def Verbatim (read : Document → Option α) (write : α → Value) : Prop :=
  ∀ d a, read d = some a → d.scalar? = some (write a)

/-! ## Readers that take what stands there -/

/-- Texts are read as they are written. -/
theorem verbatim_text : Verbatim Document.text? Value.text := by
  intro d s h
  cases d with
  | string o => cases h; rfl
  | _ => cases h

/-- What reads as an integer is an integer of the wire. -/
theorem scalar?_of_int? {d : Document} {n : Int} (h : d.int? = some n) :
    ∃ low high, d.scalar? = some (.number (.int ⟨n, low, high⟩)) := by
  cases d with
  | number o =>
    cases o with
    | none => cases h
    | some l =>
      cases l with
      | int i => cases h; exact ⟨i.low, i.high, rfl⟩
      | float x => cases h
  | _ => cases h

/-- Signed integers are read as they are written. -/
theorem verbatim_int64 : Verbatim Document.int64? Value.int64 := by
  intro d n h
  obtain ⟨i, whole, h⟩ := Option.bind_eq_some_iff.1 h
  obtain ⟨low, high, scalar⟩ := scalar?_of_int? whole
  split at h
  · next small =>
    cases h
    have kept : (Int64.ofInt i).toInt = i := Int64.toInt_ofInt_of_le low small
    simp only [scalar, Value.int64, kept]
  · cases h

/-- Unsigned integers are read as they are written. -/
theorem verbatim_uint64 : Verbatim Document.uint64? Value.uint64 := by
  intro d n h
  obtain ⟨i, whole, h⟩ := Option.bind_eq_some_iff.1 h
  obtain ⟨low, high, scalar⟩ := scalar?_of_int? whole
  split at h
  · next natural =>
    cases h
    have small : i.toNat < 2 ^ 64 := by omega
    have kept : ((UInt64.ofNat i.toNat).toNat : Int) = i := by
      rw [UInt64.toNat_ofNat_of_lt' small, Int.toNat_of_nonneg natural]
    simp only [scalar, Value.uint64, kept]
  · cases h

/-- Short unsigned integers are read as they are written. -/
theorem verbatim_uint16 :
    Verbatim Document.uint16? fun n => Value.uint64 n.toUInt64 := by
  intro d n h
  obtain ⟨i, whole, h⟩ := Option.bind_eq_some_iff.1 h
  obtain ⟨low, high, scalar⟩ := scalar?_of_int? whole
  split at h
  · next small =>
    cases h
    have fits : i.toNat < 2 ^ 16 := by omega
    have kept : ((UInt16.ofNat i.toNat).toUInt64.toNat : Int) = i := by
      rw [UInt16.toNat_toUInt64, UInt16.toNat_ofNat_of_lt' fits, Int.toNat_of_nonneg small.1]
    simp only [scalar, Value.uint64, kept]
  · cases h

/-! ## Fields -/

/-- What is written in the place of a field: the text or the number that was read, else the default
of an absent field. -/
def Fields.scalar? (fs : Fields) (name : String) (absent : Option Value) : Option Value :=
  ((fs.lookup name).bind Document.scalar?).or absent

namespace Verbatim

variable {read : Document → Option α} {write : α → Value} {fs : Fields} {name : String}

/-- A field with a default. -/
theorem default (h : Verbatim read write) {d a : α} (got : fs.get name read d = some a) :
    fs.scalar? name (some (write d)) = some (write a) := by
  rw [Fields.get] at got
  rw [Fields.scalar?]
  split at got
  · next m found => rw [found, Option.bind_some, h m a got, Option.some_or]
  · next found =>
    cases got
    rw [found, Option.bind_none, Option.none_or]

/-- An optional field: nothing is written where nothing or `null` stood. -/
theorem optional (h : Verbatim read write) {o : Option α}
    (got : fs.get name (Document.optional? read) none = some o) :
    fs.scalar? name none = o.map write := by
  rw [Fields.get] at got
  rw [Fields.scalar?, Option.or_none]
  split at got
  · next m found =>
    rw [found, Option.bind_some]
    cases o with
    | some a => exact h m a (of_optional?_eq_some got).2
    | none => rw [eq_null_of_optional? got]; rfl
  · next found =>
    cases got
    rw [found, Option.bind_none, Option.map_none]

end Verbatim

end IngestConsole.Json
