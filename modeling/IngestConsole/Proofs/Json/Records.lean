import IngestConsole.Json.Record
import IngestConsole.Proofs.Json.Members

/-!
# Written records

A record is written as an object whose members stand under the names of its fields; a field that is
absent has no member, and no member is `null`.  Read by names, such an object gives back for every
name what was written under it.
-/

set_option autoImplicit false

namespace IngestConsole.Json

variable {α β : Type}

/-! ## The shape of a written record -/

/-- The members of a written record: each stands under one of the names, in their order, and none is
`null`. -/
structure IsRecord (names : List String) (members : List (String × Value)) : Prop where
  named : (members.map Prod.fst).Sublist names
  present : ∀ m ∈ members, m.2 ≠ .null

namespace IsRecord

/-- Fields that are always written. -/
theorem all {names : List String} {members : List (String × Value)}
    (named : members.map Prod.fst = names) (present : ∀ m ∈ members, m.2 ≠ .null) :
    IsRecord names members :=
  ⟨named ▸ List.Sublist.refl _, present⟩

/-- One field that is always written. -/
theorem single (name : String) {v : Value} (present : v ≠ .null) : IsRecord [name] [(name, v)] := by
  refine ⟨List.Sublist.refl _, fun m mem => ?_⟩
  rw [List.mem_singleton.1 mem]
  exact present

/-- A field that is left out where it is absent. -/
theorem optional (name : String) {write : α → Value} (present : ∀ a, write a ≠ .null)
    (o : Option α) : IsRecord [name] (optionalMember name write o) := by
  cases o with
  | none => exact ⟨List.nil_sublist _, fun m mem => absurd mem List.not_mem_nil⟩
  | some a =>
    refine ⟨List.Sublist.refl _, fun m mem => ?_⟩
    rw [List.mem_singleton.1 mem]
    exact present a

/-- More fields behind those of a record. -/
theorem append {names more : List String} {members others : List (String × Value)}
    (h : IsRecord names members) (h' : IsRecord more others) :
    IsRecord (names ++ more) (members ++ others) := by
  refine ⟨?_, fun m mem => ?_⟩
  · rw [List.map_append]
    exact h.named.append h'.named
  · rcases List.mem_append.1 mem with first | second
    · exact h.present m first
    · exact h'.present m second

/-- A record is written as an object of its fields, none of them `null`. -/
theorem written {names : List String} {members : List (String × Value)}
    (h : IsRecord names members) :
    ∃ ms, Value.ofMembers members = .object ms ∧ ∀ m ∈ ms, m.1 ∈ names ∧ m.2 ≠ .null := by
  refine ⟨sortMembers members, rfl, fun m mem => ?_⟩
  have given := mem_of_mem_sortMembers mem
  exact ⟨h.named.subset (List.mem_map_of_mem given), h.present m given⟩

end IsRecord

/-! ## Reading by names -/

/-- The documents of members are those of their values, under the same keys. -/
theorem memberDocuments_eq_map (members : List (String × Value)) :
    memberDocuments members = members.map fun m => (some m.1, m.2.document) := by
  induction members with
  | nil => rfl
  | cons m rest ih => rw [memberDocuments, ih, List.map_cons]

/-- Members with known keys, each once, are all kept. -/
theorem knownMembers?_of_known {names : List String} {members : Fields}
    (unique : (members.map Prod.fst).Nodup) (known : ∀ m ∈ members, m.1 ∈ names) :
    knownMembers? names (members.map fun m => (some m.1, m.2)) = some members := by
  induction members with
  | nil => rfl
  | cons m rest ih =>
    obtain ⟨absent, tail⟩ := List.nodup_cons.1 unique
    have here : names.contains m.1 = true := List.contains_iff_mem.2 (known m List.mem_cons_self)
    have fresh : (rest.any fun f => f.1 == m.1) = false := by
      refine List.any_eq_false.2 fun f mem same => absent ?_
      exact eq_of_beq same ▸ List.mem_map_of_mem mem
    have kept := ih tail fun f mem => known f (List.mem_cons_of_mem _ mem)
    simp only [List.map_cons, knownMembers?, kept, here, fresh, bind, Option.bind, pure, if_true,
      Bool.false_eq_true, if_false]

/-- The fields that were read are the members that were written. -/
def Fields.Holds (fs : Fields) (members : List (String × Value)) : Prop :=
  ∀ name, fs.lookup name = (members.lookup name).map Value.document

/-- A written record is read by the names of its fields. -/
theorem read_ofMembers {names : List String} {members : List (String × Value)}
    (named : (members.map Prod.fst).Sublist names) (unique : names.Nodup)
    {read : Fields → Option β} {b : β}
    (reads : ∀ fs : Fields, fs.Holds members → read fs = some b) :
    ((Value.ofMembers members).document.fields? names >>= read) = some b := by
  have once : (members.map Prod.fst).Nodup := named.nodup unique
  have keys : (((sortMembers members).map fun m => (m.1, m.2.document)).map Prod.fst).Nodup := by
    rw [List.map_map]
    exact List.pairwise_map.2 ((ascending_sortMembers members).imp fun before => ne_of_lt before)
  have known : ∀ f ∈ (sortMembers members).map fun m => (m.1, m.2.document), f.1 ∈ names := by
    intro f mem
    obtain ⟨m, sorted, rfl⟩ := List.mem_map.1 mem
    exact named.subset (List.mem_map_of_mem (mem_of_mem_sortMembers sorted))
  have fields : (Value.ofMembers members).document.fields? names =
      some ((sortMembers members).map fun m => (m.1, m.2.document)) := by
    rw [← knownMembers?_of_known keys known, Value.ofMembers, Value.document,
      memberDocuments_eq_map, Document.fields?, List.map_map]
    rfl
  rw [fields]
  refine reads _ fun name => ?_
  rw [lookup_map_snd, lookup_sortMembers, lookup_reverse once]

/-- An optional member is found under its name, if it is there. -/
theorem lookup_optionalMember (name : String) (write : α → Value) (o : Option α) (k : String) :
    (optionalMember name write o).lookup k = if k = name then o.map write else none := by
  cases o with
  | none => exact (ite_self none).symm
  | some a =>
    rw [optionalMember, List.lookup_cons, List.lookup_nil]
    by_cases same : k = name
    · rw [if_pos same, beq_iff_eq.2 same, Option.map_some]
    · rw [if_neg same, beq_false_of_ne same]

/-! ## Reading one field -/

/-- Reads a member that may be missing. -/
def readMember (read : Document → Option β) (default : β) : Option Value → Option β
  | some v => read v.document
  | none => some default

namespace Fields.Holds

variable {fs : Fields} {members : List (String × Value)}

/-- A field is read from the member that its record holds. -/
theorem get_eq (h : fs.Holds members) (name : String) (read : Document → Option β) (default : β) :
    fs.get name read default = readMember read default (members.lookup name) := by
  rw [Fields.get, h name]
  cases members.lookup name <;> rfl

/-- A required field is read from the member that its record holds. -/
theorem require_eq (h : fs.Holds members) (name : String) (read : Document → Option β) :
    fs.require name read = (members.lookup name).bind fun v => read v.document := by
  rw [Fields.require, h name, Option.bind_map]
  rfl

end Fields.Holds

/-- A member that is there is read from its document. -/
@[simp] theorem readMember_some (read : Document → Option β) (default : β) (v : Value) :
    readMember read default (some v) = read v.document := rfl

/-- A text is read back from its document. -/
@[simp] theorem text?_document (s : String) : (Value.text s).document.text? = some s := rfl

/-- A signed integer is read back from its document. -/
@[simp] theorem int64?_document (n : Int64) : (Value.int64 n).document.int64? = some n := by
  have bound := n.toInt_lt
  have small : n.toInt < 0x8000000000000000 := by omega
  have whole : (Value.int64 n).document.int? = some n.toInt := rfl
  rw [Document.int64?, whole, Option.bind_eq_bind, Option.bind_some, if_pos small,
    Int64.ofInt_toInt]

/-- An unsigned integer is read back from its document. -/
@[simp] theorem uint64?_document (n : UInt64) : (Value.uint64 n).document.uint64? = some n := by
  have whole : (Value.uint64 n).document.int? = some (n.toNat : Int) := rfl
  rw [Document.uint64?, whole, Option.bind_eq_bind, Option.bind_some,
    if_pos (Int.natCast_nonneg _), Int.toNat_natCast, UInt64.ofNat_toNat]

/-- A short unsigned integer is read back from its document. -/
@[simp] theorem uint16?_document (n : UInt16) :
    (Value.uint64 n.toUInt64).document.uint16? = some n := by
  have bound := n.toNat_lt
  have small : 0 ≤ (n.toNat : Int) ∧ (n.toNat : Int) < 0x10000 := by omega
  have whole : (Value.uint64 n.toUInt64).document.int? = some (n.toNat : Int) := by
    show some (n.toUInt64.toNat : Int) = _
    rw [UInt16.toNat_toUInt64]
  rw [Document.uint16?, whole, Option.bind_eq_bind, Option.bind_some, if_pos small,
    Int.toNat_natCast, UInt16.ofNat_toNat]

/-- A number is read back from its document. -/
@[simp] theorem float?_document (x : Numeral.Finite64) :
    (Value.float x).document.float? = some x := rfl

/-! ## Optional fields -/

/-- What is not written as `null` is read as present. -/
theorem optional?_document {read : Document → Option β} {v : Value} (present : v ≠ .null) :
    Document.optional? read v.document = (read v.document).map some := by
  cases v with
  | null => exact absurd rfl present
  | bool b => rfl
  | number n => rfl
  | string s => rfl
  | array items => rfl
  | object members => rfl

/-- What was read as present is not `null`. -/
theorem of_optional?_eq_some {read : Document → Option β} {d : Document} {b : β}
    (h : Document.optional? read d = some (some b)) : d ≠ .null ∧ read d = some b := by
  cases d with
  | null => cases h
  | _ =>
    obtain ⟨a, here, same⟩ := Option.map_eq_some_iff.1 h
    cases same
    exact ⟨Document.noConfusion, here⟩

/-- Only `null` is read as absent. -/
theorem eq_null_of_optional? {read : Document → Option β} {d : Document}
    (h : Document.optional? read d = some none) : d = .null := by
  cases d with
  | null => rfl
  | _ => obtain ⟨a, -, same⟩ := Option.map_eq_some_iff.1 h; cases same

/-- An optional field is read as present where it was, and as absent where it was left out. -/
theorem readMember_optional {write : α → Value} {read : Document → Option β} {f : α → β}
    (present : ∀ a, write a ≠ .null) (back : ∀ a, read (write a).document = some (f a))
    (o : Option α) :
    readMember (Document.optional? read) none (o.map write) = some (o.map f) := by
  cases o with
  | none => rfl
  | some a => rw [Option.map_some, readMember_some, optional?_document (present a), back]; rfl

/-- A text is not `null`. -/
theorem text_ne_null (s : String) : Value.text s ≠ .null := Value.noConfusion

/-- A signed integer is not `null`. -/
theorem int64_ne_null (n : Int64) : Value.int64 n ≠ .null := Value.noConfusion

/-- An unsigned integer is not `null`. -/
theorem uint64_ne_null (n : UInt64) : Value.uint64 n ≠ .null := Value.noConfusion

/-- A floating-point number is not `null`. -/
theorem float_ne_null (x : Numeral.Finite64) : Value.float x ≠ .null := Value.noConfusion

/-- An optional text is read back, whether there or not. -/
@[simp] theorem readMember_optionalText (o : Option String) :
    readMember (Document.optional? Document.text?) none (o.map Value.text) = some o := by
  rw [readMember_optional text_ne_null text?_document, Option.map_id']

/-- A choice that is written by its name is read as that name. -/
@[simp] theorem readMember_optionalName (name : α → String) (o : Option α) :
    readMember (Document.optional? Document.text?) none (o.map fun a => Value.text (name a)) =
      some (o.map name) :=
  readMember_optional (fun a => text_ne_null (name a)) (fun a => text?_document (name a)) o

/-- An optional integer is read back, whether there or not. -/
@[simp] theorem readMember_optionalInt64 (o : Option Int64) :
    readMember (Document.optional? Document.int64?) none (o.map Value.int64) = some o := by
  rw [readMember_optional int64_ne_null int64?_document, Option.map_id']

/-- An optional number is read back, whether there or not. -/
@[simp] theorem readMember_optionalFloat (o : Option Numeral.Finite64) :
    readMember (Document.optional? Document.float?) none (o.map Value.float) = some o := by
  rw [readMember_optional float_ne_null float?_document, Option.map_id']

/-! ## Lists -/

/-- The documents of items are those of each item. -/
theorem itemDocuments_eq_map (items : List Value) :
    itemDocuments items = items.map Value.document := by
  induction items with
  | nil => rfl
  | cons v rest ih => rw [itemDocuments, ih, List.map_cons]

/-- A list whose items read back reads back. -/
theorem nullableList?_document {write : α → Value} {read : Document → Option α} (items : List α)
    (back : ∀ a ∈ items, read (write a).document = some a) :
    Document.nullableList? read (Value.array (items.map write)).document = some items := by
  have each : ((items.map write).map Value.document).mapM read = some items := by
    induction items with
    | nil => rfl
    | cons a rest ih =>
      obtain ⟨first, later⟩ := List.forall_mem_cons.1 back
      rw [List.map_cons, List.map_cons, List.mapM_cons, first, ih later]
      rfl
  rw [Value.document, itemDocuments_eq_map]
  exact each

end IngestConsole.Json
