import IngestConsole.Proofs.Json.Records

/-!
# Layouts of records

A layout lists the fields of a record: under which name a field stands, which values it takes and what
they mean, what it is where the name is absent, and which part of the record it fills.  A reader that
follows a layout reads an object exactly if every member under one of the names has a value of its
field; other members and the order of members do not matter.
-/

set_option autoImplicit false

namespace IngestConsole.Json

variable {α β : Type}

/-! ## What values mean -/

/-- Which values a field takes, and what they mean. -/
abbrev Meaning (β : Type) : Type :=
  Value → β → Prop

namespace Meaning

/-- The field takes the value. -/
def Takes (m : Meaning β) (v : Value) : Prop :=
  ∃ b, m v b

/-- A text stands as a string. -/
def text : Meaning String
  | v, s => v = .string s

/-- An integer stands as a number without fraction and exponent. -/
def integer (toInt : β → Int) : Meaning β
  | v, b => ∃ i : WireInt, v = .number (.int i) ∧ i.val = toInt b

/-- A signed integer of 64 bits. -/
def int64 : Meaning Int64 :=
  integer Int64.toInt

/-- An unsigned integer of 64 bits. -/
def uint64 : Meaning UInt64 :=
  integer fun n => n.toNat

/-- An unsigned integer of 16 bits. -/
def uint16 : Meaning UInt16 :=
  integer fun n => n.toNat

/-- A floating-point number stands as a number of either form; an integer means the number nearest
to it. -/
def float : Meaning Numeral.Finite64
  | v, x => v = .number (.float x) ∨
      ∃ i : WireInt, v = .number (.int i) ∧ Numeral.Finite64.ofInt? i.val = some x

/-- A choice stands as its name, or as the only key of an object, before `null`. -/
def choice (name : β → String) : Meaning β
  | v, b => v = .string (name b) ∨ v = .object [(name b, .null)]

/-- An absent value stands as `null`. -/
def optional (m : Meaning β) : Meaning (Option β)
  | v, none => v = .null
  | v, some b => v ≠ .null ∧ m v b

/-- A list stands as an array of its items; `null` stands for the empty list as well. -/
def nullableList (m : Meaning β) : Meaning (List β)
  | v, bs => (v = .null ∧ bs = []) ∨ ∃ items, v = .array items ∧ List.Forall₂ m items bs

end Meaning

/-- A field of a record. -/
structure Slot (α : Type) where
  {β : Type}
  name : String
  /-- Which values the field takes, and what they mean. -/
  meaning : Meaning β
  /-- What the field is if its name is absent. -/
  absent : β
  /-- The part of the record that the field fills. -/
  part : α → β

namespace Slot

/-- Among the members the field is `b`. -/
def Is (f : Slot α) (members : List (String × Value)) (b : f.β) : Prop :=
  match members.lookup f.name with
  | some v => f.meaning v b
  | none => b = f.absent

/-- The part of the record is what the members say. -/
def Fills (f : Slot α) (members : List (String × Value)) (a : α) : Prop :=
  f.Is members (f.part a)

end Slot

/-- The members that a value has as a record with the given names: those of an object in which no name
stands twice, or the items of an array that is not too long, each under the name in its place. -/
inductive HasMembers (names : List String) : Value → List (String × Value) → Prop
  | object (members : List (String × Value))
      (once : ((members.map Prod.fst).filter (· ∈ names)).Nodup) :
      HasMembers names (.object members) members
  | array (items : List Value) (fits : items.length ≤ names.length) :
      HasMembers names (.array items) (names.zip items)

/-- A record with a layout. -/
def Meaning.record (layout : List (Slot α)) : Meaning α
  | v, a => ∃ members, HasMembers (layout.map Slot.name) v members ∧
      ∀ f ∈ layout, f.Fills members a

/-! ## What may be `null` -/

namespace Meaning

/-- A text is not null. -/
@[simp] theorem not_text_takes_null : ¬text.Takes .null := by
  rintro ⟨_, same⟩
  cases same

/-- An integer is not null. -/
@[simp] theorem not_integer_takes_null (toInt : β → Int) : ¬(integer toInt).Takes .null := by
  rintro ⟨_, _, same, -⟩
  cases same

/-- A number is not null. -/
@[simp] theorem not_float_takes_null : ¬float.Takes .null := by
  rintro ⟨_, same | ⟨_, same, -⟩⟩
  · cases same
  · cases same

/-- A choice is not null. -/
@[simp] theorem not_choice_takes_null (name : β → String) : ¬(choice name).Takes .null := by
  rintro ⟨_, same | same⟩
  · cases same
  · cases same

/-- An optional value may be null. -/
@[simp] theorem optional_takes_null (m : Meaning β) : m.optional.Takes .null :=
  ⟨none, rfl⟩

/-- A list may be null. -/
@[simp] theorem nullableList_takes_null (m : Meaning β) : m.nullableList.Takes .null :=
  ⟨[], .inl ⟨rfl, rfl⟩⟩

/-- A record is not null. -/
@[simp] theorem not_record_takes_null (layout : List (Slot α)) :
    ¬(record layout).Takes .null := by
  rintro ⟨_, _, has, -⟩
  cases has

end Meaning

/-! ## Readers of fields -/

/-- The reader takes exactly the values that mean something, and reads them as what they mean. -/
def Reads (read : Document → Option β) (m : Meaning β) : Prop :=
  ∀ v b, read v.document = some b ↔ m v b

/-- Where nothing is read, nothing must be meant. -/
theorem iff_of_unread {read : Option β} {b : β} {P : Prop} (unread : read = none)
    (meansNothing : ¬P) : read = some b ↔ P := by
  rw [unread]
  exact iff_of_false (Option.some_ne_none b).symm meansNothing

/-- Reading a text accepts what a text means. -/
theorem reads_text : Reads Document.text? .text := by
  intro v s
  cases v with
  | string t =>
    constructor
    · intro read
      cases read
      rfl
    · intro same
      cases same
      rfl
  | _ => exact iff_of_unread rfl fun same => by cases same

/-- A conversion of integers, one by one, is the reading of integers. -/
theorem reads_integer {convert : Int → Option β} {toInt : β → Int}
    (converts : ∀ (i : WireInt) b, convert i.val = some b ↔ i.val = toInt b) :
    Reads (fun d => d.int? >>= convert) (.integer toInt) := by
  intro v b
  have other : (∀ i, v ≠ .number (.int i)) → (v.document.int? >>= convert) = none →
      ((v.document.int? >>= convert) = some b ↔ Meaning.integer toInt v b) := by
    intro noInteger unread
    refine iff_of_unread unread ?_
    rintro ⟨i, same, -⟩
    exact noInteger i same
  cases v with
  | number n =>
    cases n with
    | int i =>
      constructor
      · intro read
        exact ⟨i, rfl, (converts i b).1 read⟩
      · rintro ⟨_, same, value⟩
        cases same
        exact (converts i b).2 value
    | float x => exact other (fun i same => by cases same) rfl
  | _ => exact other (fun i same => by cases same) rfl

/-- Reading a signed integer accepts what it means. -/
theorem reads_int64 : Reads Document.int64? .int64 := by
  refine reads_integer fun i b => ?_
  constructor
  · split
    · next small =>
      rintro ⟨⟩
      exact (Int64.toInt_ofInt_of_le i.low small).symm
    · intro read
      cases read
  · intro value
    have small := b.toInt_lt
    rw [value, if_pos (by omega), Int64.ofInt_toInt]

/-- Reading an unsigned integer accepts what it means. -/
theorem reads_uint64 : Reads Document.uint64? .uint64 := by
  refine reads_integer fun i b => ?_
  constructor
  · split
    · next natural =>
      rintro ⟨⟩
      have small : i.val.toNat < 2 ^ 64 := by
        have := i.high
        omega
      rw [UInt64.toNat_ofNat_of_lt' small, Int.toNat_of_nonneg natural]
    · intro read
      cases read
  · intro value
    rw [value, if_pos (Int.natCast_nonneg _), Int.toNat_natCast, UInt64.ofNat_toNat]

/-- Reading a short unsigned integer accepts what it means. -/
theorem reads_uint16 : Reads Document.uint16? .uint16 := by
  refine reads_integer fun i b => ?_
  constructor
  · split
    · next small =>
      rintro ⟨⟩
      have fits : i.val.toNat < 2 ^ 16 := by omega
      rw [UInt16.toNat_ofNat_of_lt' fits, Int.toNat_of_nonneg small.1]
    · intro read
      cases read
  · intro value
    have small := b.toNat_lt
    rw [value, if_pos (by omega), Int.toNat_natCast, UInt16.ofNat_toNat]

/-- Reading a number accepts what it means. -/
theorem reads_float : Reads Document.float? .float := by
  intro v x
  have other : (∀ n, v ≠ .number n) → v.document.float? = none →
      (v.document.float? = some x ↔ Meaning.float v x) := by
    intro noNumber unread
    refine iff_of_unread unread ?_
    rintro (same | ⟨i, same, -⟩)
    · exact noNumber _ same
    · exact noNumber _ same
  cases v with
  | number n =>
    cases n with
    | int i =>
      constructor
      · intro read
        exact .inr ⟨i, rfl, read⟩
      · rintro (same | ⟨_, same, nearest⟩)
        · cases same
        · cases same
          exact nearest
    | float y =>
      constructor
      · intro read
        cases read
        exact .inl rfl
      · rintro (same | ⟨_, same, -⟩)
        · cases same
          rfl
        · cases same
  | _ => exact other (fun n same => by cases same) rfl

/-- The name of a choice that stands in a value. -/
theorem choice?_document (v : Value) (s : String) :
    v.document.choice? = some s ↔ v = .string s ∨ v = .object [(s, .null)] := by
  have other : (∀ t, v ≠ .string t) → (∀ t, v ≠ .object [(t, .null)]) →
      v.document.choice? = none →
        (v.document.choice? = some s ↔ v = .string s ∨ v = .object [(s, .null)]) := by
    intro noText noObject unread
    exact iff_of_unread unread (not_or.2 ⟨noText s, noObject s⟩)
  cases v with
  | string t => simp [Value.document, Document.choice?]
  | object members =>
    match members with
    | [(t, .null)] => simp [Value.document, memberDocuments, Document.choice?]
    | [] => exact other nofun nofun rfl
    | [(t, .bool _)] => exact other nofun nofun rfl
    | [(t, .number _)] => exact other nofun nofun rfl
    | [(t, .string _)] => exact other nofun nofun rfl
    | [(t, .array _)] => exact other nofun nofun rfl
    | [(t, .object _)] => exact other nofun nofun rfl
    | (t, w) :: (_, _) :: _ => exact other nofun nofun (by cases w <;> rfl)
  | _ => exact other nofun nofun rfl

/-- A choice is read by its name, if names tell the choices apart. -/
theorem reads_choice {all : List β} {name : β → String} (mem : ∀ b, b ∈ all)
    (inj : name.Injective) :
    Reads (fun d => d.choice? >>= fun s => all.find? (name · == s)) (.choice name) := by
  have found : ∀ s b, all.find? (name · == s) = some b ↔ s = name b := by
    intro s b
    constructor
    · intro here
      have same := List.find?_some here
      exact (eq_of_beq same).symm
    · rintro rfl
      cases here : all.find? (name · == name b) with
      | none => exact absurd (List.find?_eq_none.1 here b (mem b)) (by simp)
      | some c =>
        have same := List.find?_some here
        rw [inj (eq_of_beq same)]
  intro v b
  simp only [bind, Option.bind_eq_some_iff, found, choice?_document]
  constructor
  · rintro ⟨_, stands, rfl⟩
    exact stands
  · intro stands
    exact ⟨name b, stands, rfl⟩

/-- Reading an optional value accepts what it means, if reading the value does. -/
theorem reads_optional {read : Document → Option β} {m : Meaning β} (h : Reads read m) :
    Reads (Document.optional? read) (.optional m) := by
  intro v o
  by_cases null : v = .null
  · subst null
    cases o with
    | none => exact iff_of_true rfl rfl
    | some b =>
      constructor
      · intro read
        cases read
      · rintro ⟨present, -⟩
        exact absurd rfl present
  · rw [optional?_document null, Option.map_eq_some_iff]
    cases o with
    | none =>
      constructor
      · rintro ⟨_, -, same⟩
        cases same
      · intro same
        exact absurd same null
    | some b =>
      constructor
      · rintro ⟨_, read, same⟩
        cases same
        exact ⟨null, (h v b).1 read⟩
      · rintro ⟨-, meant⟩
        exact ⟨b, (h v b).2 meant, rfl⟩

/-- Reading a list item by item accepts what its items mean. -/
theorem mapM_document {read : Document → Option β} {m : Meaning β} (h : Reads read m)
    (items : List Value) (bs : List β) :
    (items.map Value.document).mapM read = some bs ↔ List.Forall₂ m items bs := by
  induction items generalizing bs with
  | nil =>
    rw [List.map_nil, List.mapM_nil, List.forall₂_nil_left_iff]
    constructor
    · intro same
      cases same
      rfl
    · rintro rfl
      rfl
  | cons v rest ih =>
    rw [List.map_cons, List.mapM_cons, List.forall₂_cons_left_iff]
    simp only [bind, Option.bind_eq_some_iff, h v, ih, pure, Option.some.injEq]
    constructor
    · rintro ⟨b, here, bs, later, rfl⟩
      exact ⟨b, bs, here, later, rfl⟩
    · rintro ⟨b, bs, here, later, rfl⟩
      exact ⟨b, here, bs, later, rfl⟩

/-- Reading a list that may be null accepts what it means, if reading its items does. -/
theorem reads_nullableList {read : Document → Option β} {m : Meaning β} (h : Reads read m) :
    Reads (Document.nullableList? read) (.nullableList m) := by
  intro v bs
  cases v with
  | null =>
    constructor
    · intro same
      cases same
      exact .inl ⟨rfl, rfl⟩
    · rintro (⟨-, rfl⟩ | ⟨_, same, -⟩)
      · rfl
      · cases same
  | array items =>
    have list : Document.nullableList? read (Value.array items).document =
        (items.map Value.document).mapM read := by
      rw [Value.document, itemDocuments_eq_map]
      rfl
    rw [list, mapM_document h]
    constructor
    · intro each
      exact .inr ⟨items, rfl, each⟩
    · rintro (⟨same, -⟩ | ⟨_, same, each⟩)
      · cases same
      · cases same
        exact each
  | _ =>
    refine iff_of_unread rfl ?_
    rintro (⟨same, -⟩ | ⟨_, same, -⟩)
    · cases same
    · cases same

/-! ## Readers of records -/

/-- Of the members the known ones are kept, unless a name stands twice. -/
theorem knownMembers?_eq_some_iff {names : List String} {members fs : Fields} :
    knownMembers? names (members.map fun m => (some m.1, m.2)) = some fs ↔
      ((members.map Prod.fst).filter (· ∈ names)).Nodup ∧ fs = members.filter (·.1 ∈ names) := by
  induction members generalizing fs with
  | nil => simp [knownMembers?, eq_comm]
  | cons m rest ih =>
    simp only [List.map_cons, knownMembers?, bind, Option.bind_eq_some_iff, ih, List.filter_cons]
    by_cases known : m.1 ∈ names
    · have twice : (rest.filter (·.1 ∈ names)).any (·.1 == m.1) = true ↔
          m.1 ∈ (rest.map Prod.fst).filter (· ∈ names) := by
        simp [known]
      have here : names.contains m.1 = true := List.contains_iff_mem.2 known
      simp only [known, here, if_true, decide_true, List.nodup_cons, ← twice]
      constructor
      · rintro ⟨_, ⟨once, rfl⟩, kept⟩
        split at kept
        · cases kept
        · next fresh =>
          cases kept
          exact ⟨⟨fresh, once⟩, rfl⟩
      · rintro ⟨⟨fresh, once⟩, rfl⟩
        exact ⟨_, ⟨once, rfl⟩, by rw [if_neg fresh]; rfl⟩
    · simp [known, eq_comm]

/-- A slot is filled by what is read of the field with its name. -/
theorem Fields.Holds.fills_iff {fs : Fields} {members : List (String × Value)}
    (holds : fs.Holds members) {read : Document → Option β} {m : Meaning β} (reads : Reads read m)
    (name : String) (absent : β) (part : α → β) (a : α) :
    Slot.Fills ⟨name, m, absent, part⟩ members a ↔ fs.get name read absent = some (part a) := by
  rw [Slot.Fills, Slot.Is, holds.get_eq]
  cases members.lookup name with
  | none => exact ⟨fun same => congrArg some same.symm, fun same => (Option.some.inj same).symm⟩
  | some v => exact (reads v _).symm

/-- A known member is found among the known members as among all. -/
theorem lookup_filter_fst {names : List String} {name : String} (known : name ∈ names)
    (members : List (String × β)) :
    (members.filter (·.1 ∈ names)).lookup name = members.lookup name := by
  induction members with
  | nil => rfl
  | cons m rest ih =>
    rw [List.filter_cons, List.lookup_cons]
    by_cases same : name = m.1
    · rw [if_pos (by simpa [← same] using known), List.lookup_cons, beq_iff_eq.2 same]
    · rw [beq_false_of_ne same]
      split
      · rw [List.lookup_cons, beq_false_of_ne same, ih]
      · exact ih

/-- A record is read from its members, which are found by their names. -/
theorem fields?_eq_some_iff {names : List String} {v : Value} {fs : Fields} :
    v.document.fields? names = some fs ↔ ∃ members, HasMembers names v members ∧
      fs = (members.map fun m => (m.1, m.2.document)).filter (·.1 ∈ names) := by
  cases v with
  | object members =>
    have map : memberDocuments members =
        (members.map fun m => (m.1, m.2.document)).map fun m => (some m.1, m.2) := by
      rw [memberDocuments_eq_map, List.map_map]
      rfl
    rw [Value.document, Document.fields?, map, knownMembers?_eq_some_iff, List.map_map]
    constructor
    · rintro ⟨once, rfl⟩
      exact ⟨members, .object members once, rfl⟩
    · rintro ⟨_, has, rfl⟩
      cases has with
      | object _ once => exact ⟨once, rfl⟩
  | array items =>
    have zip : names.zip (items.map Value.document) =
        ((names.zip items).map fun m => (m.1, m.2.document)).filter (·.1 ∈ names) := by
      rw [List.zip_map_right, List.filter_eq_self.2]
      · rfl
      · intro m mem
        obtain ⟨given, mem', rfl⟩ := List.mem_map.1 mem
        exact decide_eq_true (List.of_mem_zip mem').1
    rw [Value.document, itemDocuments_eq_map, Document.fields?, List.length_map, zip]
    constructor
    · split
      · next fits =>
        intro same
        cases same
        exact ⟨_, .array items fits, rfl⟩
      · intro same
        cases same
    · rintro ⟨_, has, rfl⟩
      cases has with
      | array _ fits => rw [if_pos fits]
  | _ =>
    refine iff_of_unread rfl ?_
    rintro ⟨_, ⟨⟩, -⟩

/-- A reader of fields that follows a layout is a reader of records. -/
theorem reads_record {layout : List (Slot α)} {names : List String} {read : Fields → Option α}
    (named : layout.map Slot.name = names)
    (follows : ∀ (fs : Fields) members, fs.Holds members →
      ∀ a, read fs = some a ↔ ∀ f ∈ layout, f.Fills members a) :
    Reads (fun d => d.fields? names >>= read) (.record layout) := by
  have known : ∀ (members : List (String × Value)) a,
      read ((members.map fun m => (m.1, m.2.document)).filter (·.1 ∈ names)) = some a ↔
        ∀ f ∈ layout, f.Fills members a := by
    intro members a
    have holds : Fields.Holds ((members.map fun m => (m.1, m.2.document)).filter (·.1 ∈ names))
        (members.filter (·.1 ∈ names)) := by
      intro name
      rw [List.filter_map, lookup_map_snd]
      rfl
    rw [follows _ _ holds]
    refine forall₂_congr fun f mem => ?_
    have here : f.name ∈ names := named ▸ List.mem_map_of_mem mem
    rw [Slot.Fills, Slot.Is, Slot.Fills, Slot.Is, lookup_filter_fst here]
  intro v a
  rw [Option.bind_eq_bind, Option.bind_eq_some_iff, Meaning.record, named]
  constructor
  · rintro ⟨fs, read, filled⟩
    obtain ⟨members, has, rfl⟩ := fields?_eq_some_iff.1 read
    exact ⟨members, has, (known members a).1 filled⟩
  · rintro ⟨members, has, fills⟩
    exact ⟨_, fields?_eq_some_iff.2 ⟨members, has, rfl⟩, (known members a).2 fills⟩

/-! ## Tolerant readers -/

/-- Every choice of contents for the fields is a record. -/
def Complete (layout : List (Slot α)) : Prop :=
  ∀ members : List (String × Value),
    (∀ f ∈ layout, ∃ b, f.Is members b) → ∃ a, ∀ f ∈ layout, f.Fills members a

/-- How a reader of records reads objects, in which every key stands once.  The slots with the names
`nullable` may be `null`. -/
structure Tolerant (layout : List (Slot α)) (nullable : List String)
    (read? : Document → Option α) : Prop where
  /-- An object is read exactly if each member with the name of a field has a value of that field. -/
  takes : ∀ members : List (String × Value), (members.map Prod.fst).Nodup →
    ((∃ a, read? (Value.object members).document = some a) ↔
      ∀ m ∈ members, ∀ f ∈ layout, f.name = m.1 → f.meaning.Takes m.2)
  /-- Only the nullable fields take `null`. -/
  null : ∀ f ∈ layout, f.meaning.Takes .null ↔ f.name ∈ nullable
  /-- Each field is what its member means, or its default. -/
  fills : ∀ members : List (String × Value), (members.map Prod.fst).Nodup → ∀ a,
    (read? (Value.object members).document = some a ↔ ∀ f ∈ layout, f.Fills members a)
  /-- Members with other names, and the order of members, make no difference. -/
  blind : ∀ members others : List (String × Value), (members.map Prod.fst).Nodup →
    (others.map Prod.fst).Nodup →
    (∀ m : String × Value, m.1 ∈ layout.map Slot.name → (m ∈ members ↔ m ∈ others)) →
    read? (Value.object members).document = read? (Value.object others).document

/-- Where keys occur once, finding a member and having it are the same. -/
theorem lookup_eq_some_iff_mem {members : List (String × Value)}
    (once : (members.map Prod.fst).Nodup) {name : String} {v : Value} :
    members.lookup name = some v ↔ (name, v) ∈ members := by
  induction members with
  | nil => simp
  | cons m rest ih =>
    obtain ⟨key, w⟩ := m
    obtain ⟨absent, tail⟩ := List.nodup_cons.1 once
    rw [List.lookup_cons, List.mem_cons]
    by_cases same : name = key
    · subst same
      have later : (name, v) ∉ rest := fun mem => absent (List.mem_map.2 ⟨_, mem, rfl⟩)
      simp [later, eq_comm]
    · rw [beq_false_of_ne same, ih tail]
      simp [same]

/-- A reader of complete records is tolerant, with null allowed where the layout allows it. -/
theorem tolerant_of_reads {layout : List (Slot α)} {nullable : List String}
    {read? : Document → Option α} (reads : Reads read? (.record layout))
    (complete : Complete layout)
    (null : ∀ f ∈ layout, f.meaning.Takes .null ↔ f.name ∈ nullable) :
    Tolerant layout nullable read? := by
  have fills : ∀ members : List (String × Value), (members.map Prod.fst).Nodup → ∀ a,
      (read? (Value.object members).document = some a ↔ ∀ f ∈ layout, f.Fills members a) := by
    intro members once a
    rw [reads, Meaning.record]
    constructor
    · rintro ⟨_, has, filled⟩
      cases has with
      | object _ _ => exact filled
    · exact fun filled => ⟨members, .object members (once.filter _), filled⟩
  refine ⟨fun members once => ?_, null, fills, fun members others once once' same => ?_⟩
  · simp only [fills members once]
    constructor
    · rintro ⟨a, filled⟩ m mem f known named
      have here := filled f known
      have found : members.lookup f.name = some m.2 := by
        rw [named]
        exact (lookup_eq_some_iff_mem once).2 mem
      simp only [Slot.Fills, Slot.Is, found] at here
      exact ⟨_, here⟩
    · intro taken
      refine complete members fun f known => ?_
      cases found : members.lookup f.name with
      | none => exact ⟨f.absent, by simp only [Slot.Is, found]⟩
      | some v =>
        obtain ⟨b, meant⟩ := taken _ ((lookup_eq_some_iff_mem once).1 found) f known rfl
        exact ⟨b, by simpa only [Slot.Is, found] using meant⟩
  · have lookup : ∀ f ∈ layout, members.lookup f.name = others.lookup f.name := by
      intro f known
      refine Option.ext fun v => ?_
      rw [lookup_eq_some_iff_mem once, lookup_eq_some_iff_mem once']
      exact same (f.name, v) (List.mem_map_of_mem known)
    refine Option.ext fun a => ?_
    rw [fills members once, fills others once']
    refine forall₂_congr fun f known => ?_
    rw [Slot.Fills, Slot.Is, Slot.Fills, Slot.Is, lookup f known]

end IngestConsole.Json
