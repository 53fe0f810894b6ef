import IngestConsole.Json.Document
import IngestConsole.Proofs.Json.Members

/-!
# Free-form values

The members of every object within a value that was read ascend by their keys.  A value of that
kind is read from the document that writes it, as long as the limit allows for its nesting.
-/

set_option autoImplicit false

namespace IngestConsole.Json

mutual

/-- The members of every object within a value ascend. -/
def Value.IsOrdered : Value → Prop
  | .array items => ItemsOrdered items
  | .object members => Ascending members ∧ MembersOrdered members
  | _ => True

/-- The members of every object within the items of an array ascend. -/
def ItemsOrdered : List Value → Prop
  | [] => True
  | v :: rest => v.IsOrdered ∧ ItemsOrdered rest

/-- The members of every object within the members of an object ascend. -/
def MembersOrdered : List (String × Value) → Prop
  | [] => True
  | (_, v) :: rest => v.IsOrdered ∧ MembersOrdered rest

end

/-- Members are ordered when the value of each is. -/
theorem membersOrdered_iff {members : List (String × Value)} :
    MembersOrdered members ↔ ∀ m ∈ members, m.2.IsOrdered := by
  induction members with
  | nil => exact ⟨fun _ _ mem => absurd mem List.not_mem_nil, fun _ => trivial⟩
  | cons m rest ih => rw [MembersOrdered, ih, List.forall_mem_cons]

/-- An object is ordered as soon as what stands in it is. -/
theorem isOrdered_ofMembers {members : List (String × Value)} (h : MembersOrdered members) :
    (Value.ofMembers members).IsOrdered := by
  refine ⟨ascending_sortMembers members, membersOrdered_iff.2 fun m mem => ?_⟩
  exact membersOrdered_iff.1 h m (mem_of_mem_sortMembers mem)

/-! ## Reading gives ordered values -/

mutual

/-- Every value that is read is ordered. -/
theorem isOrdered_of_value? {depth : Nat} {d : Document} {v : Value}
    (h : d.value? depth = some v) : v.IsOrdered := by
  cases d with
  | null => cases h; trivial
  | bool b => cases h; trivial
  | number n =>
    obtain ⟨_, _, rfl⟩ := Option.map_eq_some_iff.1 h
    trivial
  | string s =>
    obtain ⟨_, _, rfl⟩ := Option.map_eq_some_iff.1 h
    trivial
  | array items =>
    cases depth with
    | zero => cases h
    | succ depth =>
      obtain ⟨vs, read, rfl⟩ := Option.map_eq_some_iff.1 h
      exact itemsOrdered_of_itemValues? read
  | object members =>
    cases depth with
    | zero => cases h
    | succ depth =>
      obtain ⟨ms, read, rfl⟩ := Option.map_eq_some_iff.1 h
      exact isOrdered_ofMembers (membersOrdered_of_memberValues? read)

/-- All items that are read are ordered. -/
theorem itemsOrdered_of_itemValues? {depth : Nat} {items : List Document} {vs : List Value}
    (h : itemValues? depth items = some vs) : ItemsOrdered vs := by
  cases items with
  | nil => cases h; trivial
  | cons d rest =>
    obtain ⟨v, first, h⟩ := Option.bind_eq_some_iff.1 h
    obtain ⟨others, later, h⟩ := Option.bind_eq_some_iff.1 h
    cases h
    exact ⟨isOrdered_of_value? first, itemsOrdered_of_itemValues? later⟩

/-- All members that are read are ordered. -/
theorem membersOrdered_of_memberValues? {depth : Nat} {members : List (Option String × Document)}
    {ms : List (String × Value)} (h : memberValues? depth members = some ms) :
    MembersOrdered ms := by
  cases members with
  | nil => cases h; trivial
  | cons m rest =>
    obtain ⟨key, d⟩ := m
    obtain ⟨name, -, h⟩ := Option.bind_eq_some_iff.1 h
    obtain ⟨v, first, h⟩ := Option.bind_eq_some_iff.1 h
    obtain ⟨others, later, h⟩ := Option.bind_eq_some_iff.1 h
    cases h
    exact ⟨isOrdered_of_value? first, membersOrdered_of_memberValues? later⟩

end

/-- Only `null` is read as `null`. -/
theorem eq_null_of_value? {depth : Nat} {d : Document} (h : d.value? depth = some .null) :
    d = .null := by
  cases d with
  | null => rfl
  | bool b => cases h
  | number n => obtain ⟨_, _, same⟩ := Option.map_eq_some_iff.1 h; cases same
  | string s => obtain ⟨_, _, same⟩ := Option.map_eq_some_iff.1 h; cases same
  | array items =>
    cases depth with
    | zero => cases h
    | succ depth => obtain ⟨_, _, same⟩ := Option.map_eq_some_iff.1 h; cases same
  | object members =>
    cases depth with
    | zero => cases h
    | succ depth => obtain ⟨_, _, same⟩ := Option.map_eq_some_iff.1 h; cases same

/-! ## How deep values nest -/

/-- What stands under a key nests less deep than the object. -/
theorem nesting_le_of_mem {members : List (String × Value)} {m : String × Value}
    (h : m ∈ members) : m.2.nesting ≤ memberNesting members := by
  induction members with
  | nil => exact absurd h List.not_mem_nil
  | cons first rest ih =>
    rw [memberNesting]
    rcases List.mem_cons.1 h with rfl | later
    · exact Nat.le_max_left _ _
    · exact (ih later).trans (Nat.le_max_right _ _)

/-- Members nest within a depth when the value of each does. -/
theorem memberNesting_le_iff {members : List (String × Value)} {depth : Nat} :
    memberNesting members ≤ depth ↔ ∀ m ∈ members, m.2.nesting ≤ depth := by
  induction members with
  | nil => exact ⟨fun _ _ mem => absurd mem List.not_mem_nil, fun _ => Nat.zero_le _⟩
  | cons m rest ih => rw [memberNesting, Nat.max_le, ih, List.forall_mem_cons]

mutual

/-- What is read within a limit nests no deeper than the limit. -/
theorem nesting_le_of_value? {depth : Nat} {d : Document} {v : Value}
    (h : d.value? depth = some v) : v.nesting ≤ depth := by
  cases d with
  | null => cases h; exact Nat.zero_le _
  | bool b => cases h; exact Nat.zero_le _
  | number n =>
    obtain ⟨_, _, rfl⟩ := Option.map_eq_some_iff.1 h
    exact Nat.zero_le _
  | string s =>
    obtain ⟨_, _, rfl⟩ := Option.map_eq_some_iff.1 h
    exact Nat.zero_le _
  | array items =>
    cases depth with
    | zero => cases h
    | succ depth =>
      obtain ⟨vs, read, rfl⟩ := Option.map_eq_some_iff.1 h
      exact Nat.succ_le_succ (itemNesting_le_of_itemValues? read)
  | object members =>
    cases depth with
    | zero => cases h
    | succ depth =>
      obtain ⟨ms, read, rfl⟩ := Option.map_eq_some_iff.1 h
      apply Nat.succ_le_succ
      rw [memberNesting_le_iff]
      intro m mem
      exact memberNesting_le_iff.1 (memberNesting_le_of_memberValues? read) m
        (mem_of_mem_sortMembers mem)

/-- Items that are read within a depth nest within it. -/
theorem itemNesting_le_of_itemValues? {depth : Nat} {items : List Document} {vs : List Value}
    (h : itemValues? depth items = some vs) : itemNesting vs ≤ depth := by
  cases items with
  | nil => cases h; exact Nat.zero_le _
  | cons d rest =>
    obtain ⟨v, first, h⟩ := Option.bind_eq_some_iff.1 h
    obtain ⟨others, later, h⟩ := Option.bind_eq_some_iff.1 h
    cases h
    exact Nat.max_le.2 ⟨nesting_le_of_value? first, itemNesting_le_of_itemValues? later⟩

/-- Members that are read within a depth nest within it. -/
theorem memberNesting_le_of_memberValues? {depth : Nat}
    {members : List (Option String × Document)} {ms : List (String × Value)}
    (h : memberValues? depth members = some ms) : memberNesting ms ≤ depth := by
  cases members with
  | nil => cases h; exact Nat.zero_le _
  | cons m rest =>
    obtain ⟨key, d⟩ := m
    obtain ⟨name, -, h⟩ := Option.bind_eq_some_iff.1 h
    obtain ⟨v, first, h⟩ := Option.bind_eq_some_iff.1 h
    obtain ⟨others, later, h⟩ := Option.bind_eq_some_iff.1 h
    cases h
    exact Nat.max_le.2 ⟨nesting_le_of_value? first, memberNesting_le_of_memberValues? later⟩

end

/-! ## Ordered values are read back -/

mutual

/-- An ordered value that nests within the depth is read back from its document. -/
theorem value?_document {depth : Nat} (v : Value) (ordered : v.IsOrdered)
    (shallow : v.nesting ≤ depth) : v.document.value? depth = some v := by
  cases v with
  | null => rfl
  | bool b => rfl
  | number n => rfl
  | string s => rfl
  | array items =>
    obtain ⟨depth, rfl⟩ := Nat.exists_eq_add_of_le' (Nat.le_trans (Nat.le_add_left 1 _) shallow)
    have inner : itemNesting items ≤ depth := Nat.le_of_succ_le_succ shallow
    rw [Value.document, Document.value?, itemValues?_itemDocuments items ordered inner]
    rfl
  | object members =>
    obtain ⟨depth, rfl⟩ := Nat.exists_eq_add_of_le' (Nat.le_trans (Nat.le_add_left 1 _) shallow)
    have inner : memberNesting members ≤ depth := Nat.le_of_succ_le_succ shallow
    obtain ⟨ascending, within⟩ := ordered
    rw [Value.document, Document.value?, memberValues?_memberDocuments members within inner,
      Option.map_some, Value.ofMembers, sortMembers_of_ascending ascending]

/-- Ordered items that nest within the depth are read back from their documents. -/
theorem itemValues?_itemDocuments {depth : Nat} (items : List Value)
    (ordered : ItemsOrdered items) (shallow : itemNesting items ≤ depth) :
    itemValues? depth (itemDocuments items) = some items := by
  cases items with
  | nil => rfl
  | cons v rest =>
    obtain ⟨first, later⟩ := ordered
    obtain ⟨here, there⟩ := Nat.max_le.1 shallow
    rw [itemDocuments, itemValues?, value?_document v first here,
      itemValues?_itemDocuments rest later there]
    rfl

/-- Ordered members that nest within the depth are read back from their documents. -/
theorem memberValues?_memberDocuments {depth : Nat} (members : List (String × Value))
    (ordered : MembersOrdered members) (shallow : memberNesting members ≤ depth) :
    memberValues? depth (memberDocuments members) = some members := by
  cases members with
  | nil => rfl
  | cons m rest =>
    obtain ⟨key, v⟩ := m
    obtain ⟨first, later⟩ := ordered
    obtain ⟨here, there⟩ := Nat.max_le.1 shallow
    rw [memberDocuments, memberValues?, value?_document v first here,
      memberValues?_memberDocuments rest later there]
    rfl

end

end IngestConsole.Json
