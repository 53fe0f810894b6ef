import IngestConsole.Proofs.Json.Records

/-!
# Records changed field by field

A change that is made to the fields of a record by their names can be made to the text of the
record, to the value that it denotes, or to what is read of it.  Reading a changed record is changing
what was read.
-/

set_option autoImplicit false

namespace IngestConsole.Json

variable {α : Type}

/-! ## Changes by name -/

/-- Items changed by the names of the fields that they stand for. -/
def mapSlots (f : String → α → α) : List String → List α → List α
  | name :: names, item :: rest => f name item :: mapSlots f names rest
  | _, items => items

/-- Members changed by their keys. -/
def mapNamed (f : String → α → α) (members : List (String × α)) : List (String × α) :=
  members.map fun m => (m.1, f m.1 m.2)

/-- A record with each field changed; a key that denotes no text names no field. -/
def Document.mapFields (f : String → Document → Document) (names : List String) :
    Document → Document
  | .object members => .object (members.map fun m => (m.1, m.1.elim m.2 (f · m.2)))
  | .array items => .array (mapSlots f names items)
  | d => d

/-- A record among free-form values with each field changed. -/
def Value.mapFields (f : String → Value → Value) (names : List String) : Value → Value
  | .object members => .object (mapNamed f members)
  | .array items => .array (mapSlots f names items)
  | v => v

/-! ## Members and items -/

/-- Mapping the slots keeps their number. -/
theorem length_mapSlots (f : String → α → α) (names : List String) (items : List α) :
    (mapSlots f names items).length = items.length := by
  induction names generalizing items with
  | nil => cases items <;> rfl
  | cons name names ih =>
    cases items with
    | nil => rfl
    | cons item rest => simp only [mapSlots, List.length_cons, ih]

/-- Mapping the slots is mapping the members they stand for. -/
theorem zip_mapSlots (f : String → α → α) (names : List String) (items : List α) :
    names.zip (mapSlots f names items) = mapNamed f (names.zip items) := by
  induction names generalizing items with
  | nil => rfl
  | cons name names ih =>
    cases items with
    | nil => rfl
    | cons item rest =>
      rw [mapSlots, List.zip_cons_cons, List.zip_cons_cons, ih]
      rfl

/-- What is found among mapped members is what was found, mapped. -/
theorem lookup_mapNamed (f : String → α → α) (members : List (String × α)) (k : String) :
    (mapNamed f members).lookup k = (members.lookup k).map (f k) := by
  induction members with
  | nil => rfl
  | cons m rest ih =>
    have step : mapNamed f (m :: rest) = (m.1, f m.1 m.2) :: mapNamed f rest := rfl
    rw [step, List.lookup_cons, List.lookup_cons, ih]
    split
    · next same =>
      rw [eq_of_beq same]
      rfl
    · rfl

/-- A member may be mapped before or after it is inserted. -/
theorem insertMember_mapNamed (f : String → α → α) (key : String) (v : α)
    (members : List (String × α)) :
    insertMember key (f key v) (mapNamed f members) = mapNamed f (insertMember key v members) := by
  induction members with
  | nil => rfl
  | cons m rest ih =>
    have step : mapNamed f (m :: rest) = (m.1, f m.1 m.2) :: mapNamed f rest := rfl
    rw [step, insertMember, insertMember, ih]
    by_cases before : key < m.1
    · simp only [before, if_true]
      rfl
    · by_cases same : key = m.1
      · rw [if_neg before, if_pos same, if_neg before, if_pos same]
        rfl
      · simp only [before, same, if_false]
        rfl

/-- Members may be mapped before or after they are sorted. -/
theorem sortMembers_mapNamed (f : String → α → α) (members : List (String × α)) :
    sortMembers (mapNamed f members) = mapNamed f (sortMembers members) := by
  have onto : ∀ sorted : List (String × α),
      (mapNamed f members).foldl (fun sorted m => insertMember m.1 m.2 sorted)
          (mapNamed f sorted) =
        mapNamed f (members.foldl (fun sorted m => insertMember m.1 m.2 sorted) sorted) := by
    induction members with
    | nil => exact fun sorted => rfl
    | cons m rest ih =>
      intro sorted
      have step : mapNamed f (m :: rest) = (m.1, f m.1 m.2) :: mapNamed f rest := rfl
      rw [step, List.foldl_cons, List.foldl_cons, insertMember_mapNamed, ih]
  exact onto []

/-! ## Reading fields -/

/-- Mapping the members keeps their keys. -/
theorem any_mapNamed (f : String → α → α) (members : List (String × α)) (key : String) :
    ((mapNamed f members).any fun m => m.1 == key) = members.any fun m => m.1 == key := by
  simp only [mapNamed, List.any_map, Function.comp_def]

/-- The known members may be picked before or after mapping. -/
theorem knownMembers?_mapFields (f : String → Document → Document) (names : List String)
    (members : List (Option String × Document)) :
    knownMembers? names (members.map fun m => (m.1, m.1.elim m.2 (f · m.2))) =
      (knownMembers? names members).map (mapNamed f) := by
  induction members with
  | nil => rfl
  | cons m rest ih =>
    rcases m with ⟨_ | key, d⟩
    · rfl
    · rw [List.map_cons, knownMembers?, knownMembers?, ih]
      cases knownMembers? names rest with
      | none => rfl
      | some fs =>
        show (if names.contains key then
            if (mapNamed f fs).any (·.1 == key) then none
            else some ((key, f key d) :: mapNamed f fs)
          else some (mapNamed f fs)) = Option.map (mapNamed f) (if names.contains key then
            if fs.any (·.1 == key) then none else some ((key, d) :: fs) else some fs)
        rw [any_mapNamed]
        split
        · split <;> rfl
        · rfl

/-- The fields of a changed record are its fields, changed. -/
theorem fields?_mapFields (f : String → Document → Document) (names : List String)
    (d : Document) :
    (d.mapFields f names).fields? names = (d.fields? names).map (mapNamed f) := by
  cases d with
  | object members => exact knownMembers?_mapFields f names members
  | array items =>
    simp only [Document.mapFields, Document.fields?, length_mapSlots, zip_mapSlots]
    split <;> rfl
  | _ => rfl

/-- Reading a mapped field is reading the field through the map. -/
theorem get_mapNamed (f : String → Document → Document) (fs : Fields) (name : String)
    {β : Type} (read : Document → Option β) (default : β) :
    Fields.get (mapNamed f fs) name read default = fs.get name (fun d => read (f name d)) default := by
  rw [Fields.get, Fields.get, lookup_mapNamed]
  cases fs.lookup name <;> rfl

/-! ## Values and documents -/

section

variable {f : String → Document → Document} {g : String → Value → Value}

/-- The values of mapped slots are the mapped values. -/
theorem itemValues?_mapSlots (names : List String)
    (commutes : ∀ name d depth, (f name d).value? depth = (d.value? depth).map (g name))
    (depth : Nat) (items : List Document) :
    itemValues? depth (mapSlots f names items) =
      (itemValues? depth items).map (mapSlots g names) := by
  induction names generalizing items with
  | nil =>
    have same : ∀ vs : List Value, mapSlots g [] vs = vs := fun vs => by cases vs <;> rfl
    have same' : mapSlots f [] items = items := by cases items <;> rfl
    rw [same', funext same, Option.map_id']
  | cons name names ih =>
    cases items with
    | nil => rfl
    | cons d rest =>
      rw [mapSlots, itemValues?, itemValues?, commutes, ih]
      cases d.value? depth with
      | none => rfl
      | some v => cases itemValues? depth rest <;> rfl

/-- The values of mapped members are the mapped values. -/
theorem memberValues?_mapFields
    (commutes : ∀ name d depth, (f name d).value? depth = (d.value? depth).map (g name))
    (depth : Nat) (members : List (Option String × Document)) :
    memberValues? depth (members.map fun m => (m.1, m.1.elim m.2 (f · m.2))) =
      (memberValues? depth members).map (mapNamed g) := by
  induction members with
  | nil => rfl
  | cons m rest ih =>
    rcases m with ⟨_ | key, d⟩
    · rfl
    · rw [List.map_cons, memberValues?, memberValues?, ih]
      simp only [Option.elim_some, commutes]
      cases d.value? depth with
      | none => rfl
      | some v => cases memberValues? depth rest <;> rfl

/-- The value of a changed record is its value, changed. -/
theorem value?_mapFields (names : List String)
    (commutes : ∀ name d depth, (f name d).value? depth = (d.value? depth).map (g name))
    (depth : Nat) (d : Document) :
    (d.mapFields f names).value? depth = (d.value? depth).map (Value.mapFields g names) := by
  cases d with
  | null => rfl
  | bool b => rfl
  | number n => cases n <;> rfl
  | string s => cases s <;> rfl
  | array items =>
    cases depth with
    | zero => rfl
    | succ depth =>
      rw [Document.mapFields, Document.value?, Document.value?, itemValues?_mapSlots names commutes,
        Option.map_map, Option.map_map]
      rfl
  | object members =>
    cases depth with
    | zero => rfl
    | succ depth =>
      rw [Document.mapFields, Document.value?, Document.value?, memberValues?_mapFields commutes,
        Option.map_map, Option.map_map]
      refine congrArg (Option.map · _) (funext fun vs => ?_)
      exact congrArg Value.object (sortMembers_mapNamed g vs)

/-- The documents of mapped slots are the mapped documents. -/
theorem itemDocuments_mapSlots (names : List String)
    (commutes : ∀ name v, (g name v).document = f name v.document) (items : List Value) :
    itemDocuments (mapSlots g names items) = mapSlots f names (itemDocuments items) := by
  induction names generalizing items with
  | nil => cases items <;> rfl
  | cons name names ih =>
    cases items with
    | nil => rfl
    | cons v rest => simp only [mapSlots, itemDocuments, commutes, ih]

/-- The document of a changed record is its document, changed. -/
theorem document_mapFields (names : List String)
    (commutes : ∀ name v, (g name v).document = f name v.document) (v : Value) :
    (v.mapFields g names).document = v.document.mapFields f names := by
  cases v with
  | object members =>
    simp only [Value.mapFields, Value.document, Document.mapFields, memberDocuments_eq_map,
      mapNamed, List.map_map, Function.comp_def, commutes, Option.elim_some]
  | array items =>
    simp only [Value.mapFields, Value.document, Document.mapFields,
      itemDocuments_mapSlots names commutes]
  | _ => rfl

end

end IngestConsole.Json
