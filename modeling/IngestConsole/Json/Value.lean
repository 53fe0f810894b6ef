import IngestConsole.Json.Literal

/-!
# JSON values

A value that JSON text denotes.  The members of an object are kept in ascending order of their
keys, each key once; `Value.ofMembers` brings members into that form, and of two members with one
key the later wins.
-/

set_option autoImplicit false

namespace IngestConsole.Json

/-- A JSON value. -/
inductive Value
  | null
  | bool (b : Bool)
  | number (n : Number)
  | string (s : String)
  | array (items : List Value)
  | object (members : List (String × Value))
  deriving Repr, Inhabited

/-! ## Equality -/

mutual

/-- Whether two values are the same. -/
def Value.same : Value → Value → Bool
  | .null, .null => true
  | .bool a, .bool b => a == b
  | .number m, .number n => m == n
  | .string s, .string t => s == t
  | .array items, .array others => sameItems items others
  | .object members, .object others => sameMembers members others
  | _, _ => false

/-- Whether two lists hold the same values. -/
def sameItems : List Value → List Value → Bool
  | [], [] => true
  | v :: items, w :: others => v.same w && sameItems items others
  | _, _ => false

/-- Whether two lists hold the same members. -/
def sameMembers : List (String × Value) → List (String × Value) → Bool
  | [], [] => true
  | (key, v) :: members, (other, w) :: others =>
    key == other && v.same w && sameMembers members others
  | _, _ => false

end

mutual

/-- Values are the same exactly if they are equal. -/
theorem Value.same_iff : ∀ v w : Value, v.same w = true ↔ v = w
  | .null, w => by cases w <;> simp [Value.same]
  | .bool _, w => by cases w <;> simp [Value.same]
  | .number _, w => by cases w <;> simp [Value.same]
  | .string _, w => by cases w <;> simp [Value.same]
  | .array items, w => by cases w <;> simp [Value.same, sameItems_iff items]
  | .object members, w => by cases w <;> simp [Value.same, sameMembers_iff members]

/-- Lists hold the same values exactly if they are equal. -/
theorem sameItems_iff : ∀ items others : List Value, sameItems items others = true ↔ items = others
  | [], others => by cases others <;> simp [sameItems]
  | v :: items, others => by
    cases others <;> simp [sameItems, Value.same_iff v, sameItems_iff items]

/-- Lists hold the same members exactly if they are equal. -/
theorem sameMembers_iff :
    ∀ members others : List (String × Value), sameMembers members others = true ↔ members = others
  | [], others => by cases others <;> simp [sameMembers]
  | (key, v) :: members, others => by
    cases others <;>
      simp [sameMembers, Value.same_iff v, sameMembers_iff members, Prod.ext_iff, and_assoc]

end

instance : DecidableEq Value :=
  fun v w => decidable_of_iff _ (Value.same_iff v w)

/-! ## Members -/

/-- Puts a member into its place among members in ascending order of keys; a member with the same
key is replaced. -/
def insertMember {α : Type} (key : String) (v : α) : List (String × α) → List (String × α)
  | [] => [(key, v)]
  | (k, w) :: rest =>
    if key < k then (key, v) :: (k, w) :: rest
    else if key = k then (key, v) :: rest
    else (k, w) :: insertMember key v rest

/-- Members in ascending order of keys, of two with one key the later. -/
def sortMembers {α : Type} (members : List (String × α)) : List (String × α) :=
  members.foldl (fun sorted m => insertMember m.1 m.2 sorted) []

namespace Value

/-- The object with the given members. -/
def ofMembers (members : List (String × Value)) : Value :=
  .object (sortMembers members)

/-- A text as a value. -/
def text (s : String) : Value :=
  .string s

/-- A signed integer of 64 bits as a value. -/
def int64 (n : Int64) : Value :=
  .number (.int ⟨n.toInt, by have := n.le_toInt; omega, by have := n.toInt_lt; omega⟩)

/-- An unsigned integer of 64 bits as a value. -/
def uint64 (n : UInt64) : Value :=
  .number (.int ⟨n.toNat, by omega, by have := n.toNat_lt; omega⟩)

/-- A floating-point number as a value. -/
def float (x : Numeral.Finite64) : Value :=
  .number (.float x)

end Value

end IngestConsole.Json
