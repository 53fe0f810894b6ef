import IngestConsole.Json.Printer
import IngestConsole.Proofs.Json.FreeForm
import IngestConsole.Proofs.Json.Grammar

/-!
# Printed values spell themselves

The text of a value over several lines spells that value, as long as it holds no floating-point
number.  Only quotes, backslashes and control characters are escaped, and each escape is one that
the grammar has.
-/

set_option autoImplicit false

namespace IngestConsole.Json

open Numeral

/-! ## Values without floating-point numbers -/

mutual

/-- No number within a value is a floating-point number. -/
def Value.IsExact : Value → Prop
  | .number (.float _) => False
  | .array items => ItemsExact items
  | .object members => MembersExact members
  | _ => True

def ItemsExact : List Value → Prop
  | [] => True
  | v :: rest => v.IsExact ∧ ItemsExact rest

def MembersExact : List (String × Value) → Prop
  | [] => True
  | (_, v) :: rest => v.IsExact ∧ MembersExact rest

end

/-! ## Strings -/

/-- The escape of a control character that has no shorter one. -/
theorem codeUnit?_control {n : Nat} (control : n < 0x20) :
    codeUnit? '0' '0' (Nat.digitChar (n / 16)) (Nat.digitChar (n % 16)) = some n := by
  have all : ∀ n < 0x20,
      codeUnit? '0' '0' (Nat.digitChar (n / 16)) (Nat.digitChar (n % 16)) = some n := by
    decide
  exact all n control

/-- An escaped character spells it. -/
theorem spellsChar_escapeChar (c : Char) : SpellsChar (escapeChar c) c := by
  unfold escapeChar
  by_cases quote : c = '"'
  · subst quote
    exact .short (by decide)
  rw [if_neg quote]
  by_cases backslash : c = '\\'
  · subst backslash
    exact .short (by decide)
  rw [if_neg backslash]
  -- the escapes of two characters, one after the other
  iterate 5
    split
    · next same =>
      subst same
      exact .short (by decide)
  split
  · next control =>
    have unit := SpellsChar.unit (codeUnit?_control control) (by omega)
    rwa [Char.ofNat_toNat] at unit
  · next printable => exact .plain (Nat.le_of_not_lt printable) quote backslash

/-- Escaped characters spell them up to the closing quote. -/
theorem spellsChars_escaped (cs t : List Char) :
    SpellsChars (cs.flatMap escapeChar ++ '"' :: t) cs t := by
  induction cs with
  | nil => exact .close t
  | cons c cs ih =>
    rw [List.flatMap_cons, List.append_assoc]
    exact .char (spellsChar_escapeChar c) ih

/-- A string literal spells its text. -/
theorem spellsString_stringText (text : String) (t : List Char) :
    SpellsString (stringText text ++ t) text t := by
  refine ⟨text.toList.flatMap escapeChar ++ '"' :: t, text.toList, ?_, ?_, ?_⟩
  · simp [stringText]
  · exact spellsChars_escaped text.toList t
  · exact String.ofList_toList.symm

/-! ## Layout -/

/-- A new line is a gap. -/
theorem gap_newLine (level : Nat) (s : List Char) : Gap (newLine level ++ s) s := by
  refine ⟨newLine level, ?_, rfl⟩
  intro c mem
  rcases List.mem_cons.1 mem with rfl | indented
  · exact .inr (.inl rfl)
  · exact .inl (List.eq_of_mem_replicate indented)

/-- A string literal with a colon behind spells a key. -/
theorem spellsKey_stringText (key : String) (s : List Char) :
    SpellsKey (stringText key ++ ':' :: ' ' :: s) key s := by
  refine ⟨_, ' ' :: s, spellsString_stringText key _, gap_refl _, ?_⟩
  exact gap_cons (.inl rfl) (gap_refl s)

/-- Ascending keys occur once. -/
theorem nodup_keys_of_ascending {α : Type} {members : List (String × α)}
    (ascending : Ascending members) : (members.map Prod.fst).Nodup := by
  rw [List.Nodup, List.pairwise_map]
  exact ascending.imp fun before => ne_of_lt before

/-! ## Values -/

mutual

/-- An ordered and exact value is spelled by its print, at any level of indentation. -/
theorem spells_prettyAt (v : Value) (ordered : v.IsOrdered) (exactly : v.IsExact) (level : Nat)
    (t : List Char) : Spells (v.prettyAt level ++ t) v t := by
  match v with
  | .null => exact .null t
  | .bool true => exact .true t
  | .bool false => exact .false t
  | .number (.int n) => exact .int n t
  | .number (.float x) => exact exactly.elim
  | .string text => exact .string (spellsString_stringText text t)
  | .array [] => exact .emptyArray (gap_refl _)
  | .array (v :: rest) =>
    have item := spells_prettyAt v ordered.1 exactly.1 (level + 1) (prettyItems level rest ++ t)
    have items := spellsItems_pretty rest ordered.2 exactly.2 level t item
    have text : (Value.array (v :: rest)).prettyAt level ++ t = '[' :: (newLine (level + 1) ++
        (v.prettyAt (level + 1) ++ (prettyItems level rest ++ t))) := by
      simp [Value.prettyAt]
    rw [text]
    exact .array (gap_newLine _ _) items
  | .object [] => exact .emptyObject (gap_refl _)
  | .object ((key, v) :: rest) =>
    have ascending := ordered.1
    have item := spells_prettyAt v ordered.2.1 exactly.1 (level + 1) (prettyMembers level rest ++ t)
    have members := spellsMembers_pretty rest ordered.2.2 exactly.2 level t
      (spellsKey_stringText key _) item
    have text : (Value.object ((key, v) :: rest)).prettyAt level ++ t =
        '\x7b' :: (newLine (level + 1) ++ (stringText key ++ ':' :: ' ' ::
          (v.prettyAt (level + 1) ++ (prettyMembers level rest ++ t)))) := by
      simp [Value.prettyAt]
    have whole : Value.ofMembers ((key, v) :: rest) = .object ((key, v) :: rest) := by
      rw [Value.ofMembers, sortMembers_of_ascending ascending]
    rw [text, ← whole]
    exact .object (gap_newLine _ _) members (nodup_keys_of_ascending ascending)

/-- The items behind one that is spelled. -/
theorem spellsItems_pretty (rest : List Value) (ordered : ItemsOrdered rest)
    (exactly : ItemsExact rest) (level : Nat) (t : List Char) {s : List Char} {v : Value}
    (item : Spells s v (prettyItems level rest ++ t)) : SpellsItems s (v :: rest) t := by
  match rest with
  | [] =>
    have text : prettyItems level [] ++ t = newLine level ++ (']' :: t) := by simp [prettyItems]
    rw [text] at item
    exact .last item (gap_newLine _ _)
  | w :: rest =>
    have next := spells_prettyAt w ordered.1 exactly.1 (level + 1) (prettyItems level rest ++ t)
    have items := spellsItems_pretty rest ordered.2 exactly.2 level t next
    have text : prettyItems level (w :: rest) ++ t = ',' :: (newLine (level + 1) ++
        (w.prettyAt (level + 1) ++ (prettyItems level rest ++ t))) := by
      simp [prettyItems]
    rw [text] at item
    exact .more item (gap_refl _) (gap_newLine _ _) items

/-- Ordered and exact members are spelled by their print, after a first member that is spelled. -/
theorem spellsMembers_pretty (rest : List (String × Value)) (ordered : MembersOrdered rest)
    (exactly : MembersExact rest) (level : Nat) (t : List Char) {s s' : List Char} {key : String}
    {v : Value} (name : SpellsKey s key s')
    (item : Spells s' v (prettyMembers level rest ++ t)) :
    SpellsMembers s ((key, v) :: rest) t := by
  match rest with
  | [] =>
    have text : prettyMembers level [] ++ t = newLine level ++ ('\x7d' :: t) := by
      simp [prettyMembers]
    rw [text] at item
    exact .last name item (gap_newLine _ _)
  | (key', w) :: rest =>
    have next := spells_prettyAt w ordered.1 exactly.1 (level + 1) (prettyMembers level rest ++ t)
    have members := spellsMembers_pretty rest ordered.2 exactly.2 level t
      (spellsKey_stringText key' _) next
    have text : prettyMembers level ((key', w) :: rest) ++ t =
        ',' :: (newLine (level + 1) ++ (stringText key' ++ ':' :: ' ' ::
          (w.prettyAt (level + 1) ++ (prettyMembers level rest ++ t)))) := by
      simp [prettyMembers]
    rw [text] at item
    exact .more name item (gap_refl _) (gap_newLine _ _) members

end

/-- A printed value spells that value, also with a line end behind it. -/
theorem isTextOf_pretty {v : Value} (ordered : v.IsOrdered) (exactly : v.IsExact)
    {t : List Char} (blank : Gap t []) : IsTextOf v (v.pretty ++ t) :=
  ⟨_, t, gap_refl _, spells_prettyAt v ordered exactly 0 t, blank⟩

end IngestConsole.Json
