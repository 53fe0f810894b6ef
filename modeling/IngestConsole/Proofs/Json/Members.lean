import IngestConsole.Json.Value
import Mathlib.Data.List.Nodup
import Mathlib.Data.String.Basic

/-!
# Members of objects

The members of an object stand in ascending order of their keys, each key once, however they were
given.  Sorting them loses no key, and a key finds the last member that was given under it.
-/

set_option autoImplicit false

namespace IngestConsole.Json

variable {α : Type}

/-! ## Members in ascending order -/

/-- The members stand in ascending order of their keys, each key once. -/
def Ascending (members : List (String × α)) : Prop :=
  members.Pairwise fun a b => a.1 < b.1

/-- Putting a member into its place brings no other member with it. -/
theorem eq_or_mem_of_mem_insertMember {key : String} {v : α} {members : List (String × α)}
    {m : String × α} (h : m ∈ insertMember key v members) : m = (key, v) ∨ m ∈ members := by
  induction members with
  | nil => exact .inl (List.mem_singleton.1 h)
  | cons first rest ih =>
    rw [insertMember] at h
    split at h
    · exact List.mem_cons.1 h
    · split at h
      · exact (List.mem_cons.1 h).imp_right (List.mem_cons_of_mem _)
      · rcases List.mem_cons.1 h with rfl | old
        · exact .inr List.mem_cons_self
        · exact (ih old).imp_right (List.mem_cons_of_mem _)

/-- Inserting a member keeps the keys ascending. -/
theorem ascending_insertMember {members : List (String × α)} (h : Ascending members)
    (key : String) (v : α) : Ascending (insertMember key v members) := by
  induction members with
  | nil => exact List.pairwise_singleton _ _
  | cons first rest ih =>
    obtain ⟨below, tail⟩ := List.pairwise_cons.1 h
    rw [insertMember]
    split
    · next before =>
      refine List.pairwise_cons.2 ⟨?_, h⟩
      intro m mem
      rcases List.mem_cons.1 mem with rfl | later
      · exact before
      · exact lt_trans before (below m later)
    · next not_before =>
      split
      · next same => exact List.pairwise_cons.2 ⟨fun m mem => same ▸ below m mem, tail⟩
      · next other =>
        refine List.pairwise_cons.2 ⟨?_, ih tail⟩
        intro m mem
        rcases eq_or_mem_of_mem_insertMember mem with rfl | old
        · exact lt_of_le_of_ne (not_lt.1 not_before) (Ne.symm other)
        · exact below m old

/-- Sorted members ascend, whatever order they were given in. -/
theorem ascending_sortMembers (members : List (String × α)) : Ascending (sortMembers members) := by
  rw [sortMembers]
  refine List.foldlRecOn members _ (motive := Ascending) List.Pairwise.nil ?_
  intro sorted ascending m _
  exact ascending_insertMember ascending m.1 m.2

/-- Sorting adds no member. -/
theorem mem_of_mem_sortMembers {members : List (String × α)} {m : String × α}
    (h : m ∈ sortMembers members) : m ∈ members := by
  have onto : ∀ sorted : List (String × α),
      m ∈ members.foldl (fun sorted m => insertMember m.1 m.2 sorted) sorted →
        m ∈ sorted ∨ m ∈ members := by
    clear h
    induction members with
    | nil => exact fun sorted mem => .inl mem
    | cons first rest ih =>
      intro sorted mem
      rcases ih _ mem with inserted | later
      · rcases eq_or_mem_of_mem_insertMember inserted with rfl | old
        · exact .inr List.mem_cons_self
        · exact .inl old
      · exact .inr (List.mem_cons_of_mem _ later)
  exact (onto [] h).resolve_left List.not_mem_nil

/-- A member whose key lies beyond all others is put at the end. -/
theorem insertMember_of_forall_lt {members : List (String × α)} {key : String}
    (beyond : ∀ m ∈ members, m.1 < key) (v : α) :
    insertMember key v members = members ++ [(key, v)] := by
  induction members with
  | nil => rfl
  | cons first rest ih =>
    have before : first.1 < key := beyond first List.mem_cons_self
    rw [insertMember, if_neg (lt_asymm before), if_neg (ne_of_gt before),
      ih fun m mem => beyond m (List.mem_cons_of_mem _ mem), List.cons_append]

/-- Members that ascend stay as they are. -/
theorem sortMembers_of_ascending {members : List (String × α)} (h : Ascending members) :
    sortMembers members = members := by
  have onto : ∀ sorted : List (String × α), Ascending (sorted ++ members) →
      members.foldl (fun sorted m => insertMember m.1 m.2 sorted) sorted = sorted ++ members := by
    clear h
    induction members with
    | nil => intro sorted _; rw [List.foldl_nil, List.append_nil]
    | cons m rest ih =>
      intro sorted ascending
      have beyond : ∀ x ∈ sorted, x.1 < m.1 := fun x mem =>
        (List.pairwise_append.1 ascending).2.2 x mem m List.mem_cons_self
      rw [List.foldl_cons, insertMember_of_forall_lt beyond, ih _ (by simpa using ascending),
        List.append_assoc, List.singleton_append]
  exact onto [] h

/-! ## Looking up a key -/

/-- After inserting a member, its key finds it and the other keys find what they found. -/
theorem lookup_insertMember (key : String) (v : α) (members : List (String × α)) (k : String) :
    (insertMember key v members).lookup k = if k = key then some v else members.lookup k := by
  induction members with
  | nil =>
    rw [insertMember, List.lookup_cons]
    split
    · next same => rw [if_pos (eq_of_beq same)]
    · next other => rw [if_neg (ne_of_beq_false other)]
  | cons first rest ih =>
    rw [insertMember]
    by_cases same : k = key
    · subst same
      rw [if_pos rfl] at ih ⊢
      split
      · exact List.lookup_cons_self
      · split
        · exact List.lookup_cons_self
        · next other => rw [List.lookup_cons, beq_false_of_ne other, ih]
    · rw [if_neg same] at ih ⊢
      have elsewhere : (k == key) = false := beq_false_of_ne same
      split
      · rw [List.lookup_cons, elsewhere]
      · split
        · next replaced =>
          rw [List.lookup_cons, List.lookup_cons, ← replaced, elsewhere]
        · rw [List.lookup_cons, List.lookup_cons, ih]

/-- Among sorted members a key finds the last member that was given under it. -/
theorem lookup_sortMembers (members : List (String × α)) (k : String) :
    (sortMembers members).lookup k = members.reverse.lookup k := by
  have onto : ∀ sorted : List (String × α),
      (members.foldl (fun sorted m => insertMember m.1 m.2 sorted) sorted).lookup k =
        (members.reverse.lookup k).or (sorted.lookup k) := by
    induction members with
    | nil => intro sorted; rfl
    | cons m rest ih =>
      intro sorted
      rw [List.foldl_cons, ih, lookup_insertMember, List.reverse_cons, List.lookup_append,
        Option.or_assoc, List.lookup_cons, List.lookup_nil]
      congr 1
      by_cases same : k = m.1
      · rw [if_pos same, beq_iff_eq.2 same, Option.some_or]
      · rw [if_neg same, beq_false_of_ne same, Option.none_or]
  rw [sortMembers, onto]
  exact Option.or_none

/-- With each key once, the order of members does not matter to a key. -/
theorem lookup_reverse {members : List (String × α)} (unique : (members.map Prod.fst).Nodup)
    (k : String) : members.reverse.lookup k = members.lookup k := by
  induction members with
  | nil => rfl
  | cons m rest ih =>
    obtain ⟨absent, tail⟩ := List.nodup_cons.1 unique
    rw [List.reverse_cons, List.lookup_append, ih tail, List.lookup_cons, List.lookup_cons]
    split
    · next same =>
      have nothing : rest.lookup k = none := by
        refine List.lookup_eq_none_iff.2 fun p mem => bne_iff_ne.2 ?_
        intro found
        exact absent (eq_of_beq same ▸ found ▸ List.mem_map_of_mem mem)
      rw [nothing, Option.none_or]
    · rw [List.lookup_nil, Option.or_none]

/-- What is found among members with mapped values is what was found, mapped. -/
theorem lookup_map_snd {β : Type} (f : α → β) (members : List (String × α)) (k : String) :
    (members.map fun m => (m.1, f m.2)).lookup k = (members.lookup k).map f := by
  induction members with
  | nil => rfl
  | cons m rest ih =>
    rw [List.map_cons, List.lookup_cons, List.lookup_cons, ih]
    split <;> rfl

end IngestConsole.Json
