import IngestConsole.Proofs.Json.Printing
import IngestConsole.Proofs.Json.Reading
import IngestConsole.Wire.Envelope

/-!
# Spelled envelopes

An envelope is an object with a code, perhaps a message, and an entity, in any order and among any
other members.  However it is spelled, it is read as the envelope of that entity, as long as the
entity is not `null` and is nested no deeper than the envelope leaves room for.
-/

set_option autoImplicit false

namespace IngestConsole.Wire

open Json

/-- A text spells an envelope of success that carries an entity. -/
def CarriesEntity (e : Value) (s : List Char) : Prop :=
  ∃ fields, IsTextOf (.object fields) s ∧
    fields.lookup "retCode" = some (.string "0000") ∧
    (fields.lookup "retMsg" = none ∨
      ∃ message, fields.lookup "retMsg" = some (.string message)) ∧
    fields.lookup "entity" = some e

/-! ## The members of an object -/

/-- What denotes an object is an object with members that denote its own. -/
theorem object_of_denotes {d : Document} {v : Value} (h : Denotes d v)
    {fields : List (String × Value)} (same : v = .object fields) :
    ∃ ds vs, d = .object ds ∧ MembersDenote ds vs ∧ (vs.map Prod.fst).Nodup ∧
      sortMembers vs = fields := by
  cases h with
  | object members keys => exact ⟨_, _, rfl, members, keys, Value.object.inj same⟩
  | _ => cases same

/-- Fields that were taken from an object hold documents of what it holds under their names. -/
structure FieldsDenote (names : List String) (fs : Fields) (vs : List (String × Value)) : Prop where
  present : ∀ name v, name ∈ names → vs.lookup name = some v →
    ∃ d, fs.lookup name = some d ∧ Denotes d v
  absent : ∀ name, vs.lookup name = none → fs.lookup name = none

/-- Where keys occur once the known members are found. -/
theorem exists_knownMembers {names : List String} {ds : List (Option String × Document)}
    {vs : List (String × Value)} (h : MembersDenote ds vs) (keys : (vs.map Prod.fst).Nodup) :
    ∃ fs, knownMembers? names ds = some fs ∧ FieldsDenote names fs vs := by
  induction ds generalizing vs with
  | nil =>
    cases h
    refine ⟨[], rfl, ?_, ?_⟩
    · intro name v _ found
      cases found
    · exact fun name _ => rfl
  | cons m rest ih =>
    cases h with
    | cons first others =>
      rename_i key d v vs
      obtain ⟨fresh, keys⟩ : key ∉ vs.map Prod.fst ∧ (vs.map Prod.fst).Nodup :=
        List.nodup_cons.1 keys
      obtain ⟨fs, known, denote⟩ := ih others keys
      -- no later member has the key, so it can still be taken
      have unused : vs.lookup key = none := by
        refine List.lookup_eq_none_iff.2 fun p mem => bne_iff_ne.2 ?_
        intro same
        rw [same] at fresh
        exact fresh (List.mem_map_of_mem mem)
      have alone : (fs.any fun f => f.1 == key) = false := by
        have missing := List.lookup_eq_none_iff.1 (denote.absent key unused)
        refine List.any_eq_false.2 fun f mem => ?_
        have other := bne_iff_ne.1 (missing f mem)
        simpa using fun same => other same.symm
      by_cases wanted : key ∈ names
      · have contained : names.contains key = true := List.contains_iff_mem.2 wanted
        refine ⟨(key, d) :: fs, ?_, ?_, ?_⟩
        · rw [knownMembers?, known]
          simp only [Option.bind_eq_bind, Option.bind_some, contained, alone, if_true,
            Bool.false_eq_true, if_false]
          rfl
        · intro name w mem found
          rw [List.lookup_cons] at found ⊢
          split at found
          · next same => exact ⟨d, rfl, Option.some.inj found ▸ first⟩
          · exact denote.present name w mem found
        · intro name missing
          rw [List.lookup_cons] at missing ⊢
          split at missing
          · cases missing
          · exact denote.absent name missing
      · have contained : names.contains key = false :=
          Bool.eq_false_iff.2 fun h => wanted (List.contains_iff_mem.1 h)
        refine ⟨fs, ?_, ?_, ?_⟩
        · rw [knownMembers?, known]
          simp only [Option.bind_eq_bind, Option.bind_some, contained, Bool.false_eq_true, if_false]
          rfl
        · intro name w mem found
          rw [List.lookup_cons] at found
          split at found
          · next same => exact absurd (eq_of_beq same ▸ mem) wanted
          · exact denote.present name w mem found
        · intro name missing
          rw [List.lookup_cons] at missing
          split at missing
          · cases missing
          · exact denote.absent name missing

/-! ## Envelopes -/

/-- What denotes a text is that text. -/
theorem eq_string_of_denotes {d : Document} {v : Value} (h : Denotes d v) {text : String}
    (same : v = .string text) : d = .string (some text) := by
  cases h with
  | string other =>
    cases same
    rfl
  | _ => cases same

/-- A document that denotes more than null is read as what it denotes. -/
theorem optional?_of_denotes {d : Document} {v : Value} (h : Denotes d v) (present : v ≠ .null)
    {depth : Nat} (shallow : v.nesting ≤ depth) :
    Document.optional? (·.value? depth) d = some (some v) := by
  have read := value?_of_denotes h shallow
  cases h with
  | null => exact absurd rfl present
  | _ => exact congrArg (Option.map some) read

/-- The envelope that a text carries an entity in. -/
theorem parse?_of_carriesEntity {e : Value} {s : List Char} (carries : CarriesEntity e s)
    (present : e ≠ .null) (shallow : e.nesting ≤ 126) :
    ∃ message, Envelope.parse? s = some { code := "0000", message, entity := some e } := by
  obtain ⟨fields, spelled, code, message, entity⟩ := carries
  obtain ⟨d, parsed, denotes⟩ := exists_document_of_isTextOf spelled
  obtain ⟨ds, vs, rfl, members, keys, sorted⟩ := object_of_denotes denotes rfl
  obtain ⟨fs, known, denote⟩ :
      ∃ fs, knownMembers? Envelope.fieldNames ds = some fs ∧ FieldsDenote Envelope.fieldNames fs vs :=
    exists_knownMembers members keys
  have looked : ∀ name, fields.lookup name = vs.lookup name := by
    intro name
    rw [← sorted, lookup_sortMembers, lookup_reverse keys]
  rw [looked] at code entity
  obtain ⟨c, codeField, codeDenotes⟩ := denote.present _ _ (by decide) code
  obtain ⟨x, entityField, entityDenotes⟩ := denote.present _ _ (by decide) entity
  have codeRead : Fields.require fs "retCode" Document.text? = some "0000" := by
    rw [Fields.require, codeField, eq_string_of_denotes codeDenotes rfl]
    rfl
  have entityRead : fs.get "entity" (Document.optional? (·.value? (depthLimit - 1))) none =
      some (some e) := by
    rw [Fields.get, entityField]
    exact optional?_of_denotes entityDenotes present shallow
  have messageRead : ∃ text, fs.get "retMsg" Document.text? "" = some text := by
    rcases message with missing | ⟨text, found⟩
    · refine ⟨"", ?_⟩
      rw [Fields.get, denote.absent "retMsg" ((looked "retMsg").symm.trans missing)]
    · have given : vs.lookup "retMsg" = some (.string text) := (looked "retMsg").symm.trans found
      obtain ⟨m, field, textDenotes⟩ := denote.present _ _ (by decide) given
      refine ⟨text, ?_⟩
      rw [Fields.get, field, eq_string_of_denotes textDenotes rfl]
      rfl
  obtain ⟨text, messageRead⟩ := messageRead
  refine ⟨text, ?_⟩
  rw [Envelope.parse?, parsed, Option.bind_some, Envelope.decode?, Envelope.decodeWithin?,
    Document.fields?, known]
  simp only [Option.bind_eq_bind, Option.bind_some, codeRead, messageRead, entityRead]
  rfl

/-- Every value has a text that carries it: the envelope of success around it, printed. -/
theorem carriesEntity_pretty {e : Value} (ordered : e.IsOrdered) (exactly : e.IsExact) :
    CarriesEntity e (Envelope.success e).encode.pretty := by
  have first : "entity" < "retCode" := by decide
  have last : ¬"retMsg" < "retCode" := by decide
  have sorted : sortMembers (Envelope.success e).members =
      [("entity", e), ("retCode", .string "0000"), ("retMsg", .string "success")] := by
    simp [Envelope.members, Envelope.success, successCode, Value.text, sortMembers, insertMember,
      first, last]
  have whole : (Envelope.success e).encode =
      .object (sortMembers (Envelope.success e).members) := rfl
  have isOrdered : (Envelope.success e).encode.IsOrdered :=
    isOrdered_ofMembers ⟨trivial, trivial, ordered, trivial⟩
  have isExact : (Envelope.success e).encode.IsExact := by
    rw [whole, sorted]
    exact ⟨exactly, trivial, trivial, trivial⟩
  have spelled := isTextOf_pretty isOrdered isExact (gap_refl [])
  rw [List.append_nil] at spelled
  refine ⟨_, spelled, ?_, .inr ⟨"success", ?_⟩, ?_⟩
  all_goals
    rw [sorted]
    rfl

/-- No text of a value starts with a byte order mark. -/
theorem head?_of_isTextOf {v : Value} {s : List Char} (h : IsTextOf v s) :
    s.head? ≠ some '\ufeff' := by
  intro mark
  obtain ⟨d, parsed, -⟩ := exists_document_of_isTextOf h
  obtain ⟨ts, cut, -⟩ := Option.bind_eq_some_iff.1 parsed
  cases s with
  | nil => cases mark
  | cons c rest =>
    cases mark
    have noToken : readToken '\ufeff' rest = none := rfl
    have noGap : isGap '\ufeff' = false := rfl
    rw [scan, noGap, if_neg Bool.false_ne_true] at cut
    split at cut
    · next found _ => cases noToken.symm.trans found
    · cases cut

end IngestConsole.Wire
