import IngestConsole.Proofs.Json.FreeForm
import IngestConsole.Proofs.Json.Literals

/-!
# Every spelling is read

Whatever spells a value is cut into tokens that are read as a document of that value, and what
follows it is left alone.  Blanks and escapes, the order of members and the spelling of numbers make
no difference.
-/

set_option autoImplicit false

namespace IngestConsole.Json

open Numeral

/-! ## Tokens -/

/-- Gaps are skipped. -/
theorem scan_of_gap {s t : List Char} (h : Gap s t) : scan s = scan t := by
  apply gap_induction (P := fun s => scan s = scan t) h rfl
  intro c s blank ih
  have gap : isGap c = true := by
    rcases blank with rfl | rfl | rfl | rfl
    all_goals rfl
  rw [scan, if_pos gap, ih]

/-- A token that is cut off in front is the first one. -/
theorem scan_token {c : Char} {s t : List Char} {token : Token} (other : isGap c = false)
    (read : readToken c s = some (token, t)) : scan (c :: s) = (scan t).map (token :: ·) := by
  rw [scan, other, if_neg Bool.false_ne_true]
  split
  · next found _ =>
    cases read.symm.trans found
    rfl
  · next found _ => cases read.symm.trans found

/-- What spells a number is cut off as that number. -/
theorem scan_number {s : List Char} {l : NumberLiteral} (h : SpellsLiteral s l) {t : List Char}
    (ends : EndsNumber t) :
    ∃ c rest, s ++ t = c :: rest ∧ isGap c = false ∧ readToken c rest = some (.number l, t) := by
  obtain ⟨unsigned, spelled, read⟩ := readNumber_of_spellsLiteral h ends
  cases negative : l.negative with
  | true =>
    rw [negative] at spelled read
    refine ⟨'-', unsigned ++ t, ?_, rfl, ?_⟩
    · rw [spelled]
      rfl
    · show (readNumber true (unsigned ++ t)).map _ = _
      rw [read]
      rfl
  | false =>
    rw [negative] at spelled read
    obtain ⟨some_digit, digits⟩ := h.whole
    obtain ⟨d, whole, first⟩ := List.exists_cons_of_ne_nil some_digit
    obtain ⟨tail, rfl⟩ : ∃ tail, s = d :: tail := by
      obtain ⟨e, -, same⟩ := h.exponent
      rw [negative, first] at same
      exact ⟨_, same⟩
    obtain rfl : d :: tail = unsigned := spelled
    have digit : d.isDigit = true := digits d (first ▸ List.mem_cons_self)
    have plain : isGap d = false := by
      unfold isGap
      simp only [Bool.or_eq_false_iff, decide_eq_false_iff_not]
      refine ⟨⟨⟨?_, ?_⟩, ?_⟩, ?_⟩
      all_goals
        rintro rfl
        cases digit
    have token : ∀ rest, readToken d rest =
        (readNumber false (d :: rest)).map fun r => (.number r.1, r.2) := by
      intro rest
      unfold readToken
      split
      case h_12 => rfl
      all_goals cases digit
    refine ⟨d, tail ++ t, rfl, plain, ?_⟩
    rw [token, ← List.cons_append, read]
    rfl

/-! ## Documents of a value -/

mutual

/-- A document has a value, with the members of objects in any order. -/
inductive Denotes : Document → Value → Prop
  | null : Denotes .null .null
  | bool (b : Bool) : Denotes (.bool b) (.bool b)
  | number (n : Number) : Denotes (.number (some n)) (.number n)
  | string (text : String) : Denotes (.string (some text)) (.string text)
  | array {ds : List Document} {vs : List Value} (items : ItemsDenote ds vs) :
      Denotes (.array ds) (.array vs)
  | object {ds : List (Option String × Document)} {vs : List (String × Value)}
      (members : MembersDenote ds vs) (keys : (vs.map Prod.fst).Nodup) :
      Denotes (.object ds) (.ofMembers vs)

/-- The documents of the items of an array. -/
inductive ItemsDenote : List Document → List Value → Prop
  | nil : ItemsDenote [] []
  | cons {d : Document} {v : Value} {ds : List Document} {vs : List Value} (first : Denotes d v)
      (rest : ItemsDenote ds vs) : ItemsDenote (d :: ds) (v :: vs)

/-- The documents of the members of an object. -/
inductive MembersDenote : List (Option String × Document) → List (String × Value) → Prop
  | nil : MembersDenote [] []
  | cons {key : String} {d : Document} {v : Value} {ds : List (Option String × Document)}
      {vs : List (String × Value)} (first : Denotes d v) (rest : MembersDenote ds vs) :
      MembersDenote ((some key, d) :: ds) ((key, v) :: vs)

end

/-- Of members with different keys none is lost. -/
theorem mem_sortMembers_of_mem {α : Type} {members : List (String × α)}
    (unique : (members.map Prod.fst).Nodup) {m : String × α} (h : m ∈ members) :
    m ∈ sortMembers members := by
  obtain ⟨before, after, rfl⟩ := List.append_of_mem h
  have first : ∀ p ∈ before, (m.1 != p.1) = true := by
    intro p mem
    apply bne_iff_ne.2
    intro same
    rw [List.map_append, List.map_cons] at unique
    have apart := (List.nodup_append.1 unique).2.2
    exact apart p.1 (List.mem_map_of_mem mem) m.1 List.mem_cons_self same.symm
  have found : (sortMembers (before ++ m :: after)).lookup m.1 = some m.2 := by
    rw [lookup_sortMembers, lookup_reverse unique]
    exact List.lookup_eq_some_iff.2 ⟨before, after, rfl, first⟩
  obtain ⟨l₁, l₂, same, -⟩ := List.lookup_eq_some_iff.1 found
  rw [same]
  exact List.mem_append_right l₁ List.mem_cons_self

mutual

/-- A document has the value it denotes, if that nests within the depth. -/
theorem value?_of_denotes {d : Document} {v : Value} (h : Denotes d v) {depth : Nat}
    (shallow : v.nesting ≤ depth) : d.value? depth = some v := by
  cases h with
  | null => rfl
  | bool b => rfl
  | number n => rfl
  | string text => rfl
  | array items =>
    obtain ⟨depth, rfl⟩ := Nat.exists_eq_add_of_le' (Nat.le_trans (Nat.le_add_left 1 _) shallow)
    rw [Document.value?, itemValues?_of_denote items (Nat.le_of_succ_le_succ shallow)]
    rfl
  | object members keys =>
    obtain ⟨depth, rfl⟩ := Nat.exists_eq_add_of_le' (Nat.le_trans (Nat.le_add_left 1 _) shallow)
    have inner := Nat.le_of_succ_le_succ shallow
    rw [Document.value?, memberValues?_of_denote members ?_]
    · rfl
    · intro m mem
      exact (nesting_le_of_mem (mem_sortMembers_of_mem keys mem)).trans inner

/-- Items have the values they denote, if these nest within the depth. -/
theorem itemValues?_of_denote {ds : List Document} {vs : List Value} (h : ItemsDenote ds vs)
    {depth : Nat} (shallow : itemNesting vs ≤ depth) : itemValues? depth ds = some vs := by
  cases h with
  | nil => rfl
  | cons first rest =>
    obtain ⟨here, there⟩ := Nat.max_le.1 shallow
    rw [itemValues?, value?_of_denotes first here, itemValues?_of_denote rest there]
    rfl

/-- Members have the values they denote, if these nest within the depth. -/
theorem memberValues?_of_denote {ds : List (Option String × Document)}
    {vs : List (String × Value)} (h : MembersDenote ds vs) {depth : Nat}
    (shallow : ∀ m ∈ vs, m.2.nesting ≤ depth) : memberValues? depth ds = some vs := by
  cases h with
  | nil => rfl
  | cons first rest =>
    obtain ⟨here, there⟩ := List.forall_mem_cons.1 shallow
    rw [memberValues?, value?_of_denotes first here, memberValues?_of_denote rest there]
    rfl

end

/-! ## Reading documents -/

/-- What stands before `t` is cut into tokens, the first of them not `stop`, from which `a` is
read. -/
def ReadBy {α : Type} (read : Nat → List Token → Option (α × List Token)) (stop : Token)
    (s : List Char) (a : α) (t : List Char) : Prop :=
  ∃ token ts, token ≠ stop ∧ scan s = (scan t).map (token :: ts ++ ·) ∧
    ∀ fuel rest, 2 * (ts.length + 1) ≤ fuel → read fuel (token :: ts ++ rest) = some (a, rest)

/-- A document of a single token is read by cutting off that token. -/
theorem readBy_token {c : Char} {s t : List Char} {token : Token} {d : Document}
    (blank : isGap c = false) (cut : readToken c s = some (token, t))
    (other : token ≠ .closeArray)
    (read : ∀ fuel rest, readDocument (fuel + 1) (token :: rest) = some (d, rest)) :
    ReadBy readDocument .closeArray (c :: s) d t := by
  refine ⟨token, [], other, scan_token blank cut, ?_⟩
  intro fuel rest enough
  obtain ⟨fuel, rfl⟩ := Nat.exists_eq_add_of_le' (Nat.le_trans (by decide : 1 ≤ 2) enough)
  exact read fuel rest

/-- The tokens behind a gap and a sign. -/
theorem scan_sign {c : Char} {s t : List Char} {token : Token} (gap : Gap s (c :: t))
    (blank : isGap c = false) (cut : ∀ s, readToken c s = some (token, s)) :
    scan s = (scan t).map (token :: ·) := by
  rw [scan_of_gap gap, scan_token blank (cut t)]

/-- Brackets with nothing between them. -/
theorem readBy_empty {a c : Char} {s t : List Char} {opening closing : Token} {d : Document}
    (blank : isGap a = false) (cut : ∀ s, readToken a s = some (opening, s))
    (gap : Gap s (c :: t)) (blank' : isGap c = false)
    (cut' : ∀ s, readToken c s = some (closing, s)) (other : opening ≠ .closeArray)
    (read : ∀ fuel rest, readDocument (fuel + 1) (opening :: closing :: rest) = some (d, rest)) :
    ReadBy readDocument .closeArray (a :: s) d t := by
  refine ⟨opening, [closing], other, ?_, ?_⟩
  · rw [scan_token blank (cut s), scan_sign gap blank' cut', Option.map_map]
    rfl
  · intro fuel rest enough
    obtain ⟨fuel, rfl⟩ := Nat.exists_eq_add_of_le' (Nat.le_trans (by decide : 1 ≤ 4) enough)
    exact read fuel rest

/-- Brackets with something between them that goes on to the closing one. -/
theorem readBy_filled {α : Type} {a : Char} {s s' t : List Char} {opening stop : Token}
    {read : Nat → List Token → Option (α × List Token)} {wrap : α → Document} {x : α}
    (blank : isGap a = false) (cut : ∀ s, readToken a s = some (opening, s))
    (other : opening ≠ .closeArray) (gap : Gap s s') (inside : ReadBy read stop s' x t)
    (step : ∀ fuel token rest, token ≠ stop →
      readDocument (fuel + 1) (opening :: token :: rest) =
        (read fuel (token :: rest)).map fun r => (wrap r.1, r.2)) :
    ReadBy readDocument .closeArray (a :: s) (wrap x) t := by
  obtain ⟨token, ts, first, tokens, reads⟩ := inside
  refine ⟨opening, token :: ts, other, ?_, ?_⟩
  · rw [scan_token blank (cut s), scan_of_gap gap, tokens, Option.map_map]
    rfl
  · intro fuel rest enough
    obtain ⟨fuel, rfl⟩ := Nat.exists_eq_add_of_le' (Nat.le_trans (Nat.le_add_left 1 _) enough)
    have inner := reads fuel rest (by simp only [List.length_cons] at enough; omega)
    show readDocument (fuel + 1) (opening :: token :: (ts ++ rest)) = _
    rw [step fuel token (ts ++ rest) first]
    exact congrArg (Option.map _) inner

/-- An array is read when its items are. -/
theorem readBy_array {s s' t : List Char} {ds : List Document} (gap : Gap s s')
    (inside : ReadBy readItems .closeArray s' ds t) :
    ReadBy readDocument .closeArray ('[' :: s) (.array ds) t := by
  refine readBy_filled rfl (fun _ => rfl) Token.noConfusion gap inside ?_
  intro fuel token rest first
  rw [readDocument]
  exact fun more same => first (List.cons.inj same).1

/-- An object is read when its members are. -/
theorem readBy_object {s s' t : List Char} {ds : List (Option String × Document)} (gap : Gap s s')
    (inside : ReadBy readMembers .closeObject s' ds t) :
    ReadBy readDocument .closeArray ('\x7b' :: s) (.object ds) t := by
  refine readBy_filled rfl (fun _ => rfl) Token.noConfusion gap inside ?_
  intro fuel token rest first
  rw [readDocument]
  exact fun more same => first (List.cons.inj same).1

/-- A last item is read up to the closing bracket. -/
theorem readBy_lastItem {s s' t : List Char} {d : Document}
    (item : ReadBy readDocument .closeArray s d s') (gap : Gap s' (']' :: t)) :
    ReadBy readItems .closeArray s [d] t := by
  obtain ⟨token, ts, other, cut, read⟩ := item
  refine ⟨token, ts ++ [.closeArray], other, ?_, ?_⟩
  · rw [cut, scan_sign gap rfl fun s => rfl, Option.map_map]
    simp [Function.comp_def]
  · intro fuel rest enough
    obtain ⟨fuel, rfl⟩ := Nat.exists_eq_add_of_le' (Nat.le_trans (Nat.le_add_left 1 _) enough)
    have first := read fuel (.closeArray :: rest) (by simp at enough; omega)
    have tokens : token :: (ts ++ [.closeArray]) ++ rest = token :: ts ++ .closeArray :: rest := by
      simp
    rw [readItems, tokens, first]

/-- An item with others behind it is read up to the comma. -/
theorem readBy_moreItems {s s₁ s₂ s₃ t : List Char} {d : Document} {ds : List Document}
    (item : ReadBy readDocument .closeArray s d s₁) (before : Gap s₁ (',' :: s₂))
    (after : Gap s₂ s₃) (rest : ReadBy readItems .closeArray s₃ ds t) :
    ReadBy readItems .closeArray s (d :: ds) t := by
  obtain ⟨token, ts, other, cut, read⟩ := item
  obtain ⟨token', ts', -, cut', read'⟩ := rest
  refine ⟨token, ts ++ .comma :: token' :: ts', other, ?_, ?_⟩
  · rw [cut, scan_sign before rfl fun s => rfl, scan_of_gap after, cut', Option.map_map,
      Option.map_map]
    simp [Function.comp_def]
  · intro fuel rest enough
    obtain ⟨fuel, rfl⟩ := Nat.exists_eq_add_of_le' (Nat.le_trans (Nat.le_add_left 1 _) enough)
    have first := read fuel (.comma :: (token' :: ts' ++ rest)) (by simp at enough; omega)
    have others := read' fuel rest (by simp at enough; omega)
    have tokens : token :: (ts ++ .comma :: token' :: ts') ++ rest =
        token :: ts ++ .comma :: (token' :: ts' ++ rest) := by
      simp
    rw [readItems, tokens, first]
    exact congrArg (Option.map _) others

/-- What spells a string is cut off as pieces that give its text. -/
theorem scan_string {s t : List Char} {text : String} (h : SpellsString s text t) :
    ∃ c rest pieces, s = c :: rest ∧ isGap c = false ∧
      readToken c rest = some (.string pieces, t) ∧ literalText? pieces = some text := by
  obtain ⟨inner, cs, rfl, spelled, rfl⟩ := h
  obtain ⟨pieces, read, value⟩ := exists_pieces_of_spellsChars spelled
  refine ⟨'"', inner, pieces, rfl, rfl, ?_, ?_⟩
  · show (readString inner).map _ = _
    rw [read]
    rfl
  · rw [literalText?, value]
    rfl

/-- What spells a key is cut off as pieces that give it, and a colon. -/
theorem scan_key {s t : List Char} {key : String} (h : SpellsKey s key t) :
    ∃ pieces, literalText? pieces = some key ∧
      scan s = (scan t).map (.string pieces :: .colon :: ·) := by
  obtain ⟨s₁, s₂, name, before, after⟩ := h
  obtain ⟨c, rest, pieces, rfl, blank, cut, text⟩ := scan_string name
  refine ⟨pieces, text, ?_⟩
  rw [scan_token blank cut, scan_sign before rfl fun s => rfl, scan_of_gap after, Option.map_map]
  rfl

/-- A last member is read up to the closing brace. -/
theorem readBy_lastMember {s s₁ s₂ t : List Char} {key : String} {d : Document}
    (name : SpellsKey s key s₁) (item : ReadBy readDocument .closeArray s₁ d s₂)
    (gap : Gap s₂ ('\x7d' :: t)) : ReadBy readMembers .closeObject s [(some key, d)] t := by
  obtain ⟨pieces, text, named⟩ := scan_key name
  obtain ⟨token, ts, -, cut, read⟩ := item
  refine ⟨.string pieces, .colon :: token :: ts ++ [.closeObject], Token.noConfusion, ?_, ?_⟩
  · rw [named, cut, scan_sign gap rfl fun s => rfl, Option.map_map, Option.map_map]
    simp [Function.comp_def]
  · intro fuel rest enough
    obtain ⟨fuel, rfl⟩ := Nat.exists_eq_add_of_le' (Nat.le_trans (Nat.le_add_left 1 _) enough)
    have first := read fuel (.closeObject :: rest) (by simp at enough; omega)
    have tokens : .string pieces :: (.colon :: token :: ts ++ [.closeObject]) ++ rest =
        .string pieces :: .colon :: (token :: ts ++ .closeObject :: rest) := by
      simp
    simp only [tokens, readMembers, first, text]

/-- A member with others behind it is read up to the comma. -/
theorem readBy_moreMembers {s s₁ s₂ s₃ s₄ t : List Char} {key : String} {d : Document}
    {ds : List (Option String × Document)} (name : SpellsKey s key s₁)
    (item : ReadBy readDocument .closeArray s₁ d s₂) (before : Gap s₂ (',' :: s₃))
    (after : Gap s₃ s₄) (rest : ReadBy readMembers .closeObject s₄ ds t) :
    ReadBy readMembers .closeObject s ((some key, d) :: ds) t := by
  obtain ⟨pieces, text, named⟩ := scan_key name
  obtain ⟨token, ts, -, cut, read⟩ := item
  obtain ⟨token', ts', -, cut', read'⟩ := rest
  refine ⟨.string pieces, .colon :: token :: ts ++ .comma :: token' :: ts', Token.noConfusion,
    ?_, ?_⟩
  · rw [named, cut, scan_sign before rfl fun s => rfl, scan_of_gap after, cut', Option.map_map,
      Option.map_map, Option.map_map]
    simp [Function.comp_def]
  · intro fuel rest enough
    obtain ⟨fuel, rfl⟩ := Nat.exists_eq_add_of_le' (Nat.le_trans (Nat.le_add_left 1 _) enough)
    have first := read fuel (.comma :: (token' :: ts' ++ rest)) (by simp at enough; omega)
    have others := read' fuel rest (by simp at enough; omega)
    have tokens : .string pieces :: (.colon :: token :: ts ++ .comma :: token' :: ts') ++ rest =
        .string pieces :: .colon :: (token :: ts ++ .comma :: (token' :: ts' ++ rest)) := by
      simp
    simp only [tokens, readMembers, first, text, others, Option.map_some]

/-! ## The spellings of a value -/

/-- A number is ended by a gap before a sign, or by the sign. -/
theorem endsNumber_of_gap_sign {s t : List Char} {c : Char} (gap : Gap s (c :: t))
    (sign : c.isDigit = false ∧ c ≠ '.' ∧ c ≠ 'e' ∧ c ≠ 'E') : EndsNumber s :=
  endsNumber_of_gap gap (endsNumber_cons sign t)

/-- The document that a text starts with has the value. -/
def ReadAs (s : List Char) (v : Value) (t : List Char) : Prop :=
  EndsNumber t → ∃ d, Denotes d v ∧ ReadBy readDocument .closeArray s d t

def ItemsReadAs (s : List Char) (vs : List Value) (t : List Char) : Prop :=
  ∃ ds, ItemsDenote ds vs ∧ ReadBy readItems .closeArray s ds t

def MembersReadAs (s : List Char) (vs : List (String × Value)) (t : List Char) : Prop :=
  ∃ ds, MembersDenote ds vs ∧ ReadBy readMembers .closeObject s ds t

/-- What spells a value is read as a document of that value. -/
theorem readAs_of_spells {s t : List Char} {v : Value} (h : Spells s v t) : ReadAs s v t := by
  -- by the grammar: items and members are read as the values in them are
  refine @Spells.rec (fun s v t _ => ReadAs s v t) (fun s vs t _ => ItemsReadAs s vs t)
    (fun s vs t _ => MembersReadAs s vs t) ?null ?true ?false ?int ?float ?string ?emptyArray
    ?array ?emptyObject ?object ?lastItem ?moreItems ?lastMember ?moreMembers s v t h
  case null =>
    intro t ends
    exact ⟨.null, .null, readBy_token rfl rfl Token.noConfusion fun _ _ => rfl⟩
  case true =>
    intro t ends
    exact ⟨.bool true, .bool _, readBy_token rfl rfl Token.noConfusion fun _ _ => rfl⟩
  case false =>
    intro t ends
    exact ⟨.bool false, .bool _, readBy_token rfl rfl Token.noConfusion fun _ _ => rfl⟩
  case int =>
    intro n t ends
    obtain ⟨c, rest, same, blank, cut⟩ := scan_number (spellsLiteral_intLiteral n.val) ends
    refine ⟨.number (some (.int n)), .number _, ?_⟩
    rw [same]
    refine readBy_token blank cut Token.noConfusion fun fuel rest => ?_
    rw [readDocument, value?_intLiteral]
  case float =>
    intro s l x literal denotes t ends
    obtain ⟨c, rest, same, blank, cut⟩ := scan_number literal ends
    refine ⟨.number (some (.float x)), .number _, ?_⟩
    rw [same]
    refine readBy_token blank cut Token.noConfusion fun fuel rest => ?_
    rw [readDocument, denotes]
  case string =>
    intro s t text spelled ends
    obtain ⟨c, rest, pieces, rfl, blank, cut, value⟩ := scan_string spelled
    refine ⟨.string (some text), .string _, ?_⟩
    refine readBy_token blank cut Token.noConfusion fun fuel rest => ?_
    rw [readDocument, value]
  case emptyArray =>
    intro s t gap ends
    refine ⟨.array [], .array .nil, ?_⟩
    exact readBy_empty rfl (fun _ => rfl) gap rfl (fun _ => rfl) Token.noConfusion fun _ _ => rfl
  case array =>
    intro s s' t items gap inside ih ends
    obtain ⟨ds, denote, read⟩ := ih
    exact ⟨.array ds, .array denote, readBy_array gap read⟩
  case emptyObject =>
    intro s t gap ends
    refine ⟨.object [], .object .nil List.nodup_nil, ?_⟩
    exact readBy_empty rfl (fun _ => rfl) gap rfl (fun _ => rfl) Token.noConfusion fun _ _ => rfl
  case object =>
    intro s s' t members gap inside keys ih ends
    obtain ⟨ds, denote, read⟩ := ih
    exact ⟨.object ds, .object denote keys, readBy_object gap read⟩
  case lastItem =>
    intro s s' t v item gap ih
    obtain ⟨d, denotes, read⟩ := ih (endsNumber_of_gap_sign gap (by decide))
    exact ⟨[d], .cons denotes .nil, readBy_lastItem read gap⟩
  case moreItems =>
    intro s s₁ s₂ s₃ t v items item before after rest ih ihs
    obtain ⟨d, denotes, read⟩ := ih (endsNumber_of_gap_sign before (by decide))
    obtain ⟨ds, denote, reads⟩ := ihs
    exact ⟨d :: ds, .cons denotes denote, readBy_moreItems read before after reads⟩
  case lastMember =>
    intro s s₁ s₂ t key v name item gap ih
    obtain ⟨d, denotes, read⟩ := ih (endsNumber_of_gap_sign gap (by decide))
    exact ⟨_, .cons denotes .nil, readBy_lastMember name read gap⟩
  case moreMembers =>
    intro s s₁ s₂ s₃ s₄ t key v members name item before after rest ih ihs
    obtain ⟨d, denotes, read⟩ := ih (endsNumber_of_gap_sign before (by decide))
    obtain ⟨ds, denote, reads⟩ := ihs
    exact ⟨_, .cons denotes denote, readBy_moreMembers name read before after reads⟩

/-- A text of a value is read as a document of that value. -/
theorem exists_document_of_isTextOf {v : Value} {s : List Char} (h : IsTextOf v s) :
    ∃ d, Document.parse? s = some d ∧ Denotes d v := by
  obtain ⟨s₁, s₂, before, spelled, after⟩ := h
  obtain ⟨d, denotes, token, ts, -, cut, read⟩ :=
    readAs_of_spells spelled (endsNumber_of_gap after endsNumber_nil)
  have tokens : scan s = some (token :: ts) := by
    rw [scan_of_gap before, cut, scan_of_gap after, scan]
    simp
  have whole := read (2 * (token :: ts).length + 2) [] (by simp)
  rw [List.append_nil] at whole
  refine ⟨d, ?_, denotes⟩
  rw [Document.parse?, tokens]
  simp only [Option.bind_eq_bind, Option.bind_some, whole]

/-- A text spells no more than one value. -/
theorem eq_of_isTextOf {v w : Value} {s : List Char} (h : IsTextOf v s) (h' : IsTextOf w s) :
    v = w := by
  obtain ⟨d, parsed, denotes⟩ := exists_document_of_isTextOf h
  obtain ⟨d', parsed', denotes'⟩ := exists_document_of_isTextOf h'
  cases parsed.symm.trans parsed'
  have read := value?_of_denotes denotes (Nat.le_max_left v.nesting w.nesting)
  have read' := value?_of_denotes denotes' (Nat.le_max_right v.nesting w.nesting)
  exact Option.some.inj (read.symm.trans read')

/-- A text of a value that is nested no deeper than the limit is read as that value. -/
theorem parse?_of_isTextOf {v : Value} {s : List Char} (h : IsTextOf v s)
    (shallow : v.nesting ≤ depthLimit) : Value.parse? s = some v := by
  obtain ⟨d, read, denotes⟩ := exists_document_of_isTextOf h
  rw [Value.parse?, read, Option.bind_some, value?_of_denotes denotes shallow]

end IngestConsole.Json
