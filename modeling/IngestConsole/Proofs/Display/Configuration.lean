import IngestConsole.Display.Panel
import IngestConsole.Proofs.Json.Printable
import IngestConsole.Proofs.Json.Reading
import IngestConsole.Proofs.Text.Blanks
import IngestConsole.Proofs.Text.EndedLines
import IngestConsole.Wire.ConfigDocument

/-!
# Entries of the printed configuration

Every entry of a configuration begins with a line of its own, which is not indented, and the lines of
a value that does not fit behind its key are indented below.  So the entries are told apart by the
indentation alone, and a nested value is read back from the lines below its key.
-/

set_option autoImplicit false

namespace IngestConsole.Display

open Json Text Wire

/-! ## Lines of an entry -/

/-- A line begins with two blanks. -/
def isIndented (line : List Char) : Bool :=
  [' ', ' '].isPrefixOf line

/-- The line with which an entry begins: its key and a colon, and its value if that is one line. -/
def entryLine (key : String) (v : Value) : List Char :=
  (keyText key).toList ++ ':' ::
    (if '\n' ∈ (valueText v).toList then [] else ' ' :: (valueText v).toList)

/-- The lines of an entry below the first: those of its value, if there are several. -/
def blockLines (v : Value) : List (List Char) :=
  if '\n' ∈ (valueText v).toList then (lines (valueText v).toList).map (' ' :: ' ' :: ·) else []

/-- The value that stands in lines below a key, without their indentation. -/
def blockText (block : List (List Char)) : List Char :=
  joinWith ['\n'] (block.map (List.drop 2))

/-- A key without line feeds is shown without them. -/
theorem keyText_feedless {key : String} (feedless : '\n' ∉ key.toList) :
    '\n' ∉ (keyText key).toList := by
  have words : '\n' ∉ trim (spaced key.toList) := by
    intro mem
    obtain ⟨c, inside, piece⟩ := List.mem_flatMap.1 (trim_subset _ mem)
    have same : '\n' = c := by
      split at piece
      · simpa using piece
      · simpa using piece
    exact feedless (same ▸ inside)
  unfold keyText
  split
  · exact List.not_mem_nil
  · next c rest trimmed =>
    obtain ⟨d, ds, upper, -, capital⟩ := upperChar_of_not_isBlank (isBlank_of_trim_eq_cons trimmed)
    rw [trimmed, List.mem_cons, not_or] at words
    rw [String.toList_ofList, upper, List.mem_append, not_or]
    exact ⟨capital, words.2⟩

/-- The key of an entry, with the colon behind it, does not begin with a blank. -/
theorem isIndented_entryLine (key : String) (v : Value) : isIndented (entryLine key v) = false := by
  unfold entryLine keyText
  split
  · rfl
  · next c rest trimmed =>
    obtain ⟨d, ds, upper, visible, -⟩ := upperChar_of_not_isBlank (isBlank_of_trim_eq_cons trimmed)
    have different : (' ' == d) = false := beq_eq_false_iff_ne.2 (Ne.symm visible)
    rw [String.toList_ofList, upper, isIndented, List.cons_append, List.cons_append,
      List.isPrefixOf_cons_cons, different, Bool.false_and]

/-- The first line of an entry has no line feed in it. -/
theorem entryLine_feedless {key : String} (feedless : '\n' ∉ key.toList) (v : Value) :
    '\n' ∉ entryLine key v := by
  rw [entryLine, List.mem_append, List.mem_cons, not_or, not_or]
  refine ⟨keyText_feedless feedless, by decide, ?_⟩
  split
  · exact List.not_mem_nil
  · next oneLine =>
    rw [List.mem_cons, not_or]
    exact ⟨by decide, oneLine⟩

/-- The lines of a block are indented. -/
theorem isIndented_of_mem_blockLines {v : Value} {line : List Char} (mem : line ∈ blockLines v) :
    isIndented line = true := by
  unfold blockLines at mem
  split at mem
  · obtain ⟨l, -, rfl⟩ := List.mem_map.1 mem
    rfl
  · exact absurd mem List.not_mem_nil

/-- An entry is made of its first line and those of its block. -/
theorem hasLines_settingText {key : String} (feedless : '\n' ∉ key.toList) (v : Value) :
    HasLines (settingText key v).toList (entryLine key v :: blockLines v) := by
  have first := entryLine_feedless feedless v
  unfold entryLine at first ⊢
  unfold blockLines settingText
  by_cases several : '\n' ∈ (valueText v).toList
  · rw [if_pos several] at first
    have filled : (valueText v).toList ≠ [] := List.ne_nil_of_mem several
    have below : HasLines
        (joinWith ['\n'] ((lines (valueText v).toList).map (' ' :: ' ' :: ·)) ++ ['\n'])
        ((lines (valueText v).toList).map (' ' :: ' ' :: ·)) := by
      have some_line : lines (valueText v).toList ≠ [] := linesFrom_ne_nil (.inr filled)
      apply hasLines_joinWith
      · simpa using some_line
      · intro l mem
        obtain ⟨line, inside, rfl⟩ := List.mem_map.1 mem
        simpa using not_mem_of_mem_lines inside
    have whole := hasLines_cons first below
    simpa [several, indented] using whole
  · rw [if_neg several] at first
    have whole := hasLines_cons first hasLines_nil
    simpa [several] using whole

/-! ## Lines of the panel -/

/-- The lines of a configuration, entry by entry. -/
def configLines (doc : ConfigDocument) : List (List Char) :=
  doc.flatMap fun m => entryLine m.1 m.2 :: blockLines m.2

/-- The panel is made of the lines of its entries. -/
theorem hasLines_configPanel {doc : ConfigDocument} (feedless : ∀ m ∈ doc, '\n' ∉ m.1.toList) :
    HasLines (configPanel doc none).toList (configLines doc) := by
  have text : (configPanel doc none).toList = doc.flatMap fun m => (settingText m.1 m.2).toList := by
    rw [configPanel, String.toList_append, String.toList_join, List.flatMap_map]
    rfl
  rw [text]
  clear text
  induction doc with
  | nil => exact hasLines_nil
  | cons m doc ih =>
    obtain ⟨first, later⟩ := List.forall_mem_cons.1 feedless
    exact (hasLines_settingText first m.2).append (ih later)

/-- Only the first lines of entries are not indented. -/
theorem filter_configLines (doc : ConfigDocument) :
    (configLines doc).filter (!isIndented ·) = doc.map fun m => entryLine m.1 m.2 := by
  induction doc with
  | nil => rfl
  | cons m doc ih =>
    have own : (blockLines m.2).filter (!isIndented ·) = [] := by
      rw [List.filter_eq_nil_iff]
      intro l mem
      rw [isIndented_of_mem_blockLines mem]
      decide
    rw [configLines, List.flatMap_cons, List.filter_append, List.filter_cons_of_pos, own, List.map_cons,
      ← ih]
    · rfl
    · rw [isIndented_entryLine]
      rfl

/-- The indented lines below an entry are its own. -/
theorem takeWhile_configLines (v : Value) (after : ConfigDocument) :
    (blockLines v ++ configLines after).takeWhile isIndented = blockLines v := by
  have next : (configLines after).takeWhile isIndented = [] := by
    cases after with
    | nil => rfl
    | cons m after =>
      rw [configLines, List.flatMap_cons, List.cons_append, List.takeWhile_cons_of_neg]
      rw [isIndented_entryLine]
      decide
  rw [List.takeWhile_append_of_pos fun l mem => isIndented_of_mem_blockLines mem, next, List.append_nil]

/-- A nested value stands in the lines below its key as it is printed on its own. -/
theorem blockText_blockLines {v : Value} (filled : v.IsFilled) :
    blockText (blockLines v) = v.pretty := by
  have text : (valueText v).toList = v.pretty := by
    cases filled with
    | array w rest => exact String.toList_ofList
    | object m rest => exact String.toList_ofList
  have unindented : ((lines v.pretty).map (' ' :: ' ' :: ·)).map (List.drop 2) = lines v.pretty := by
    rw [List.map_map]
    exact List.map_id _
  have joined := joinWith_lines (printable_prettyAt 0 v).return_not_mem filled.getLast?_pretty
  rw [blockText, blockLines, text, if_pos filled.feed_mem_pretty, unindented]
  exact joined

/-- The lines of a configuration without line feeds in its keys: those that are not indented are the
first lines of its entries, one for each, in their order.  A nested value is, below the first line of
its entry and up to the next line that is not indented, printed as it is on its own.  Without
floating-point numbers it is spelled there, no other value is, and it is read back if its nesting is
within the limit of the reader, as it is for every configuration that was read. -/
theorem configPanel_entries (doc : ConfigDocument) (feedless : ∀ m ∈ doc, '\n' ∉ m.1.toList) :
    ∃ ls, HasLines (configPanel doc none).toList ls
      ∧ ls.filter (!isIndented ·) = doc.map (fun m => entryLine m.1 m.2)
      ∧ (∀ before key v after, doc = before ++ (key, v) :: after → v.IsFilled →
        ∃ earlier later, ls = earlier ++ entryLine key v :: later
          ∧ earlier.filter (!isIndented ·) = before.map (fun m => entryLine m.1 m.2)
          ∧ let block := blockText (later.takeWhile isIndented)
            block = v.pretty
              ∧ (v.IsOrdered → v.IsExact → (∀ w, IsTextOf w block ↔ w = v)
                ∧ (v.nesting ≤ depthLimit → Value.parse? block = some v)))
      ∧ ∀ s, Value.parse? s = some (.object doc) →
          Ascending doc ∧ ∀ m ∈ doc, m.2.IsOrdered ∧ m.2.nesting ≤ depthLimit := by
  refine ⟨configLines doc, hasLines_configPanel feedless, filter_configLines doc, ?_, ?_⟩
  · rintro before key v after rfl filled
    refine ⟨configLines before, blockLines v ++ configLines after, ?_, filter_configLines before, ?_⟩
    · rw [configLines, List.flatMap_append, List.flatMap_cons]
      rfl
    · dsimp only
      rw [takeWhile_configLines, blockText_blockLines filled]
      refine ⟨rfl, fun ordered exactly => ?_⟩
      have spelled : IsTextOf v v.pretty := by
        have whole := isTextOf_pretty ordered exactly (gap_refl [])
        rwa [List.append_nil] at whole
      refine ⟨fun w => ⟨fun other => eq_of_isTextOf other spelled, ?_⟩, parse?_of_isTextOf spelled⟩
      rintro rfl
      exact spelled
  · intro s read
    obtain ⟨d, -, value⟩ := Option.bind_eq_some_iff.1 read
    obtain ⟨ascending, ordered⟩ := isOrdered_of_value? value
    have nested := Nat.le_of_succ_le (nesting_le_of_value? value)
    refine ⟨ascending, fun m mem => ?_⟩
    exact ⟨membersOrdered_iff.1 ordered m mem, (nesting_le_of_mem mem).trans nested⟩

/-- An object with a line feed within a string of it. -/
def clusterSetting : Value :=
  .object [("hosts", .array [.string "a\nb", .null]), ("limits", .object [])]

/-- The second line of the string `note` has the shape of an entry. -/
def clusterConfiguration : ConfigDocument :=
  [("clickHouse", clusterSetting), ("note", .string "x\nLog Level: y"), ("retries", .null)]

/-- The second line of the string is not an entry, and the nested value is read back. -/
theorem configPanel_entries_cluster :
    (∀ m ∈ clusterConfiguration, '\n' ∉ m.1.toList)
      ∧ ∃ ls earlier later, HasLines (configPanel clusterConfiguration none).toList ls
        ∧ ls.filter (!isIndented ·) = ["Click House:".toList, "Note:".toList, "Retries: null".toList]
        ∧ ls = earlier ++ "Click House:".toList :: later
        ∧ Value.parse? (blockText (later.takeWhile isIndented)) = some clusterSetting := by
  have feedless : ∀ m ∈ clusterConfiguration, '\n' ∉ m.1.toList := by decide
  obtain ⟨ls, printed, entries, nested, -⟩ := configPanel_entries clusterConfiguration feedless
  obtain ⟨earlier, later, here, -, -, spelled⟩ :=
    nested [] "clickHouse" clusterSetting _ rfl (.object _ _)
  have ordered : clusterSetting.IsOrdered := by
    refine ⟨?_, ?_⟩
    · unfold Ascending
      decide
    · exact ⟨⟨trivial, trivial, trivial⟩, ⟨List.Pairwise.nil, trivial⟩, trivial⟩
  have exactly : clusterSetting.IsExact :=
    ⟨⟨trivial, trivial, trivial⟩, trivial, trivial⟩
  obtain ⟨-, read⟩ := spelled ordered exactly
  exact ⟨feedless, ls, earlier, later, printed, entries, here, read (by decide)⟩

end IngestConsole.Display
