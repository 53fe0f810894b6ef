import IngestConsole.Display.Panel
import IngestConsole.Proofs.Display.Moments
import IngestConsole.Table.Row

/-!
# Update times in the table and in a panel

The table and the panel of a status show the same point in time as the same wall clock, and a dash
if there is none.  Only what lies beyond the years of a clock is shown in two ways: the table has a
dash for it, and the panel leaves it blank.
-/

set_option autoImplicit false

namespace IngestConsole.Table

open Calendar Display Wire

/-! ## Kinds of points in time -/

/-- No point in time is given; zero stands for none. -/
def IsUnset (ms : Option Int64) : Prop :=
  ms = none ∨ ms = some 0

/-- A point in time is given, and falls on a day that a clock at the offset can show. -/
def IsDated (offset : Offset) (ms : Option Int64) : Prop :=
  ∃ n, ms = some n ∧ n ≠ 0 ∧ OnCalendar (shownSecond n offset)

/-- A point in time is unset, or it has a date, or its date lies beyond the calendar. -/
theorem isUnset_or_isDated_or (offset : Offset) (ms : Option Int64) :
    IsUnset ms ∨ IsDated offset ms ∨ ∃ n, ms = some n ∧ n ≠ 0 ∧ ¬OnCalendar (shownSecond n offset) := by
  rcases ms with _ | n
  · exact .inl (.inl rfl)
  · by_cases zero : n = 0
    · exact .inl (.inr (congrArg some zero))
    · by_cases shown : OnCalendar (shownSecond n offset)
      · exact .inr (.inl ⟨n, rfl, zero, shown⟩)
      · exact .inr (.inr ⟨n, rfl, zero, shown⟩)

/-! ## What is shown of them -/

/-- The second of a clock, counted in nanoseconds, is the shown second. -/
theorem second_of_millis (n : Int64) (offset : Offset) :
    n.toInt * nanosPerMilli / nanosPerSecond + offset = shownSecond n offset := by
  rw [shownSecond, nanosPerMilli, nanosPerSecond]
  omega

/-- A time on the calendar is shown as its date and time. -/
theorem millisText_of_onCalendar {n : Int64} {offset : Offset} (nonzero : n ≠ 0)
    (shown : OnCalendar (shownSecond n offset)) :
    millisText (some n) offset = (DateTime.ofSeconds (shownSecond n offset)).text := by
  rw [← second_of_millis] at shown ⊢
  simp only [millisText, if_neg nonzero]
  exact wallClock_of_onCalendar shown

/-- A time beyond the calendar is shown as nothing. -/
theorem millisText_of_not_onCalendar {n : Int64} {offset : Offset} (nonzero : n ≠ 0)
    (beyond : ¬OnCalendar (shownSecond n offset)) : millisText (some n) offset = "" := by
  rw [← second_of_millis] at beyond
  simp only [millisText, if_neg nonzero]
  exact wallClock_of_not_onCalendar beyond

/-- A time other than zero is shown as its milliseconds are. -/
theorem timestampText_some {n : Int64} (nonzero : n ≠ 0) (offset : Offset) :
    timestampText ((some n).map .millis) offset = millisText (some n) offset := by
  simp only [Option.map_some, timestampText, if_neg nonzero]

/-- There is a blank between the date and the time of day. -/
theorem blank_mem_text (t : DateTime) : ' ' ∈ t.text.toList := by
  simp [DateTime.text]

/-- A date and time is neither the empty text nor a dash. -/
theorem text_ne (t : DateTime) : t.text ≠ "" ∧ t.text ≠ "-" := by
  have blank := blank_mem_text t
  constructor
  · intro same
    rw [same] at blank
    exact absurd blank (by decide)
  · intro same
    rw [same] at blank
    exact absurd blank (by decide)

/-- A text that is not empty is not replaced by a dash. -/
theorem dashIfEmpty_of_ne {s : String} (filled : s ≠ "") : dashIfEmpty s = s := by
  rw [dashIfEmpty, if_neg]
  rwa [String.isEmpty_iff]

/-! ## The table and the panel -/

/-- What the table and the panel of a status show of a point in time. -/
structure UpdateShown (offset : Offset) (ms : Option Int64) (cell panel : String) : Prop where
  unset : IsUnset ms → cell = "-" ∧ panel = "-"
  /-- Both show the clock of the second, which is not blank and no dash. -/
  dated : ∀ n, ms = some n → n ≠ 0 → OnCalendar (shownSecond n offset) →
    ∃ t : DateTime, t.date.isValid = true ∧ t.toSeconds = shownSecond n offset
      ∧ cell = t.text ∧ panel = t.text ∧ t.text ≠ "" ∧ t.text ≠ "-"
  /-- The table has a dash, and the panel is blank. -/
  beyond : ¬IsUnset ms → ¬IsDated offset ms → cell = "-" ∧ panel = ""

/-- The time of an update is shown as its kind says. -/
theorem updateShown (t : Task) (offset : Offset) :
    UpdateShown offset t.lastUpdate (Row.ofTask t offset).lastUpdate
      (timestampText (t.lastUpdate.map .millis) offset) := by
  show UpdateShown offset t.lastUpdate (dashIfEmpty (millisText t.lastUpdate offset)) _
  refine ⟨?_, ?_, ?_⟩
  · rintro (none | zero)
    · rw [none]
      exact ⟨rfl, rfl⟩
    · rw [zero]
      exact ⟨rfl, rfl⟩
  · intro n given nonzero shown
    have filled := text_ne (DateTime.ofSeconds (shownSecond n offset))
    rw [given, timestampText_some nonzero, millisText_of_onCalendar nonzero shown,
      dashIfEmpty_of_ne filled.1]
    exact ⟨_, Date.isValid_ofDayNumber _, DateTime.toSeconds_ofSeconds _, rfl, rfl, filled⟩
  · intro set undated
    rcases isUnset_or_isDated_or offset t.lastUpdate with unset | dated | ⟨n, given, nonzero, beyond⟩
    · exact absurd unset set
    · exact absurd dated undated
    · rw [given, timestampText_some nonzero, millisText_of_not_onCalendar nonzero beyond]
      exact ⟨rfl, rfl⟩

/-- Whenever a task was updated, and whatever the offset is: the cell of the table and the panel of a
status both show a dash for a point in time that is absent or zero, and both show the same clock for
one that falls within the years from -9999 to 9999.  What lies beyond these years is a dash in the
table and blank in the panel.  So the two show the same text exactly if the point in time is unset or
within these years. -/
theorem update_shownAlike_iff (t : Task) (offset : Offset) :
    let cell := (Row.ofTask t offset).lastUpdate
    let panel := timestampText (t.lastUpdate.map .millis) offset
    (cell = panel ↔ IsUnset t.lastUpdate ∨ IsDated offset t.lastUpdate)
      ∧ UpdateShown offset t.lastUpdate cell panel
      ∧ ∀ n, OnCalendar (shownSecond n offset) ↔
          -377705116800 ≤ shownSecond n offset ∧ shownSecond n offset < 253402300800 := by
  have shown := updateShown t offset
  refine ⟨⟨?_, ?_⟩, shown, fun n => onCalendar_iff⟩
  · intro alike
    by_contra neither
    rw [not_or] at neither
    obtain ⟨dash, blank⟩ := shown.beyond neither.1 neither.2
    rw [dash, blank] at alike
    exact absurd alike (by decide)
  · rintro (unset | ⟨n, given, nonzero, onCalendar⟩)
    · obtain ⟨dash, dash'⟩ := shown.unset unset
      rw [dash, dash']
    · obtain ⟨_, _, _, clock, clock', _⟩ := shown.dated n given nonzero onCalendar
      rw [clock, clock']

/-- Nanoseconds in the place of milliseconds are a dash in the table, and blank in the panel. -/
theorem update_not_shownAlike_nanoseconds :
    let t : Task := { name := "a", lastUpdate := some 1700000000000000000 }
    (Row.ofTask t 0).lastUpdate = "-"
      ∧ timestampText (t.lastUpdate.map .millis) 0 = ""
      ∧ statusPanel "a" (some { startTime := t.lastUpdate.map .millis }) 0 =
        "Task         a\nStatus       未知\nStart time   \nLast active  -\nMessages     0\n"
          ++ "Rate         0/s\nKafka lag    -\nErrors       0\nLast error   -\n" := by
  decide +kernel

end IngestConsole.Table
