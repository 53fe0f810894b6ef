import IngestConsole.Display.Panel
import IngestConsole.Proofs.Calendar.Stamps
import IngestConsole.Proofs.Display.Moments

/-!
# Timestamps of a panel

A point in time of a status comes as a stamp or as a number of milliseconds.  Both ways to write it
are shown as one wall clock.
-/

set_option autoImplicit false

namespace IngestConsole.Display

open Calendar Wire

/-- A timestamp given as a text is shown as the clock at its instant. -/
theorem timestampText_text (s : Stamp) (offset : Offset) :
    timestampText (some (.text s.text)) offset = wallClock s.nanos offset := by
  have read := s.readInstant?_text
  have present : ¬s.text.isEmpty := by
    intro empty
    rw [String.isEmpty_iff.1 empty] at read
    cases read
  simp only [timestampText, read]
  rw [if_neg present]

/-- A timestamp given in milliseconds is shown as the clock at its instant. -/
theorem timestampText_millis {ms : Int64} (present : ms ≠ 0) (offset : Offset) :
    timestampText (some (.millis ms)) offset = wallClock (ms.toInt * nanosPerMilli) offset := by
  simp only [timestampText, millisText, if_neg present]

/-- A stamp and the whole milliseconds up to its instant are shown as the same wall clock, unless the
milliseconds are zero, which stand for an absent point in time.  Within the years from 0000 to 9999
the clock shows the date and the time of day up to which as many seconds are counted as there are in
the instant, rounded down, and the offset.  So a status panel does not tell how its points in time
were written. -/
theorem timestampText_text_eq_millis (s : Stamp) (offset : Offset) (nonzero : s.millis ≠ 0) :
    ∃ ms : Int64, ms.toInt = s.millis
      ∧ timestampText (some (.text s.text)) offset = timestampText (some (.millis ms)) offset
      ∧ (InFourDigitYears (⌊s.instant⌋ + offset) →
        ∃ t : DateTime, t.Exists ∧ t.WrittenAs (timestampText (some (.text s.text)) offset)
          ∧ t.countedSeconds = ⌊s.instant⌋ + offset)
      ∧ ∀ name (snapshot : StatusSnapshot),
        statusPanel name (some { snapshot with startTime := some (.text s.text) }) offset =
            statusPanel name (some { snapshot with startTime := some (.millis ms) }) offset
          ∧ statusPanel name (some { snapshot with lastActiveTime := some (.text s.text) }) offset =
            statusPanel name (some { snapshot with lastActiveTime := some (.millis ms) }) offset := by
  obtain ⟨ms, same⟩ := s.exists_int64
  have present : ms ≠ 0 := by
    rintro rfl
    exact nonzero same.symm
  have second : ms.toInt * nanosPerMilli / nanosPerSecond = ⌊s.instant⌋ := by
    rw [same, s.millis_eq, s.floor_instant, nanosPerMilli, nanosPerSecond]
    omega
  have alike : timestampText (some (.text s.text)) offset =
      timestampText (some (.millis ms)) offset := by
    rw [timestampText_text, timestampText_millis present]
    exact wallClock_congr (by rw [second, s.floor_instant]) offset
  refine ⟨ms, same, alike, fun years => ?_, fun name snapshot => ⟨?_, ?_⟩⟩
  · have written := DateTime.writtenAs_text (DateTime.exists_ofSeconds years)
    have counted := DateTime.countedSeconds_ofSeconds years
    rw [s.floor_instant] at years written counted ⊢
    rw [timestampText_text, wallClock_eq years]
    exact ⟨_, DateTime.exists_ofSeconds years, written, counted⟩
  · simp only [statusPanel, alike]
  · simp only [statusPanel, alike]

/-- Half a millisecond before 1970, as a clock five and a half hours ahead writes it. -/
def beforeEpoch : Stamp where
  time := ⟨⟨1970, 1, 1⟩, 5, 29, 59⟩
  fraction := ['9', '9', '9', '5']
  zone := .ahead 5 30
  present := ⟨by decide, by decide, by decide, by decide, by decide, by decide⟩
  ascii := by decide
  digits := by simp
  short := by decide
  within := ⟨by decide, by decide⟩

/-- Half a millisecond before 1970 is shown like the whole millisecond before 1970, at an offset that
ends within a minute. -/
theorem timestampText_text_eq_millis_beforeEpoch :
    let offset : Offset := -30630
    beforeEpoch.text = "1970-01-01T05:29:59.9995+05:30"
      ∧ beforeEpoch.millis = -1
      ∧ timestampText (some (.text "1970-01-01T05:29:59.9995+05:30")) offset =
        timestampText (some (.millis (-1))) offset
      ∧ timestampText (some (.millis (-1))) offset = "1969-12-31 15:29:29" := by
  intro offset
  have text : beforeEpoch.text = "1970-01-01T05:29:59.9995+05:30" := by decide +kernel
  have millis : beforeEpoch.millis = -1 := by
    rw [Stamp.millis_eq]
    decide +kernel
  obtain ⟨ms, same, alike, -⟩ :=
    timestampText_text_eq_millis beforeEpoch offset (by rw [millis]; decide)
  have value : ms = -1 := Int64.toInt_inj.1 (same.trans millis)
  rw [text, value] at alike
  exact ⟨text, millis, alike, by decide +kernel⟩

end IngestConsole.Display
