import IngestConsole.Display.Moment
import IngestConsole.Proofs.Calendar.ClockTexts

/-!
# Shown moments

A point in time is shown as the date and the time of day of its second at the offset of the clock, so
that the texts are ordered like the seconds.
-/

set_option autoImplicit false

namespace IngestConsole.Display

open Calendar

/-- The second in which a clock at an offset shows a point in time, rounded down. -/
def shownSecond (ms : Int64) (offset : Offset) : Int :=
  ms.toInt / 1000 + offset

/-- A point in time that is shown, in the years from 0000 to 9999. -/
structure Shown (offset : Offset) (ms : Int64) : Prop where
  present : ms ≠ 0
  years : InFourDigitYears (shownSecond ms offset)

/-- A point in time that can be shown is shown as the date and time of its second. -/
theorem millisText_eq {offset : Offset} {ms : Int64} (h : Shown offset ms) :
    millisText (some ms) offset = (DateTime.ofSeconds (shownSecond ms offset)).text := by
  have second : ms.toInt * nanosPerMilli / nanosPerSecond + offset = shownSecond ms offset := by
    rw [shownSecond, nanosPerMilli, nanosPerSecond]
    omega
  have clock := wallClock_eq (second.symm ▸ h.years)
  simp only [millisText, if_neg h.present]
  rw [clock, second]

/-- A start time in seconds is shown as the same time in milliseconds is. -/
theorem startTimeText_eq {s ms : Int64} (present : s ≠ 0) (same : ms.toInt = 1000 * s.toInt)
    (offset : Offset) : startTimeText s offset = millisText (some ms) offset := by
  have present' : ms ≠ 0 := by
    rintro rfl
    have none : s.toInt = (0 : Int64).toInt := by
      rw [Int64.toInt_zero] at same ⊢
      omega
    exact present (Int64.toInt_inj.1 none)
  have nanos : s.toInt * nanosPerSecond = ms.toInt * nanosPerMilli := by
    rw [same, nanosPerSecond, nanosPerMilli]
    omega
  simp only [startTimeText, millisText]
  rw [if_neg present, if_neg present', nanos]

/-- A point in time whose second lies in the years from 0000 to 9999 is shown as 19 characters of the
form `YYYY-MM-DD hh:mm:ss`: a date and a time of day that exist, and up to which as many seconds are
counted, by the lengths of the years and months, as there are in the point in time and the offset,
rounded down.  At one offset the texts are ordered like the points in time, and two of these are shown
alike exactly if they fall in one second.  The start of a process is shown like the same point in
time in milliseconds. -/
theorem millisText_calendar (offset : Offset) :
    (∀ ms, Shown offset ms →
      (millisText (some ms) offset).length = 19
        ∧ ∃ t : DateTime, t.Exists ∧ t.WrittenAs (millisText (some ms) offset)
          ∧ t.countedSeconds = shownSecond ms offset)
      ∧ (∀ ms ms', Shown offset ms → Shown offset ms' →
        (ms.toInt ≤ ms'.toInt → millisText (some ms) offset ≤ millisText (some ms') offset)
          ∧ (millisText (some ms) offset < millisText (some ms') offset ↔
            shownSecond ms offset < shownSecond ms' offset)
          ∧ (millisText (some ms) offset = millisText (some ms') offset ↔
            shownSecond ms offset = shownSecond ms' offset))
      ∧ ∀ s ms : Int64, s ≠ 0 → ms.toInt = 1000 * s.toInt →
        startTimeText s offset = millisText (some ms) offset := by
  refine ⟨fun ms shown => ?_, fun ms ms' shown shown' => ?_, fun s ms present same => ?_⟩
  · have present := DateTime.exists_ofSeconds shown.years
    have written := DateTime.writtenAs_text present
    rw [millisText_eq shown]
    exact ⟨written.length, _, present, written, DateTime.countedSeconds_ofSeconds shown.years⟩
  · rw [millisText_eq shown, millisText_eq shown']
    refine ⟨fun le => ?_, ?_, ?_⟩
    · have second : shownSecond ms offset ≤ shownSecond ms' offset := by
        rw [shownSecond, shownSecond]
        omega
      exact DateTime.text_strictMonoOn.monotoneOn shown.years shown'.years second
    · exact DateTime.text_strictMonoOn.lt_iff_lt shown.years shown'.years
    · exact DateTime.text_strictMonoOn.eq_iff_eq shown.years shown'.years
  · exact startTimeText_eq present same offset

/-- The last millisecond before 1970 and a second after it are shown at an offset that ends within a
minute. -/
theorem millisText_calendar_beforeEpoch :
    let offset : Offset := -30630
    (millisText (some (-1)) offset).length = 19
      ∧ (∃ t : DateTime, t.Exists ∧ t.WrittenAs (millisText (some (-1)) offset)
          ∧ t.countedSeconds = -30631)
      ∧ millisText (some (-1)) offset < millisText (some 1000) offset
      ∧ startTimeText 1 offset = millisText (some 1000) offset := by
  intro offset
  obtain ⟨calendar, order, start⟩ := millisText_calendar offset
  have before : Shown offset (-1) := ⟨by decide, inFourDigitYears_iff.2 (by decide)⟩
  have after : Shown offset 1000 := ⟨by decide, inFourDigitYears_iff.2 (by decide)⟩
  obtain ⟨length, shown⟩ := calendar (-1) before
  exact ⟨length, shown, (order (-1) 1000 before after).2.1.2 (by decide),
    start 1 1000 (by decide) rfl⟩

example : millisText (some (-1)) (-30630) = "1969-12-31 15:29:29" := by decide +kernel

end IngestConsole.Display
