import IngestConsole.Calendar.Rfc3339
import IngestConsole.Wire.StatusSnapshot

/-!
# Moments

How points in time are shown: as a wall clock at an offset, whichever way they were written.
-/

set_option autoImplicit false

namespace IngestConsole.Display

open Calendar Wire

/-- A point in time in milliseconds; nothing if it is absent or zero. -/
def millisText (ms : Option Int64) (offset : Offset) : String :=
  match ms with
  | none => ""
  | some ms => if ms = 0 then "" else wallClock (ms.toInt * nanosPerMilli) offset

/-- A point in time of a status panel.  A dash stands for an absent one; a text that denotes no
instant is shown as it is. -/
def timestampText (t : Option Timestamp) (offset : Offset) : String :=
  match t with
  | none => "-"
  | some (.millis ms) => if ms = 0 then "-" else millisText (some ms) offset
  | some (.text s) =>
    if s.isEmpty then "-"
    else match readInstant? s.toList with
      | some nanos => wallClock nanos offset
      | none => s

/-- What is shown for a text that is missing. -/
def notAvailable : String := "N/A"

/-- The start of a process in seconds; zero means that it is not known. -/
def startTimeText (seconds : Int64) (offset : Offset) : String :=
  if seconds = 0 then notAvailable else wallClock (seconds.toInt * nanosPerSecond) offset

/-- A text, or what is shown if it is empty. -/
def orNotAvailable (s : String) : String :=
  if s.isEmpty then notAvailable else s

/-- The first eight characters of a commit. -/
def commitText (commit : String) : String :=
  if commit.isEmpty then notAvailable else String.ofList (commit.toList.take 8)

/-- What is shown in a cell that would be empty. -/
def dashIfEmpty (s : String) : String :=
  if s.isEmpty then "-" else s

end IngestConsole.Display
