import IngestConsole.Json.Record

/-!
# Log pages

A window of the log lines of the service.
-/

set_option autoImplicit false

namespace IngestConsole.Wire

open Json

/-- A window of log lines. -/
structure LogPage where
  /-- How many lines the whole log has. -/
  total : UInt64 := 0
  lines : List String := []
  deriving DecidableEq, Repr

namespace LogPage

/-- The names of the fields on the wire. -/
def fieldNames : List String :=
  ["Total", "Lines"]

/-- Reads a log page. -/
def decode? (d : Document) : Option LogPage := do
  let fs ← d.fields? fieldNames
  let total ← fs.get "Total" Document.uint64? 0
  let lines ← fs.get "Lines" (Document.nullableList? Document.text?) []
  pure { total, lines }

/-- The members of a written log page. -/
def members (p : LogPage) : List (String × Value) :=
  [("Total", .uint64 p.total), ("Lines", .array (p.lines.map .text))]

/-- Writes a log page. -/
def encode (p : LogPage) : Value :=
  .ofMembers p.members

end LogPage

end IngestConsole.Wire
