import IngestConsole.Wire.Task

/-!
# Status snapshots

The live state of one task at one moment.  A snapshot is always replaced as a whole.
-/

set_option autoImplicit false

namespace IngestConsole.Wire

open Json

/-- A point in time as the service writes it: milliseconds since the epoch, or a text. -/
inductive Timestamp
  | millis (ms : Int64)
  | text (s : String)
  deriving DecidableEq, Repr

namespace Timestamp

/-- Reads a point in time. -/
def decode? (d : Document) : Option Timestamp :=
  match d with
  | .number _ => d.int64?.map .millis
  | .string s => s.map .text
  | _ => none

/-- Writes a point in time. -/
def encode : Timestamp → Value
  | .millis ms => .int64 ms
  | .text s => .text s

end Timestamp

/-- The live state of one task. -/
structure StatusSnapshot where
  status : Option TaskStatus := none
  startTime : Option Timestamp := none
  lastActiveTime : Option Timestamp := none
  messagesTotal : Option Int64 := none
  messagesPerSec : Option Numeral.Finite64 := none
  kafkaLag : Option Int64 := none
  errorCount : UInt64 := 0
  lastError : Option String := none
  deriving DecidableEq

namespace StatusSnapshot

/-- The names of the fields on the wire. -/
def fieldNames : List String :=
  ["status", "startTime", "lastActiveTime", "messagesTotal", "messagesPerSec", "kafkaLag",
   "errorCount", "lastError"]

/-- Reads a snapshot. -/
def decode? (d : Document) : Option StatusSnapshot := do
  let fs ← d.fields? fieldNames
  let status ← fs.get "status" (Document.optional? Document.text?) none
  let startTime ← fs.get "startTime" (Document.optional? Timestamp.decode?) none
  let lastActiveTime ← fs.get "lastActiveTime" (Document.optional? Timestamp.decode?) none
  let messagesTotal ← fs.get "messagesTotal" (Document.optional? Document.int64?) none
  let messagesPerSec ← fs.get "messagesPerSec" (Document.optional? Document.float?) none
  let kafkaLag ← fs.get "kafkaLag" (Document.optional? Document.int64?) none
  let errorCount ← fs.get "errorCount" Document.uint64? 0
  let lastError ← fs.get "lastError" (Document.optional? Document.text?) none
  pure
    { status := status.map TaskStatus.ofText
      startTime, lastActiveTime, messagesTotal, messagesPerSec, kafkaLag, errorCount, lastError }

/-- The members of a written snapshot; absent fields are left out. -/
def members (s : StatusSnapshot) : List (String × Value) :=
  optionalMember "status" (fun s => .text s.text) s.status
  ++ optionalMember "startTime" Timestamp.encode s.startTime
  ++ optionalMember "lastActiveTime" Timestamp.encode s.lastActiveTime
  ++ optionalMember "messagesTotal" .int64 s.messagesTotal
  ++ optionalMember "messagesPerSec" .float s.messagesPerSec
  ++ optionalMember "kafkaLag" .int64 s.kafkaLag
  ++ [("errorCount", .uint64 s.errorCount)]
  ++ optionalMember "lastError" .text s.lastError

/-- Writes a snapshot. -/
def encode (s : StatusSnapshot) : Value :=
  .ofMembers s.members

end StatusSnapshot

end IngestConsole.Wire
