import IngestConsole.Json.Record

/-!
# Process information

What the service tells about its own process.
-/

set_option autoImplicit false

namespace IngestConsole.Wire

open Json

/-- A summary of the running service. -/
structure ProcessInfo where
  version : String := ""
  buildTime : String := ""
  commit : String := ""
  goVersion : String := ""
  recordPoolSize : Int64 := 0
  goroutines : UInt64 := 0
  cpu : Numeral.Finite64 := .zero false
  /-- Resident memory in bytes. -/
  memory : UInt64 := 0
  /-- In seconds since the epoch. -/
  startTime : Int64 := 0
  /-- In seconds. -/
  uptime : UInt64 := 0
  tasks : UInt64 := 0
  deriving DecidableEq

namespace ProcessInfo

/-- The names of the fields on the wire. -/
def fieldNames : List String :=
  ["Version", "BuildTime", "Commit", "GoVersion", "RecordPoolSize", "Goroutines", "CPU", "Memory",
   "StartTime", "Uptime", "Tasks"]

/-- Reads process information. -/
def decode? (d : Document) : Option ProcessInfo := do
  let fs ← d.fields? fieldNames
  let version ← fs.get "Version" Document.text? ""
  let buildTime ← fs.get "BuildTime" Document.text? ""
  let commit ← fs.get "Commit" Document.text? ""
  let goVersion ← fs.get "GoVersion" Document.text? ""
  let recordPoolSize ← fs.get "RecordPoolSize" Document.int64? 0
  let goroutines ← fs.get "Goroutines" Document.uint64? 0
  let cpu ← fs.get "CPU" Document.float? (.zero false)
  let memory ← fs.get "Memory" Document.uint64? 0
  let startTime ← fs.get "StartTime" Document.int64? 0
  let uptime ← fs.get "Uptime" Document.uint64? 0
  let tasks ← fs.get "Tasks" Document.uint64? 0
  pure
    { version, buildTime, commit, goVersion, recordPoolSize, goroutines, cpu, memory, startTime
      uptime, tasks }

/-- The members of written process information. -/
def members (p : ProcessInfo) : List (String × Value) :=
  [("Version", .text p.version), ("BuildTime", .text p.buildTime), ("Commit", .text p.commit),
   ("GoVersion", .text p.goVersion), ("RecordPoolSize", .int64 p.recordPoolSize),
   ("Goroutines", .uint64 p.goroutines), ("CPU", .float p.cpu), ("Memory", .uint64 p.memory),
   ("StartTime", .int64 p.startTime), ("Uptime", .uint64 p.uptime), ("Tasks", .uint64 p.tasks)]

/-- Writes process information. -/
def encode (p : ProcessInfo) : Value :=
  .ofMembers p.members

end ProcessInfo

end IngestConsole.Wire
