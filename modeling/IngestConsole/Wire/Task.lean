import IngestConsole.Json.Record

/-!
# Tasks

One ingestion pipeline from a topic to a table, as the service lists it.  Kinds and states that
are not known are kept as they were written.
-/

set_option autoImplicit false

namespace IngestConsole.Wire

open Json

/-- The shape of the data that a task handles. -/
inductive TaskKind
  | metric
  | log
  | other (raw : String) (h : raw ≠ "metric" ∧ raw ≠ "log")
  deriving DecidableEq

namespace TaskKind

/-- The text that stands for a kind. -/
def text : TaskKind → String
  | metric => "metric"
  | log => "log"
  | other raw _ => raw

/-- The kind that a text stands for. -/
def ofText (raw : String) : TaskKind :=
  if hm : raw = "metric" then metric
  else if hl : raw = "log" then log
  else other raw ⟨hm, hl⟩

/-- Whether the kind is one of the known ones. -/
def isKnown : TaskKind → Bool
  | other _ _ => false
  | _ => true

/-- A kind is written as the text that it was read from. -/
theorem text_ofText (raw : String) : (ofText raw).text = raw := by
  unfold ofText
  split
  · simp_all [text]
  · split <;> simp_all [text]

/-- A kind is read back from its text. -/
theorem ofText_text (k : TaskKind) : ofText k.text = k := by
  cases k with
  | metric => rfl
  | log => rfl
  | other raw h => simp [ofText, text, h.1, h.2]

end TaskKind

/-- The state that the service reports for a task. -/
inductive TaskStatus
  | running
  | stopped
  | error
  | other (raw : String) (h : raw ≠ "running" ∧ raw ≠ "stopped" ∧ raw ≠ "error")
  deriving DecidableEq

namespace TaskStatus

/-- The text that stands for a state. -/
def text : TaskStatus → String
  | running => "running"
  | stopped => "stopped"
  | error => "error"
  | other raw _ => raw

/-- The state that a text stands for. -/
def ofText (raw : String) : TaskStatus :=
  if hr : raw = "running" then running
  else if hs : raw = "stopped" then stopped
  else if he : raw = "error" then error
  else other raw ⟨hr, hs, he⟩

/-- Whether the state is one of the known ones. -/
def isKnown : TaskStatus → Bool
  | other _ _ => false
  | _ => true

/-- A status is written as the text that it was read from. -/
theorem text_ofText (raw : String) : (ofText raw).text = raw := by
  unfold ofText
  repeat' split
  all_goals simp_all [text]

/-- A status is read back from its text. -/
theorem ofText_text (s : TaskStatus) : ofText s.text = s := by
  cases s with
  | running => rfl
  | stopped => rfl
  | error => rfl
  | other raw h => simp [ofText, text, h.1, h.2.1, h.2.2]

end TaskStatus

/-- A task. -/
structure Task where
  name : String := ""
  cluster : String := ""
  table : String := ""
  topic : String := ""
  consumerGroup : String := ""
  kind : Option TaskKind := none
  status : Option TaskStatus := none
  /-- How many messages the consumer group lags behind. -/
  lag : Int64 := 0
  /-- The writing speed as the service words it. -/
  writeSpeed : Option String := none
  /-- When the service last updated the task, in milliseconds since the epoch. -/
  lastUpdate : Option Int64 := none
  columnPolicy : Option String := none
  rate : Option Int64 := none
  deriving DecidableEq

namespace Task

/-- The names of the fields on the wire. -/
def fieldNames : List String :=
  ["Name", "Cluster", "Table", "Topic", "ConsumerGroup", "Type", "Status", "Lag", "WriteSpeed",
   "LastUpdate", "ColPolicy", "Rate"]

/-- Reads a task. -/
def decode? (d : Document) : Option Task := do
  let fs ← d.fields? fieldNames
  let name ← fs.get "Name" Document.text? ""
  let cluster ← fs.get "Cluster" Document.text? ""
  let table ← fs.get "Table" Document.text? ""
  let topic ← fs.get "Topic" Document.text? ""
  let consumerGroup ← fs.get "ConsumerGroup" Document.text? ""
  let kind ← fs.get "Type" (Document.optional? Document.text?) none
  let status ← fs.get "Status" (Document.optional? Document.text?) none
  let lag ← fs.get "Lag" Document.int64? 0
  let writeSpeed ← fs.get "WriteSpeed" (Document.optional? Document.text?) none
  let lastUpdate ← fs.get "LastUpdate" (Document.optional? Document.int64?) none
  let columnPolicy ← fs.get "ColPolicy" (Document.optional? Document.text?) none
  let rate ← fs.get "Rate" (Document.optional? Document.int64?) none
  pure
    { name, cluster, table, topic, consumerGroup
      kind := kind.map TaskKind.ofText
      status := status.map TaskStatus.ofText
      lag, writeSpeed, lastUpdate, columnPolicy, rate }

/-- The members of a written task; absent fields are left out. -/
def members (t : Task) : List (String × Value) :=
  [("Name", .text t.name), ("Cluster", .text t.cluster), ("Table", .text t.table),
   ("Topic", .text t.topic), ("ConsumerGroup", .text t.consumerGroup)]
  ++ optionalMember "Type" (fun k => .text k.text) t.kind
  ++ optionalMember "Status" (fun s => .text s.text) t.status
  ++ [("Lag", .int64 t.lag)]
  ++ optionalMember "WriteSpeed" .text t.writeSpeed
  ++ optionalMember "LastUpdate" .int64 t.lastUpdate
  ++ optionalMember "ColPolicy" .text t.columnPolicy
  ++ optionalMember "Rate" .int64 t.rate

/-- Writes a task. -/
def encode (t : Task) : Value :=
  .ofMembers t.members

end Task

/-- The tasks that the service lists. -/
structure TaskList where
  tasks : List Task := []
  total : UInt64 := 0
  deriving DecidableEq

namespace TaskList

/-- The names of the fields on the wire. -/
def fieldNames : List String :=
  ["Tasks", "Total"]

/-- Reads a list of tasks. -/
def decode? (d : Document) : Option TaskList := do
  let fs ← d.fields? fieldNames
  let tasks ← fs.get "Tasks" (Document.nullableList? Task.decode?) []
  let total ← fs.get "Total" Document.uint64? 0
  pure { tasks, total }

/-- The members of a written list of tasks. -/
def members (l : TaskList) : List (String × Value) :=
  [("Tasks", .array (l.tasks.map Task.encode)), ("Total", .uint64 l.total)]

/-- Writes a list of tasks. -/
def encode (l : TaskList) : Value :=
  .ofMembers l.members

end TaskList

end IngestConsole.Wire
