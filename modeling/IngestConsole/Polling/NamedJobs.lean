import IngestConsole.Polling.Timeline

/-!
# Named jobs

Periodic jobs under names.  A name holds at most one handle: spawning a job under a name drops the
handle that the name had, and a dropped handle stops its timer.  A run of a job takes its time to
finish and is not ended by what happens to the handle; the counts of a name outlive its handles.
-/

set_option autoImplicit false

namespace IngestConsole.Polling

/-- A job that takes some milliseconds each time it runs. -/
structure NamedJob where
  name : String
  work : Nat
  deriving DecidableEq, Repr

/-- A name with what became of its jobs. -/
structure JobRecord where
  name : String
  /-- The handle that the name holds. -/
  handle : Option Nat
  started : Nat := 0
  finished : Nat := 0
  deriving DecidableEq, Repr

/-- The names that ever had a job, in the order of their first job. -/
abbrev JobRecords := List JobRecord

namespace JobRecords

/-- The record of a name. -/
def find? (records : JobRecords) (name : String) : Option JobRecord :=
  List.find? (·.name == name) records

/-- Changes the record of a name. -/
def change (records : JobRecords) (name : String) (f : JobRecord → JobRecord) : JobRecords :=
  records.map fun r => if r.name == name then f r else r

/-- The records after a name was given a handle. -/
def hold (records : JobRecords) (name : String) (handle : Nat) : JobRecords :=
  if (records.find? name).isSome then
    records.change name fun r => { r with handle := some handle }
  else records ++ [{ name, handle := some handle }]

end JobRecords

/-- A tick starts a run of its job, and the run finishes when its answer arrives. -/
def jobHandlers : Handlers NamedJob String JobRecords where
  tick _ job records :=
    (some (job.work, job.name),
      records.change job.name fun r => { r with started := r.started + 1 })
  arrive _ name records := records.change name fun r => { r with finished := r.finished + 1 }

/-- Named jobs on a timeline. -/
abbrev NamedJobs := Timeline NamedJob String JobRecords

namespace NamedJobs

/-- No jobs. -/
def empty : NamedJobs where
  state := []

/-- The handle that a name holds. -/
def handle? (jobs : NamedJobs) (name : String) : Option Nat :=
  (jobs.state.find? name).bind (·.handle)

/-- Stops the job of a name. -/
def cancel (jobs : NamedJobs) (name : String) : NamedJobs :=
  jobs.stop (jobs.handle? name)

/-- Drops the handle of a name. -/
def drop (jobs : NamedJobs) (name : String) : NamedJobs :=
  (jobs.cancel name).modify (·.change name fun r => { r with handle := none })

/-- Starts a job under a name. -/
def spawn (jobs : NamedJobs) (job : NamedJob) (period : Nat) : NamedJobs :=
  let armed := Timeline.arm (jobs.drop job.name) job period
  armed.modify (·.hold job.name jobs.nextHandle)

/-- Whether the timer behind a handle was stopped. -/
def isCancelled (jobs : NamedJobs) (handle : Nat) : Bool :=
  (jobs.timers[handle]?.bind (·.stopped)).isSome

end NamedJobs

end IngestConsole.Polling
