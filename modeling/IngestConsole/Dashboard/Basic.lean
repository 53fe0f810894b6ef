import IngestConsole.Dashboard.Tab
import IngestConsole.Polling.StatusMonitor
import IngestConsole.Service.Settings
import IngestConsole.Table.View

/-!
# Dashboards

A dashboard holds what was fetched for each of its panels.  What is shown stays until a later answer
takes its place: a failed call leaves everything as it was.
-/

set_option autoImplicit false

namespace IngestConsole

open Dashboard Polling Service Table Wire

/-- A part of the dashboard that waits for answers of its own. -/
inductive Dashboard.Panel
  /-- What is loaded when the dashboard starts. -/
  | global
  | overview
  | tasks
  | config
  | debug
  deriving DecidableEq, Repr

/-- What the dashboard shows. -/
structure Dashboard where
  tab : Tab := .overview
  /-- The panels that wait for an answer. -/
  isLoading : Panel → Bool := fun _ => false
  processInfo : Option ProcessInfo := none
  /-- How often the process info was set. -/
  processInfoChanges : Nat := 0
  /-- The time between two fetches of the process info, in milliseconds. -/
  overviewPeriod : Nat
  /-- The handle of the timer that fetches the process info. -/
  overviewTimer : Option Nat := none
  config : Option ConfigDocument := none
  launchOptions : Option LaunchOptions := none
  tasks : View := {}
  dumps : DumpKind → Option String := fun _ => none
  status : StatusMonitor

namespace Dashboard

/-- A dashboard on which nothing was fetched yet. -/
def ofSettings (s : Settings) : Dashboard where
  overviewPeriod := s.overviewInterval.toNat
  status := { period := s.statusInterval.toNat }

/-- Marks whether a panel waits for an answer. -/
def setLoading (d : Dashboard) (panel : Panel) (isLoading : Bool) : Dashboard :=
  { d with isLoading := fun p => if p = panel then isLoading else d.isLoading p }

/-- The dashboard after an answer came in. -/
def absorb (d : Dashboard) : Reply → Dashboard
  | ⟨.processInfo, .ok info⟩ =>
    { d with processInfo := some info, processInfoChanges := d.processInfoChanges + 1 }
  | ⟨.tasks, .ok list⟩ => { d with tasks := d.tasks.replaceTasks list.tasks }
  | ⟨.config, .ok doc⟩ => { d with config := some doc }
  | ⟨.launchOptions, .ok options⟩ => { d with launchOptions := some options }
  | ⟨.dump kind, .ok text⟩ =>
    { d with dumps := fun k => if k = kind then some text else d.dumps k }
  | _ => d

/-- Shown for a dump that was not fetched yet. -/
def dumpPlaceholder : String := "加载中..."

/-- The text that is shown for a dump. -/
def dumpText (d : Dashboard) (kind : DumpKind) : String :=
  (d.dumps kind).getD dumpPlaceholder

end Dashboard

end IngestConsole
