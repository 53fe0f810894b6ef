import IngestConsole.Text.Blank

/-!
# Tabs

The dashboard shows one of four tabs.
-/

set_option autoImplicit false

namespace IngestConsole.Dashboard

/-- A tab of the dashboard. -/
inductive Tab
  | overview
  | tasks
  | config
  | debug
  deriving DecidableEq, Repr

namespace Tab

/-- Every tab. -/
def all : List Tab :=
  [overview, tasks, config, debug]

/-- The name of a tab. -/
def name : Tab → String
  | overview => "overview"
  | tasks => "tasks"
  | config => "config"
  | debug => "debug"

/-- A text that names no tab. -/
structure Unknown where
  text : String
  deriving DecidableEq, Repr

/-- The wording of an unknown tab. -/
def Unknown.message (e : Unknown) : String :=
  "unknown tab: " ++ e.text

/-- The tab with a name; case and blanks around it do not matter. -/
def ofName (s : String) : Except Unknown Tab :=
  let name := String.ofList ((Text.trim s.toList).map Char.toLower)
  match all.find? (·.name = name) with
  | some t => .ok t
  | none => .error ⟨s⟩

end Tab

end IngestConsole.Dashboard
