import IngestConsole.Wire.Task

/-!
# Status labels

The words and the badge styles of task states.
-/

set_option autoImplicit false

namespace IngestConsole.Display

open Wire

/-- The label of a state in the task table; unknown states are shown as they are. -/
def statusLabel : Option TaskStatus → String
  | some .running => "运行中"
  | some .stopped => "已停止"
  | some .error => "错误"
  | some (.other raw _) => raw
  | none => ""

/-- The badge style of a state. -/
def statusClass : Option TaskStatus → String
  | some .running => "status-running"
  | some .stopped => "status-stopped"
  | some .error => "status-error"
  | some (.other _ _) => "status-unknown"
  | none => ""

/-- The label of a state in the status panel; everything not known has one label. -/
def panelStatusLabel : Option TaskStatus → String
  | some .running => "运行中"
  | some .stopped => "已停止"
  | some .error => "错误"
  | _ => "未知"

end IngestConsole.Display
