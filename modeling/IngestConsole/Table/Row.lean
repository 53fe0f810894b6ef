import IngestConsole.Display.Amount
import IngestConsole.Display.Lag
import IngestConsole.Display.Moment
import IngestConsole.Display.Status

/-!
# Table rows

The cells of one task, ready to be shown.
-/

set_option autoImplicit false

namespace IngestConsole.Table

open Calendar Display Wire

/-- The cells of one task. -/
structure Row where
  name : String
  cluster : String
  table : String
  topic : String
  consumerGroup : String
  kind : Option TaskKind
  status : Option TaskStatus
  statusLabel : String
  statusClass : String
  lag : String
  lagLevel : LagLevel
  writeSpeed : String
  lastUpdate : String

/-- The row of a task, with clock times at an offset. -/
def Row.ofTask (t : Task) (offset : Offset) : Row where
  name := t.name
  cluster := t.cluster
  table := t.table
  topic := t.topic
  consumerGroup := t.consumerGroup
  kind := t.kind
  status := t.status
  statusLabel := Display.statusLabel t.status
  statusClass := Display.statusClass t.status
  lag := numberText t.lag
  lagLevel := Display.lagLevel t.lag
  writeSpeed := dashIfEmpty (t.writeSpeed.getD "")
  lastUpdate := dashIfEmpty (millisText t.lastUpdate offset)

end IngestConsole.Table
