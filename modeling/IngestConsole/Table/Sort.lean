import IngestConsole.Text.Case
import IngestConsole.Wire.Task

/-!
# Sorting

The columns by which tasks are sorted, the order of two tasks by a column, and the choice of
column and direction that a user makes.
-/

set_option autoImplicit false

namespace IngestConsole.Table

open Json Text Wire

/-- A column by which tasks are sorted. -/
inductive SortField
  | name
  | cluster
  | table
  | topic
  | consumerGroup
  | kind
  | status
  | lag
  | writeSpeed
  | lastUpdate
  deriving DecidableEq, Repr

namespace SortField

/-- Every column, in the order of the table. -/
def all : List SortField :=
  [name, cluster, table, topic, consumerGroup, kind, status, lag, writeSpeed, lastUpdate]

/-- The title of a column. -/
def title : SortField → String
  | name => "Name"
  | cluster => "Cluster"
  | table => "Table"
  | topic => "Topic"
  | consumerGroup => "ConsumerGroup"
  | kind => "Type"
  | status => "Status"
  | lag => "Lag"
  | writeSpeed => "WriteSpeed"
  | lastUpdate => "LastUpdate"

/-- A text that names no column. -/
structure Unknown where
  text : String
  deriving DecidableEq, Repr

/-- The wording of an unknown column. -/
def Unknown.message (e : Unknown) : String :=
  "unknown sort field: " ++ e.text

/-- A name of a column without the marks between words and without letter case. -/
def normalName (s : String) : List Char :=
  caseKey ((trim s.toList).filter fun c => c ≠ '_' && c ≠ '-')

/-- The column that a text names. -/
def ofText (s : String) : Except Unknown SortField :=
  match all.find? fun f => f.title.toList.map Char.toLower == normalName s with
  | some f => .ok f
  | none => .error ⟨s⟩

/-- Reads a column by its title. -/
def decode? (d : Document) : Option SortField := do
  let title ← d.choice?
  all.find? (·.title == title)

end SortField

/-- The order of texts without regard to letter case. -/
def textLe (a b : String) : Bool :=
  !List.lex (caseKey b.toList) (caseKey a.toList) fun x y => x.val < y.val

/-- An order extended by an absent value before all others. -/
def optionLe {α : Type} (le : α → α → Bool) : Option α → Option α → Bool
  | none, _ => true
  | some _, none => false
  | some a, some b => le a b

/-- The ascending order of two tasks by a column. -/
def SortField.le (f : SortField) (a b : Task) : Bool :=
  match f with
  | .name => textLe a.name b.name
  | .cluster => textLe a.cluster b.cluster
  | .table => textLe a.table b.table
  | .topic => textLe a.topic b.topic
  | .consumerGroup => textLe a.consumerGroup b.consumerGroup
  | .kind => optionLe textLe (a.kind.map TaskKind.text) (b.kind.map TaskKind.text)
  | .status => optionLe textLe (a.status.map TaskStatus.text) (b.status.map TaskStatus.text)
  | .lag => decide (a.lag ≤ b.lag)
  | .writeSpeed => optionLe textLe a.writeSpeed b.writeSpeed
  | .lastUpdate => optionLe (fun x y => decide (x ≤ y)) a.lastUpdate b.lastUpdate

/-- A direction of sorting. -/
inductive SortOrder
  | ascending
  | descending
  deriving DecidableEq, Repr

namespace SortOrder

/-- The name of a direction on the wire. -/
def name : SortOrder → String
  | ascending => "asc"
  | descending => "desc"

/-- The other direction. -/
def toggled : SortOrder → SortOrder
  | ascending => descending
  | descending => ascending

/-- The arrow beside the title of the sorted column. -/
def indicator : SortOrder → String
  | ascending => "↑"
  | descending => "↓"

/-- An order read in a direction. -/
def directed {α : Type} (order : SortOrder) (le : α → α → Bool) (a b : α) : Bool :=
  match order with
  | ascending => le a b
  | descending => le b a

/-- Reads a direction. -/
def decode? (d : Document) : Option SortOrder := do
  let name ← d.choice?
  [ascending, descending].find? (·.name == name)

end SortOrder

/-- The column and direction by which tasks are sorted; without a column they are not. -/
structure Sorting where
  field : Option SortField := none
  order : SortOrder := .ascending
  deriving DecidableEq, Repr

namespace Sorting

/-- Selects a column: the selected one changes its direction, another starts ascending. -/
def select (s : Sorting) (f : SortField) : Sorting :=
  if s.field = some f then { s with order := s.order.toggled }
  else { field := some f, order := .ascending }

/-- Tasks in the selected order; tasks that the order does not tell apart keep their places. -/
def apply (s : Sorting) (tasks : List Task) : List Task :=
  match s.field with
  | some f => tasks.mergeSort (s.order.directed f.le)
  | none => tasks

/-- The names of the fields on the wire. -/
def fieldNames : List String :=
  ["field", "order"]

/-- Reads a sorting. -/
def decode? (d : Document) : Option Sorting := do
  let fs ← d.fields? fieldNames
  let field ← fs.get "field" (Document.optional? SortField.decode?) none
  let order ← fs.get "order" SortOrder.decode? .ascending
  pure { field, order }

/-- The members of a written sorting; an absent column is left out. -/
def members (s : Sorting) : List (String × Value) :=
  optionalMember "field" (fun f => .text f.title) s.field ++ [("order", .text s.order.name)]

/-- Writes a sorting. -/
def encode (s : Sorting) : Value :=
  .ofMembers s.members

end Sorting

end IngestConsole.Table
