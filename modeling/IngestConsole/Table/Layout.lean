import IngestConsole.Display.Panel
import IngestConsole.Table.Projection
import IngestConsole.Table.Row

/-!
# The table as text

A page as lines of text: the titles, one line a task, and a line about the page.  The cells of a
column start at one place, two blanks after the widest cell of the column before.
-/

set_option autoImplicit false

namespace IngestConsole.Table

open Calendar Display Text Wire

/-- The titles of the columns; the sorted one has an arrow. -/
def headerCells (sort : Sorting) : List (List Char) :=
  SortField.all.map fun f =>
    (if sort.field = some f then f.title ++ sort.order.indicator else f.title).toList

/-- The lag cell: marks stand behind a high lag. -/
def lagCell (r : Row) : String :=
  match r.lagLevel with
  | .critical => r.lag ++ " !!"
  | .warning => r.lag ++ " !"
  | .normal => r.lag

/-- The cell of a row in a column. -/
def cell (r : Row) : SortField → String
  | .name => r.name
  | .cluster => r.cluster
  | .table => r.table
  | .topic => r.topic
  | .consumerGroup => r.consumerGroup
  | .kind => (r.kind.map TaskKind.text).getD ""
  | .status => r.statusLabel
  | .lag => lagCell r
  | .writeSpeed => r.writeSpeed
  | .lastUpdate => r.lastUpdate

/-- The cells of a task in the order of the columns. -/
def rowCells (offset : Offset) (t : Task) : List (List Char) :=
  SortField.all.map fun f => (cell (.ofTask t offset) f).toList

/-- The width of every column: that of its widest cell. -/
def columnWidths (header : List (List Char)) (rows : List (List (List Char))) : List Nat :=
  rows.foldl (fun widths row => List.zipWith (fun w c => max w c.length) widths row)
    (header.map List.length)

/-- A line of cells in columns of the given widths, without blanks at its end. -/
def lineOfCells (widths : List Nat) (cells : List (List Char)) : List Char :=
  trimEnd (joinWith [' ', ' '] (List.zipWith padRight widths cells))

/-- Where the page lies in the table. -/
def pageLine (p : Page) : String :=
  "page " ++ Numeral.natText p.currentPage ++ "/" ++ Numeral.natText (max p.totalPages 1)
    ++ ", " ++ Numeral.natText p.filtered ++ " of " ++ Numeral.natText p.total ++ " tasks, "
    ++ Numeral.natText p.pageSize.toNat ++ " per page"

/-- A page of the table as text. -/
def tableText (p : Page) (sort : Sorting) (offset : Offset) : String :=
  match p.empty with
  | some e => e.message ++ "\n"
  | none =>
    let header := headerCells sort
    let rows := p.items.map (rowCells offset)
    let widths := columnWidths header rows
    String.ofList ((header :: rows).flatMap fun cells => lineOfCells widths cells ++ ['\n'])
      ++ "\n" ++ pageLine p ++ "\n"

end IngestConsole.Table
