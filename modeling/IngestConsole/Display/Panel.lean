import IngestConsole.Display.Amount
import IngestConsole.Display.Lag
import IngestConsole.Display.Moment
import IngestConsole.Display.Setting
import IngestConsole.Display.Status
import IngestConsole.Text.Lines
import IngestConsole.Wire.LaunchOptions
import IngestConsole.Wire.LogPage
import IngestConsole.Wire.ProcessInfo

/-!
# Panels

The texts of the overview, of one task's status, of the configuration and of the log.
-/

set_option autoImplicit false

namespace IngestConsole.Display

open Calendar Json Text Wire

/-- A text filled with blanks to a width. -/
def padRight (width : Nat) (s : List Char) : List Char :=
  s ++ List.replicate (width - s.length) ' '

/-- Lines of a name and a value, with the values in one column. -/
def keyValues (pairs : List (String × String)) : String :=
  let width := (pairs.map (·.1.length)).foldl max 0
  String.join <| pairs.map fun p =>
    String.ofList (padRight width p.1.toList) ++ "  " ++ p.2 ++ "\n"

/-- The overview of the process. -/
def overviewPanel (p : ProcessInfo) (offset : Offset) : String :=
  keyValues
    [("Version", orNotAvailable p.version),
     ("Commit", commitText p.commit),
     ("Build time", orNotAvailable p.buildTime),
     ("Go version", orNotAvailable p.goVersion),
     ("Start time", startTimeText p.startTime offset),
     ("Uptime", uptimeText p.uptime),
     ("CPU", percentText (.finite p.cpu)),
     ("Memory", sizeText p.memory),
     ("Goroutines", counterText p.goroutines),
     ("Tasks", counterText p.tasks),
     ("Record pool", numberText p.recordPoolSize)]

/-- The lag of a snapshot with its level. -/
def lagWithLevel (lag : Option Int64) : String :=
  match lag with
  | none => lagShort none
  | some n => lagShort (some n) ++ " (" ++ (lagLevel n).name ++ ")"

/-- The status of one task. -/
def statusPanel (name : String) (snapshot : Option StatusSnapshot) (offset : Offset) : String :=
  match snapshot with
  | none => name ++ ": no status yet\n"
  | some s =>
    keyValues
      [("Task", name),
       ("Status", panelStatusLabel s.status),
       ("Start time", timestampText s.startTime offset),
       ("Last active", timestampText s.lastActiveTime offset),
       ("Messages", countText s.messagesTotal),
       ("Rate", rateText (s.messagesPerSec.map .finite)),
       ("Kafka lag", lagWithLevel s.kafkaLag),
       ("Errors", counterText s.errorCount),
       ("Last error", s.lastError.getD "-")]

/-- Where the configuration comes from, in words. -/
def sourceText : ConfigSource → String
  | .localFile path => "local file " ++ path
  | .remote addr registryNamespace =>
    "nacos " ++ addr.getD notAvailable
      ++ " (namespace " ++ registryNamespace.getD notAvailable ++ ")"

/-- A text with two blanks before every line. -/
def indented (s : String) : String :=
  String.ofList (joinWith ['\n'] ((lines s.toList).map (' ' :: ' ' :: ·)))

/-- One entry of the configuration: its value on the same line, or indented below. -/
def settingText (key : String) (v : Value) : String :=
  let value := valueText v
  if value.toList.contains '\n' then keyText key ++ ":\n" ++ indented value ++ "\n"
  else keyText key ++ ": " ++ value ++ "\n"

/-- The configuration, after its source if the launch options are known. -/
def configPanel (doc : List (String × Value)) (options : Option LaunchOptions) : String :=
  (match options with
    | some o => "Config source: " ++ sourceText o.configSource ++ "\n\n"
    | none => "")
    ++ String.join (doc.map fun m => settingText m.1 m.2)

/-- A window of the log that starts at line `start`, and where it lies in the log.  Line numbers
have 64 bits and are added with a check: there is no panel of a window that ends beyond them. -/
def logPanel? (page : LogPage) (start : UInt64) : Option String :=
  let stop := start.toNat + page.lines.length
  if stop < 0x10000000000000000 then
    some (String.join (page.lines.map (· ++ "\n"))
      ++ "-- lines " ++ Numeral.natText start.toNat ++ ".." ++ Numeral.natText stop
      ++ " of " ++ Numeral.natText page.total.toNat ++ "\n")
  else none

end IngestConsole.Display
