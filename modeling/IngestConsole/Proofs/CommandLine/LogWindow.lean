import IngestConsole.Proofs.CommandLine.Unwatched

/-!
# Windows of the log

A window of the log is printed line by line, and behind it where it lies.  Its end is counted in 64
bits, with a check: the window is printed exactly if its end can be written in them, and else the
program is stopped before it prints anything.
-/

set_option autoImplicit false

namespace IngestConsole.CommandLine

open Calendar Dashboard Display Numeral Service Wire

/-! ## Printed windows -/

/-- Lines of a log, and behind them that they are its lines from `start` up to `stop`, and how many
lines the log has. -/
def windowText (lines : List String) (start stop total : Nat) : String :=
  String.join (lines.map (· ++ "\n")) ++ "-- lines " ++ natText start ++ ".." ++ natText stop
    ++ " of " ++ natText total ++ "\n"

/-- The panel of a window that ends at a line number. -/
theorem logPanel?_eq_some {page : LogPage} {start : UInt64}
    (fits : start.toNat + page.lines.length < 2 ^ 64) :
    logPanel? page start =
      some (windowText page.lines start.toNat (start.toNat + page.lines.length)
        page.total.toNat) := by
  rw [logPanel?]
  exact if_pos fits

/-! ## The command -/

/-- A run printed a window of the log after a single request, or was stopped. -/
structure PrintsWindow (page : LogPage) (start : UInt64) (r : Request)
    (ended : Except Failure String × List Request) : Prop where
  /-- The window is printed, and where it ends, exactly if that is a line number of 64 bits. -/
  faithful_iff :
    ended = (.ok (windowText page.lines start.toNat (start.toNat + page.lines.length)
      page.total.toNat), [r]) ↔ start.toNat + page.lines.length < 2 ^ 64
  /-- Else the program is stopped, and nothing is printed. -/
  stopped : 2 ^ 64 ≤ start.toNat + page.lines.length →
    ended = (.error (.command .overflow), [r]) ∧
      exitCode ended.1 = 101 ∧ standardOutput ended.1 = ""

/-- A log command that is answered with a window prints it or is stopped. -/
theorem Invocation.printsWindow {i : Invocation} {start : UInt64} {errorsOnly : Bool}
    (command : i.command = .log start errorsOnly) {client : Client}
    (connected : i.connect = .ok client) {r : Request}
    (sent : (Endpoint.log start errorsOnly).request client.base = .ok r)
    {respond : Request → Response} {page : LogPage}
    (served : (respond r).Gives (.log start errorsOnly) page) (offset : Offset) (polls : Nat) :
    PrintsWindow page start r (i.run respond offset polls) := by
  have unwatched : ¬i.command.Watches := by
    rw [command]
    exact id
  have asks : i.command.program offset = logProgram start errorsOnly := by
    rw [command]
    rfl
  by_cases fits : start.toNat + page.lines.length < 2 ^ 64
  · have ran := Invocation.run_answered connected unwatched asks sent served
      (by simp only [logPanel?_eq_some fits]; rfl) polls
    rw [ran]
    exact ⟨⟨fun _ => fits, fun _ => rfl⟩, fun large => absurd fits (Nat.not_lt.2 large)⟩
  · have ran := Invocation.run_answered connected unwatched asks sent served
      (by simp only [logPanel?_eq_none_iff.2 (Nat.not_lt.1 fits)]; rfl) polls
    rw [ran]
    refine ⟨⟨fun same => ?_, fun small => absurd small fits⟩, fun _ => ⟨rfl, rfl, rfl⟩⟩
    cases (Prod.mk.inj same).1

/-- Whatever window of the log a service gives, the console prints its lines in their order, and
behind them the requested first line, the first line after the window and the length of the log,
exactly if the first line after the window is below `2 ^ 64`; from there on the program is stopped and
prints nothing.  This holds of every first line, and of every command line that is read as a request
for the log. -/
theorem log_prints_window {start : UInt64} {errorsOnly : Bool} {client : Client} {r : Request}
    (sent : (Endpoint.log start errorsOnly).request client.base = .ok r)
    {respond : Request → Response} {page : LogPage}
    (served : (respond r).Gives (.log start errorsOnly) page) (offset : Offset) (polls : Nat) :
    (∀ i : Invocation, i.command = .log start errorsOnly → i.connect = .ok client →
      PrintsWindow page start r (i.run respond offset polls)) ∧
    ∀ (environment : String → Option String) (args : List String) (i : Invocation),
      Invocation.parse environment args = .ok i → i.command = .log start errorsOnly →
        i.connect = .ok client →
          PrintsWindow page start r (runArguments environment args respond offset polls) := by
  refine ⟨?_, ?_⟩
  · intro i command connected
    exact Invocation.printsWindow command connected sent served offset polls
  · intro environment args i parsed command connected
    rw [runArguments, parsed]
    exact Invocation.printsWindow command connected sent served offset polls

/-- A command line that asks for the log from a line on. -/
def logLine (start : String) : List String :=
  ["--url", "http://127.0.0.1:2112/console/", "--timeout-ms", "5000", "log", "--from", start]

/-- A service whose log is the single line `x`, from wherever it is asked for. -/
def oneLine : Request → Response :=
  fun _ => .answered 200 <| Text.utf8
    "\x7b\"retCode\":\"0000\",\"entity\":\x7b\"Total\":1,\"Lines\":[\"x\"]\x7d\x7d".toList

/-- The last window whose end is a line number. -/
theorem log_prints_window_last :
    runArguments (fun _ => none) (logLine "18446744073709551614") oneLine 0 0 =
      (.ok "x\n-- lines 18446744073709551614..18446744073709551615 of 1\n",
        [{ method := .get, target := "/console/api/v1/log?from=18446744073709551614" }]) := by
  have sent : (Endpoint.log 18446744073709551614 false).request Client.loopback.base =
      .ok { method := .get, target := "/console/api/v1/log?from=18446744073709551614" } :=
    eq_ok_of_toOption (by decide +kernel)
  have read : (Endpoint.log 18446744073709551614 false).read
      (oneLine { method := .get, target := "/console/api/v1/log?from=18446744073709551614" }) =
      .ok { total := 1, lines := ["x"] } :=
    eq_ok_of_toOption (by decide +kernel)
  have served := ((classified_read (.log 18446744073709551614 false) _).ok _).1 read
  have parsed : Invocation.parse (fun _ => none) (logLine "18446744073709551614") =
      .ok { reloadInvocation with command := .log 18446744073709551614 false } :=
    eq_ok_of_toOption (by decide +kernel)
  have connected := connect_loopback (.log 18446744073709551614 false)
  obtain ⟨-, printed⟩ := log_prints_window sent served 0 0
  have text : windowText ["x"] (18446744073709551614 : UInt64).toNat
      ((18446744073709551614 : UInt64).toNat + ["x"].length) (1 : UInt64).toNat =
      "x\n-- lines 18446744073709551614..18446744073709551615 of 1\n" := by
    decide +kernel
  rw [← text]
  exact (printed _ _ _ parsed rfl connected).faithful_iff.2 (by decide)

/-- The next window ends behind the last line number: the program is stopped in place of printing
where it ends. -/
theorem log_prints_window_overflow :
    let ended := runArguments (fun _ => none) (logLine "18446744073709551615") oneLine 0 0
    let r : Request :=
      { method := .get, target := "/console/api/v1/log?from=18446744073709551615" }
    ended = (.error (.command .overflow), [r]) ∧
      ended ≠ (.ok (windowText ["x"] 18446744073709551615 (18446744073709551615 + 1) 1), [r]) := by
  decide +kernel

end IngestConsole.CommandLine
