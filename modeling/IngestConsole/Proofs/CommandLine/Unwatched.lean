import IngestConsole.Proofs.CommandLine.Outcomes

/-!
# Runs without watching

Once a console is connected, a command that does not watch is a program on a new dashboard: what the
run prints, and which requests it sends, is what the program comes to when every call is answered by
the response to its request.
-/

set_option autoImplicit false

namespace IngestConsole.CommandLine

open Calendar Dashboard Logging Service Wire

/-- An invocation that connects has valid settings. -/
theorem Invocation.settings_connect {i : Invocation} {client : Client}
    (connected : i.connect = .ok client) : i.settings.connect = .ok client := by
  unfold Invocation.connect at connected
  split at connected
  · cases connected
  · cases made : i.settings.connect with
    | error e =>
      rw [made] at connected
      cases connected
    | ok other =>
      rw [made] at connected
      exact congrArg Except.ok (Except.ok.inj connected)

/-- A connected console can send every request. -/
theorem Invocation.exists_requests {i : Invocation} {client : Client}
    (connected : i.connect = .ok client) :
    ∃ request : Endpoint → Request, ∀ e : Endpoint, e.request client.base = .ok (request e) := by
  have made := ofAddress_of_connect (Invocation.settings_connect connected)
  choose request sends using Client.request_of_ofAddress made
  exact ⟨request, sends⟩

section

variable {i : Invocation} {client : Client} (connected : i.connect = .ok client)
  (unwatched : ¬i.command.Watches) {request : Endpoint → Request}
  (sends : ∀ e : Endpoint, e.request client.base = .ok (request e))

include connected unwatched sends

/-- A run without watching is the run of the command's program on a new dashboard. -/
theorem Invocation.run_eq_eval (respond : Request → Response) (offset : Offset) (polls : Nat) :
    i.run respond offset polls =
      let ended := (i.command.program offset).eval (client.call respond) (ofSettings i.settings)
      (ended.1.mapError .command, ended.2.2.map request) := by
  have idle : (Session.start i.settings ([] : List Request)).IsIdle :=
    Session.isIdle_start i.settings []
  obtain ⟨after, ran, -, recorded⟩ :=
    Session.run_idle sends respond (i.command.program offset) idle
  have run := (Command.run_of_not_watches unwatched (client.backend respond) offset polls
    (Session.start i.settings [])).trans ran
  have sent : after.backend.reverse =
      ((i.command.program offset).eval (client.call respond)
        (ofSettings i.settings)).2.2.map request := by
    rw [recorded, List.reverse_append, List.reverse_reverse]
    rfl
  simp only [Invocation.run, connected, run, sent]
  rfl

/-- Two services before which the command's program comes to the same and makes the same calls give
the same run. -/
theorem Invocation.run_congr {respond respond' : Request → Response} {offset : Offset}
    (result : ((i.command.program offset).eval (client.call respond') (ofSettings i.settings)).1 =
      ((i.command.program offset).eval (client.call respond) (ofSettings i.settings)).1)
    (calls : ((i.command.program offset).eval (client.call respond') (ofSettings i.settings)).2.2 =
      ((i.command.program offset).eval (client.call respond) (ofSettings i.settings)).2.2)
    (polls : Nat) : i.run respond' offset polls = i.run respond offset polls := by
  rw [i.run_eq_eval connected unwatched sends, i.run_eq_eval connected unwatched sends]
  simp only [result, calls]

end

/-- What a connected console comes to that asks for one answer, gets a good one, and does nothing
more with it than to print or to stop. -/
theorem Invocation.run_answered {i : Invocation} {client : Client}
    (connected : i.connect = .ok client) (unwatched : ¬i.command.Watches) {e : Endpoint}
    {next : e.Result → Program Printed} {offset : Offset}
    (asks : i.command.program offset = Program.ask e >>= next) {r : Request}
    (sent : e.request client.base = .ok r) {respond : Request → Response} {answer : e.Answer}
    (gives : (respond r).Gives e answer) {printed : Printed} (ends : next (.ok answer) = pure printed)
    (polls : Nat) : i.run respond offset polls = (printed.mapError .command, [r]) := by
  obtain ⟨request, sends⟩ := Invocation.exists_requests connected
  have here : request e = r := Except.ok.inj ((sends e).symm.trans sent)
  have read : client.call respond e = .ok answer := by
    rw [Client.call_of_request sent]
    exact ((classified_read e (respond r)).ok answer).2 gives
  rw [i.run_eq_eval connected unwatched sends, asks]
  simp only [Program.eval_bind, Program.eval_ask, read, ends, Program.eval_pure, List.append_nil,
    List.map_cons, List.map_nil, here]

/-- Whatever is asked of the service on this host, the console connects to it. -/
theorem connect_loopback (command : Command) :
    Invocation.connect { reloadInvocation with command } = .ok Client.loopback := by
  show reloadInvocation.connect = .ok Client.loopback
  exact eq_ok_of_toOption (by decide +kernel)

end IngestConsole.CommandLine
