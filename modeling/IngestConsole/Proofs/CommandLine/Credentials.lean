import IngestConsole.Proofs.CommandLine.Unwatched
import IngestConsole.Proofs.Dashboard.Blindness

/-!
# Secrets are not printed

Every command is a blind program: what it prints, how it fails and what it asks for do not depend on
the secrets in the launch options.  So a run without watching is the same run before two services
that are alike but for these secrets.
-/

set_option autoImplicit false

namespace IngestConsole.CommandLine

open Calendar Dashboard Dashboard.Program Display Json Service Table Wire

/-! ## Programs of commands -/

/-- Printing the process info is blind, although launch options are loaded with it. -/
theorem blind_overview (offset : Offset) : (overviewProgram offset).Blind := by
  refine (blind_fetch _ _).bind fun _ => blind_look ?_ fun d => ?_
  · intro d d' same
    have info : d'.processInfo = d.processInfo := eq_of_public (fun _ => rfl) same
    simp only [info]
  · cases d.processInfo <;> exact blind_pure _

/-- Printing the tasks is blind. -/
theorem blind_tasks (q : TaskQuery) (offset : Offset) : (tasksProgram q offset).Blind := by
  refine (blind_fetch _ _).bind fun good => ?_
  cases good with
  | false => exact blind_pure _
  | true =>
    refine (blind_modify ?_).bind fun _ => blind_look ?_ fun d => blind_pure _
    · intro d d' same
      have tasks : d'.tasks = d.tasks := eq_of_public (fun _ => rfl) same
      calc withoutSecrets { d' with tasks := q.view d'.tasks }
          = { d'.withoutSecrets with tasks := q.view d'.tasks } := rfl
        _ = { d.withoutSecrets with tasks := q.view d.tasks } := by rw [same, tasks]
    · intro d d' same
      have tasks : d'.tasks = d.tasks := eq_of_public (fun _ => rfl) same
      simp only [tasks]

/-- The panel of the configuration names its source, which is no secret. -/
theorem configPanel_withoutSecrets (doc : ConfigDocument) (o : Option LaunchOptions) :
    configPanel doc (o.map LaunchOptions.withoutSecrets) = configPanel doc o := by
  cases o <;> rfl

/-- Printing the configuration is blind: it shows where the configuration comes from, and no secret.
-/
theorem blind_config : configProgram.Blind := by
  refine (blind_fetch _ _).bind fun good => ?_
  cases good with
  | false => exact blind_pure _
  | true =>
    refine blind_look ?_ fun d => ?_
    · intro d d' same
      have config : d'.config = d.config := eq_of_public (fun _ => rfl) same
      have options := congrArg Dashboard.launchOptions same
      cases doc : d.config with
      | none => simp only [config, doc]
      | some doc' =>
        have panel : configPanel doc' d'.launchOptions = configPanel doc' d.launchOptions := by
          rw [← configPanel_withoutSecrets, ← configPanel_withoutSecrets doc' d.launchOptions]
          exact congrArg (configPanel doc') options
        simp only [config, doc, panel]
    · cases d.config <;> exact blind_pure _

/-- Printing a dump is blind. -/
theorem blind_dump (kind : DumpKind) : (dumpProgram kind).Blind := by
  refine (blind_fetch _ _).bind fun good => ?_
  cases good with
  | false => exact blind_pure _
  | true =>
    refine blind_look ?_ fun d => blind_pure _
    intro d d' same
    have text : d'.dumpText kind = d.dumpText kind :=
      eq_of_public (f := fun d => d.dumpText kind) (fun _ => rfl) same
    simp only [text]

/-- Having the service read something again is blind. -/
theorem blind_reload (target : ReloadTarget) : (reloadProgram target).Blind := by
  cases target with
  | tasks =>
    refine blind_reloadTasks.bind fun result => ?_
    cases result with
    | error e => exact blind_pure _
    | ok _ =>
      refine blind_look ?_ fun d => blind_pure _
      intro d d' same
      have tasks : d'.tasks = d.tasks := eq_of_public (fun _ => rfl) same
      simp only [tasks]
  | config =>
    refine blind_reloadConfig.bind fun result => ?_
    cases result <;> exact blind_pure _

/-- Printing the answer to a call is blind, if the call does not ask for launch options. -/
theorem blind_printAnswer {e : Endpoint} (other : e ≠ .launchOptions) (text : e.Answer → String) :
    (printAnswer e text).Blind := by
  refine (blind_ask other).bind fun result => ?_
  cases result <;> exact blind_pure _

/-- Printing a window of the log is blind. -/
theorem blind_log (start : UInt64) (errorsOnly : Bool) : (logProgram start errorsOnly).Blind := by
  refine (blind_ask Endpoint.noConfusion).bind fun result => ?_
  cases result with
  | error f => exact blind_pure _
  | ok page => cases h : logPanel? page start <;> simp only [h] <;> exact blind_pure _

/-- No command sees secrets. -/
theorem blind_program (c : Command) (offset : Offset) : (c.program offset).Blind := by
  cases c with
  | overview watch => exact blind_overview offset
  | tasks query => exact blind_tasks query offset
  | status name watch =>
    cases watch with
    | false => exact blind_printAnswer Endpoint.noConfusion _
    | true => exact blind_pure _
  | task name => exact blind_printAnswer Endpoint.noConfusion _
  | config => exact blind_config
  | dump kind => exact blind_dump kind
  | log start errorsOnly => exact blind_log start errorsOnly
  | reload target => exact blind_reload target

/-! ## Runs -/

/-- An invocation runs alike before services that are alike but for the secrets. -/
theorem Invocation.run_of_alike {i : Invocation} (unwatched : ¬i.command.Watches)
    {client : Client} (connected : i.connect = .ok client) {respond respond' : Request → Response}
    (alike : client.AlikeButSecrets respond respond') (offset : Offset) (polls : Nat) :
    i.run respond' offset polls = i.run respond offset polls := by
  obtain ⟨request, sends⟩ := Invocation.exists_requests connected
  have base : client.base.IsBase :=
    Client.isBase_of_ofAddress (ofAddress_of_connect (Invocation.settings_connect connected))
  obtain ⟨result, -, calls⟩ := blind_program i.command offset _ _ _ (ofSettings i.settings)
    (alike.answers base sends) rfl
  exact i.run_congr connected unwatched sends result calls polls

/-- Two services that are alike but for the secrets in the launch options get the same requests from
every command line without `--watch`, and from both it ends the same: with the same exit code, the
same output and the same error, however the libraries word what they refuse.  What the client finds
wrong with launch options quotes them, and so may differ, but no command reports it.  A command line
that is not read, or that does not connect, ends so before any service. -/
theorem runArguments_blind {environment : String → Option String} {args : List String}
    (unwatched : ∀ i, Invocation.parse environment args = .ok i → ¬i.command.Watches)
    {respond respond' : Request → Response}
    (alike : ∀ i client, Invocation.parse environment args = .ok i → i.connect = .ok client →
      client.AlikeButSecrets respond respond')
    (offset : Offset) (polls : Nat) :
    let ended := runArguments environment args respond offset polls
    let ended' := runArguments environment args respond' offset polls
    exitCode ended'.1 = exitCode ended.1 ∧ standardOutput ended'.1 = standardOutput ended.1 ∧
      (∀ w, errorText w ended'.1 = errorText w ended.1) ∧ ended'.2 = ended.2 ∧ ended' = ended := by
  intro ended ended'
  have same : ended' = ended := by
    show runArguments _ _ _ _ _ = runArguments _ _ _ _ _
    unfold runArguments
    cases parsed : Invocation.parse environment args with
    | error e => rfl
    | ok i =>
      cases connected : i.connect with
      | error f => simp only [Invocation.run, connected]
      | ok client =>
        exact i.run_of_alike (unwatched i parsed) connected (alike i client parsed connected)
          offset polls
  rw [same]
  exact ⟨rfl, rfl, fun _ => rfl, rfl, rfl⟩

/-- A command line that asks for the configuration. -/
def configLine : List String :=
  ["--url", "http://127.0.0.1:2112/console/", "--timeout-ms", "5000", "config"]

/-- The launch options of a service that has a password for its registry, whose address is given as
the JSON text `address`. -/
def optionsBody (address password : String) : List Char :=
  ("\x7b\"retCode\":\"0000\",\"entity\":\x7b\"NacosAddr\":" ++ address ++ ",\"NacosPassword\":\""
    ++ password ++ "\"\x7d\x7d").toList

/-- What these launch options are read as. -/
def optionsDocument (address : Document) (password : String) : Document :=
  .object
    [(some "retCode", .string (some "0000")),
     (some "entity", .object
       [(some "NacosAddr", address), (some "NacosPassword", .string (some password))])]

/-- A service that has the password, and a configuration. -/
def registryService (address password : String) (r : Request) : Response :=
  if r = { method := .get, target := "/console/api/v1/cmdline" } then
    .answered 200 (Text.utf8 (optionsBody address password))
  else .answered 200 (Text.utf8 "\x7b\"retCode\":\"0000\",\"entity\":\x7b\"tasks\":3\x7d\x7d".toList)

/-- The configuration is printed alike whether there is a password or none.  If the address of the
registry is no text, then the launch options are not read, and the client's error quotes the password;
but the command fails alike. -/
theorem runArguments_blind_config :
    let run := fun address password =>
      runArguments (fun _ => none) configLine (registryService address password) 0 0
    let read := fun address password =>
      Endpoint.launchOptions.readText 200 (optionsBody address password)
    run "\"n:1\"" "opensesame" = run "\"n:1\"" "" ∧ run "true" "opensesame" = run "true" "" ∧
      (read "true" "opensesame").isOk = false ∧ read "true" "opensesame" ≠ read "true" "" := by
  intro run read
  have parsed : Invocation.parse (fun _ => none) configLine =
      .ok { reloadInvocation with command := .config } :=
    eq_ok_of_toOption (by decide +kernel)
  have connected : Invocation.connect { reloadInvocation with command := .config } =
      .ok Client.loopback :=
    eq_ok_of_toOption (by decide +kernel)
  have options : Endpoint.launchOptions.request Client.loopback.base =
      .ok { method := .get, target := "/console/api/v1/cmdline" } :=
    eq_ok_of_toOption (by decide +kernel)
  have sent {s : List Char} (plain : s.head? ≠ some '\ufeff') :
      (Response.answered 200 (Text.utf8 s)).text? = some s := by
    rw [Response.text?, Text.Charset.decode_utf8 plain]
  have same {address : String} {d : Document}
      (first : Document.parse? (optionsBody address "") = some (optionsDocument d ""))
      (second : Document.parse? (optionsBody address "opensesame") =
        some (optionsDocument d "opensesame"))
      (plain : (optionsBody address "").head? ≠ some '\ufeff')
      (plain' : (optionsBody address "opensesame").head? ≠ some '\ufeff') :
      run address "opensesame" = run address "" := by
    have alike : (Response.answered 200 (Text.utf8 (optionsBody address ""))).AlikeButSecrets
        (.answered 200 (Text.utf8 (optionsBody address "opensesame"))) :=
      .inr ⟨_, _, _, _, sent plain, sent plain', first, second, rfl⟩
    refine (runArguments_blind ?_ ?_ 0 0).2.2.2.2
    · intro i asked watches
      cases parsed.symm.trans asked
      exact watches
    · intro i client asked made r
      cases parsed.symm.trans asked
      cases connected.symm.trans made
      unfold registryService
      by_cases asksOptions : r = { method := .get, target := "/console/api/v1/cmdline" }
      · rw [if_pos asksOptions, if_pos asksOptions, asksOptions]
        exact .inr ⟨options, alike⟩
      · rw [if_neg asksOptions, if_neg asksOptions]
        exact .inl rfl
  refine ⟨?_, ?_, by decide +kernel, by decide +kernel⟩
  · exact same (d := .string (some "n:1")) (by cbv) (by cbv) (by decide) (by decide)
  · exact same (d := .bool true) (by cbv) (by cbv) (by decide) (by decide)

end IngestConsole.CommandLine
