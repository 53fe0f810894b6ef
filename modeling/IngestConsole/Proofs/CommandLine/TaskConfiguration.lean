import IngestConsole.Proofs.CommandLine.Unwatched
import IngestConsole.Proofs.Text.Utf8
import IngestConsole.Proofs.Wire.RoundTrip
import IngestConsole.Proofs.Wire.SpelledEnvelope

/-!
# The configuration of a task

What a service spells in an envelope is printed as a text of the same value: no key, no item, no
escaped character and no digit of an integer is lost between the two.
-/

set_option autoImplicit false

namespace IngestConsole.CommandLine

open Calendar Json Service Wire

/-- Whatever value without floating-point numbers a service carries in an envelope, in whatever
spelling, what is printed is a text of that value, and is read as that value. -/
theorem task_prints_entity {i : Invocation} {name : String} (command : i.command = .task name)
    {client : Client} (connected : i.connect = .ok client) {r : Request}
    (sent : (Endpoint.taskConfig name).request client.base = .ok r) {e : Value}
    (exactly : e.IsExact) (present : e ≠ .null) (shallow : e.nesting ≤ 126) {body : List Char}
    (carries : CarriesEntity e body) {respond : Request → Response} {status : Nat}
    (answered : respond r = .answered status (Text.utf8 body)) (offset : Offset) (polls : Nat) :
    ∃ printed : String, i.run respond offset polls = (.ok printed, [r]) ∧
      IsTextOf e printed.toList ∧ Value.parse? printed.toList = some e := by
  have unwatched : ¬i.command.Watches := by
    rw [command]
    exact id
  have asks : i.command.program offset =
      printAnswer (.taskConfig name) fun v => String.ofList v.pretty ++ "\n" := by
    rw [command]
    rfl
  -- the bytes are read as the text that they encode, and that as the envelope of the entity
  have plain : body.head? ≠ some '\ufeff' := by
    obtain ⟨fields, spelled, -⟩ := carries
    exact head?_of_isTextOf spelled
  obtain ⟨message, parsed⟩ := parse?_of_carriesEntity carries present shallow
  have gives : (respond r).Gives (.taskConfig name) e := by
    refine ⟨{ code := "0000", message, entity := some e }, e, ?_, rfl, rfl, rfl⟩
    rw [answered, Response.holds_answered, Text.Charset.decode_utf8 plain]
    exact parsed
  have run := Invocation.run_answered connected unwatched asks sent gives rfl polls
  -- what was read is in order, and is printed as a text of itself
  have ordered : e.IsOrdered := by
    obtain ⟨d, -, decoded⟩ := Option.bind_eq_some_iff.1 parsed
    exact (Envelope.entity_of_decodeWithin? decoded rfl).1
  have text : (String.ofList e.pretty ++ "\n").toList = e.pretty ++ ['\n'] := by
    simp
  have spelled : IsTextOf e (e.pretty ++ ['\n']) :=
    isTextOf_pretty ordered exactly (gap_cons (.inr (.inl rfl)) (gap_refl []))
  have within : e.nesting ≤ depthLimit := by
    unfold depthLimit
    omega
  refine ⟨_, run, ?_, ?_⟩
  · rw [text]
    exact spelled
  · rw [text]
    exact parse?_of_isTextOf spelled within

/-- A value of everything that is rarely seen: quotes, control characters, what is empty, and the
limits of the integers. -/
def rareValue : Value :=
  .object
    [("", .array []), ("\"\\/\n\x01", .array [.null, .object [], .bool false, .string "\x7f é"]),
     ("limits", .array [.number (.int ⟨-9223372036854775808, by decide, by decide⟩),
       .number (.int ⟨18446744073709551615, by decide, by decide⟩)])]

/-- Nothing of it is lost. -/
theorem task_prints_entity_rare :
    ∃ printed : String,
      Invocation.run { reloadInvocation with command := .task "a" }
          (fun _ => .answered 200 (Text.utf8 (Envelope.success rareValue).encode.pretty)) 0 0 =
        (.ok printed, [{ method := .get, target := "/console/api/v1/task/a" }]) ∧
      IsTextOf rareValue printed.toList ∧ Value.parse? printed.toList = some rareValue := by
  have connected : Invocation.connect { reloadInvocation with command := .task "a" } =
      .ok Client.loopback :=
    eq_ok_of_toOption (by decide +kernel)
  have sent : (Endpoint.taskConfig "a").request Client.loopback.base =
      .ok { method := .get, target := "/console/api/v1/task/a" } :=
    eq_ok_of_toOption (by decide +kernel)
  have ordered : rareValue.IsOrdered := by
    refine ⟨?_, ?_⟩
    · unfold Ascending
      decide
    · exact ⟨trivial, ⟨trivial, ⟨List.Pairwise.nil, trivial⟩, trivial, trivial, trivial⟩,
        ⟨trivial, trivial, trivial⟩, trivial⟩
  have exactly : rareValue.IsExact :=
    ⟨trivial, ⟨trivial, trivial, trivial, trivial, trivial⟩, ⟨trivial, trivial, trivial⟩, trivial⟩
  have shallow : rareValue.nesting ≤ 126 := by
    decide
  exact task_prints_entity rfl connected sent exactly Value.noConfusion shallow
    (carriesEntity_pretty ordered exactly) rfl 0 0

end IngestConsole.CommandLine
