import IngestConsole.Proofs.Json.Records
import IngestConsole.Proofs.Service.TaskNames
import IngestConsole.Proofs.Text.Charsets

/-!
# How a response is classified

How a call ends is settled by the response alone, in one order of precedence for all calls: no
response, a text that is no envelope, a code other than that of success, a missing entity, an entity
of another shape, a good answer.  Envelope calls read the text of the body and never the status; a
dump reads the status and takes the text as it is.
-/

set_option autoImplicit false

namespace IngestConsole.Service

open Json Text Wire

/-! ## What a response holds -/

/-- What the members of an envelope say: its code is a text, its message a text or absent, and its
entity is missing where the member is absent or `null`. -/
structure SpelledBy (env : Envelope) (fs : Fields) : Prop where
  code : fs.lookup "retCode" = some (.string (some env.code))
  message : fs.lookup "retMsg" = some (.string (some env.message)) ∨
    fs.lookup "retMsg" = none ∧ env.message = ""
  entity : env.entity = none ↔ fs.lookup "entity" = none ∨ fs.lookup "entity" = some .null

namespace Response

/-- The text of a response is an envelope. -/
def Holds (r : Response) (env : Envelope) : Prop :=
  ∃ text, r.text? = some text ∧ Envelope.parse? text = some env

/-- There is a response, but its text is no envelope. -/
def HoldsNoEnvelope (r : Response) (text : List Char) : Prop :=
  r.text? = some text ∧ Envelope.parse? text = none

/-- The response has a status that is one of an error. -/
def IsError (r : Response) (status : Nat) : Prop :=
  ∃ body charset, r = .answered status body charset ∧ 400 ≤ status ∧ status < 600

end Response

namespace Endpoint

/-- The call asks for a plain text. -/
def IsDump : Endpoint → Prop
  | dump _ => True
  | _ => False

/-- The call asks for the entity of an envelope. -/
def GivesEntity : Endpoint → Prop
  | reloadTasks => False
  | reloadConfig => False
  | dump _ => False
  | _ => True

/-- The answer that an entity decodes as. -/
def ofEntity? : (e : Endpoint) → Value → Option e.Answer
  | processInfo, v => ProcessInfo.decode? v.document
  | tasks, v => TaskList.decode? v.document
  | taskStatus _, v => StatusSnapshot.decode? v.document
  | config, v => ConfigDocument.ofValue? v
  | launchOptions, v => LaunchOptions.decode? v.document
  | reloadTasks, _ => none
  | reloadConfig, _ => none
  | dump _, _ => none
  | log _ _, v => LogPage.decode? v.document
  | taskConfig _, v => some v

end Endpoint

/-- A response is a good answer to a call: for a reload an envelope with the code of success, for a
dump any text without the status of an error, for any other call an envelope with the code of
success whose entity decodes. -/
def Response.Gives (r : Response) : (e : Endpoint) → e.Answer → Prop
  | .reloadTasks, _ => ∃ env, r.Holds env ∧ env.code = "0000"
  | .reloadConfig, _ => ∃ env, r.Holds env ∧ env.code = "0000"
  | .dump _, text => ∃ status body charset, r = .answered status body charset ∧
      (status < 400 ∨ 600 ≤ status) ∧ String.ofList (charset.decode body) = text
  | e, answer => ∃ env v, r.Holds env ∧ env.code = "0000" ∧ env.entity = some v ∧
      e.ofEntity? v = some answer

/-- A result is what the response to a call makes it, and an error tells of the response what led to
it. -/
structure Classified (e : Endpoint) (r : Response) (result : e.Result) : Prop where
  lost : ∀ report, result = .error (.transport (.lost report)) ↔ r = .dropped report
  errorStatus : ∀ kind status, result = .error (.transport (.errorStatus kind status)) ↔
    e = .dump kind ∧ r.IsError status
  noEnvelope : ∀ subject body, result = .error (.undecodable subject (.noEnvelope body)) ↔
    subject = e.subject ∧ ¬e.IsDump ∧ r.HoldsNoEnvelope body.toList
  mismatch : ∀ subject v, result = .error (.undecodable subject (.mismatch v)) ↔
    subject = e.subject ∧ e.GivesEntity ∧
      ∃ env, r.Holds env ∧ env.code = "0000" ∧ env.entity = some v ∧ e.ofEntity? v = none
  rejected : ∀ code message, result = .error (.envelope (.rejected code message)) ↔
    ¬e.IsDump ∧ ∃ env, r.Holds env ∧ env.code ≠ "0000" ∧ env.code = code ∧ env.message = message
  missing : result = .error (.envelope .missingEntity) ↔
    e.GivesEntity ∧ ∃ env, r.Holds env ∧ env.code = "0000" ∧ env.entity = none
  invalidUrl : ∀ reason, result ≠ .error (.invalidUrl reason)
  ok : ∀ answer, result = .ok answer ↔ r.Gives e answer

/-! ## Envelopes -/

/-- What reads as a text is a string. -/
theorem eq_string_of_text? {d : Document} {s : String} (h : d.text? = some s) :
    d = .string (some s) := by
  cases d with
  | string o => exact congrArg Document.string h
  | _ => cases h

/-- An envelope that is read is spelled by the fields of the body. -/
theorem Envelope.spelledBy_of_parse? {body : List Char} {env : Envelope}
    (h : Envelope.parse? body = some env) :
    ∃ d fs, Document.parse? body = some d ∧ d.fields? Envelope.fieldNames = some fs ∧
      SpelledBy env fs := by
  obtain ⟨d, parsed, h⟩ := Option.bind_eq_some_iff.1 h
  obtain ⟨fs, fields, h⟩ := Option.bind_eq_some_iff.1 h
  obtain ⟨code, codeRead, h⟩ := Option.bind_eq_some_iff.1 h
  obtain ⟨message, messageRead, h⟩ := Option.bind_eq_some_iff.1 h
  obtain ⟨entity, entityRead, h⟩ := Option.bind_eq_some_iff.1 h
  cases h
  refine ⟨d, fs, parsed, fields, ?_, ?_, ?_⟩
  · obtain ⟨m, found, text⟩ := Option.bind_eq_some_iff.1 codeRead
    rw [found, eq_string_of_text? text]
  · rw [Fields.get] at messageRead
    split at messageRead
    · next m found => exact .inl (found.trans (congrArg some (eq_string_of_text? messageRead)))
    · next absent =>
      cases messageRead
      exact .inr ⟨absent, rfl⟩
  · rw [Fields.get] at entityRead
    split at entityRead
    · next m found =>
      rw [found]
      cases entity with
      | none => simp [eq_null_of_optional? entityRead]
      | some v => simp [(of_optional?_eq_some entityRead).1]
    · next absent =>
      cases entityRead
      simp [absent]

/-! ## One response -/

namespace Response

variable {status : Nat} {body : List UInt8} {charset : Charset} {report : Report}

/-- A response holds the envelope that its text is. -/
@[simp] theorem holds_answered {env : Envelope} :
    (answered status body charset).Holds env ↔
      Envelope.parse? (charset.decode body) = some env := by
  simp [Holds, text?]

/-- No response holds no envelope. -/
@[simp] theorem not_holds_dropped {env : Envelope} : ¬(dropped report).Holds env := by
  simp [Holds, text?]

/-- A response holds no envelope if its text is none. -/
@[simp] theorem holdsNoEnvelope_answered {text : List Char} :
    (answered status body charset).HoldsNoEnvelope text ↔
      charset.decode body = text ∧ Envelope.parse? (charset.decode body) = none := by
  rw [HoldsNoEnvelope, text?, Option.some.injEq]
  exact and_congr_right fun same => by rw [same]

/-- Where there is no response, there is no text that is no envelope. -/
@[simp] theorem not_holdsNoEnvelope_dropped {text : List Char} :
    ¬(dropped report).HoldsNoEnvelope text := by
  simp [HoldsNoEnvelope, text?]

/-- A response has its own status. -/
@[simp] theorem isError_answered {n : Nat} :
    (answered status body charset).IsError n ↔ status = n ∧ 400 ≤ n ∧ n < 600 := by
  simp [IsError]

/-- Where there is no response, there is no status. -/
@[simp] theorem not_isError_dropped {n : Nat} : ¬(dropped report).IsError n := by
  simp [IsError]

end Response

/-! ## Calls for an entity -/

/-- The ways in which an envelope is read for its entity, in their order. -/
theorem readEntity_cases {α : Type} (subject : String) (ofValue? : Value → Option α)
    {body : List Char} {env : Envelope} (parsed : Envelope.parse? body = some env) :
    (env.code ≠ "0000" ∧
        readEntity subject ofValue? body = .error (.envelope (.rejected env.code env.message))) ∨
      (env.code = "0000" ∧ env.entity = none ∧
        readEntity subject ofValue? body = .error (.envelope .missingEntity)) ∨
      (∃ v, env.code = "0000" ∧ env.entity = some v ∧ ofValue? v = none ∧
        readEntity subject ofValue? body = .error (.undecodable subject (.mismatch v))) ∨
      ∃ v a, env.code = "0000" ∧ env.entity = some v ∧ ofValue? v = some a ∧
        readEntity subject ofValue? body = .ok a := by
  by_cases success : env.code = "0000"
  · have isSuccess : env.isSuccess = true := beq_iff_eq.2 success
    cases entity : env.entity with
    | none => simp [readEntity, parsed, Envelope.intoEntity, isSuccess, success, entity]
    | some v =>
      cases decoded : ofValue? v <;>
        simp [readEntity, parsed, Envelope.intoEntity, isSuccess, success, entity, decoded]
  · have isSuccess : env.isSuccess = false := beq_false_of_ne success
    simp [readEntity, parsed, Envelope.intoEntity, isSuccess, success]

section Entity

variable {e : Endpoint} (entity : e.GivesEntity)

include entity

/-- An endpoint whose answer is the entity is none for dumps. -/
theorem Endpoint.not_isDump_of_givesEntity : ¬e.IsDump := by
  cases e with
  | dump kind => exact entity.elim
  | _ => exact id

/-- A call for an entity reads the text of the response as an envelope. -/
theorem Endpoint.read_of_givesEntity (status : Nat) (body : List UInt8) (charset : Charset) :
    e.read (.answered status body charset) =
      readEntity e.subject e.ofEntity? (charset.decode body) := by
  cases e with
  | reloadTasks => exact entity.elim
  | reloadConfig => exact entity.elim
  | dump kind => exact entity.elim
  | _ => rfl

/-- A response gives an entity in an envelope of success. -/
theorem Response.gives_of_givesEntity (r : Response) (answer : e.Answer) :
    r.Gives e answer ↔ ∃ env v, r.Holds env ∧ env.code = "0000" ∧ env.entity = some v ∧
      e.ofEntity? v = some answer := by
  cases e with
  | reloadTasks => exact entity.elim
  | reloadConfig => exact entity.elim
  | dump kind => exact entity.elim
  | _ => exact Iff.rfl

/-- A call for an entity is read as it is classified. -/
theorem classified_of_givesEntity (r : Response) : Classified e r (e.read r) := by
  have plain := e.not_isDump_of_givesEntity entity
  have other : ∀ kind, e ≠ .dump kind := fun kind same => plain (same ▸ trivial)
  have gives := Response.gives_of_givesEntity entity r
  cases r with
  | dropped report =>
    constructor <;> simp [Endpoint.read, plain, other, gives]
  | answered status body charset =>
    rw [Endpoint.read_of_givesEntity entity]
    cases parsed : Envelope.parse? (charset.decode body) with
    | none =>
      rw [readEntity, parsed]
      constructor <;>
        simp [noEnvelope, parsed, plain, other, gives, String.ofList_eq, eq_comm (a := e.subject)]
    | some env =>
      rcases readEntity_cases e.subject e.ofEntity? parsed with
        ⟨code, read⟩ | ⟨code, absent, read⟩ | ⟨v, code, present, decoded, read⟩ |
          ⟨v, a, code, present, decoded, read⟩
      · rw [read]
        constructor <;> simp [parsed, plain, other, gives, code]
      · rw [read]
        constructor <;> simp [parsed, plain, other, gives, code, absent, entity]
      · rw [read]
        constructor <;> simp [parsed, plain, other, gives, code, present, decoded, entity, eq_comm]
      · rw [read]
        constructor <;> simp [parsed, plain, other, gives, code, present, decoded, eq_comm]

end Entity

/-! ## Reloads and dumps -/

/-- The ways in which an envelope is read for its code. -/
theorem readAck_cases (subject : String) {body : List Char} {env : Envelope}
    (parsed : Envelope.parse? body = some env) :
    (env.code ≠ "0000" ∧
        readAck subject body = .error (.envelope (.rejected env.code env.message))) ∨
      (env.code = "0000" ∧ readAck subject body = .ok ()) := by
  by_cases success : env.code = "0000"
  · have isSuccess : env.isSuccess = true := beq_iff_eq.2 success
    simp [readAck, parsed, Envelope.intoAck, isSuccess, success, Except.mapError]
  · have isSuccess : env.isSuccess = false := beq_false_of_ne success
    simp [readAck, parsed, Envelope.intoAck, isSuccess, success, Except.mapError]

/-- A reload is read as it is classified. -/
theorem classified_reload {e : Endpoint} (reload : e = .reloadTasks ∨ e = .reloadConfig)
    (r : Response) : Classified e r (e.read r) := by
  rcases reload with rfl | rfl
  all_goals
    cases r with
    | dropped report =>
      constructor <;> simp [Endpoint.read, Endpoint.IsDump, Endpoint.GivesEntity, Response.Gives]
    | answered status body charset =>
      rw [Endpoint.read, Endpoint.readText]
      cases parsed : Envelope.parse? (charset.decode body) with
      | none =>
        rw [readAck, parsed]
        constructor <;>
          simp [noEnvelope, parsed, Endpoint.IsDump, Endpoint.GivesEntity, Response.Gives,
            String.ofList_eq, eq_comm (a := Endpoint.subject _)]
      | some env =>
        rcases readAck_cases _ parsed with ⟨code, read⟩ | ⟨code, read⟩
        · rw [read]
          constructor <;>
            simp [parsed, code, Endpoint.IsDump, Endpoint.GivesEntity, Response.Gives]
        · rw [read]
          constructor <;>
            simp [parsed, code, Endpoint.IsDump, Endpoint.GivesEntity, Response.Gives]

/-- A dump is read as it is classified. -/
theorem classified_dump (kind : DumpKind) (r : Response) :
    Classified (.dump kind) r ((Endpoint.dump kind).read r) := by
  cases r with
  | dropped report =>
    constructor <;> simp [Endpoint.read, Endpoint.IsDump, Endpoint.GivesEntity, Response.Gives]
  | answered status body charset =>
    have read : (Endpoint.dump kind).read (.answered status body charset) =
        if 400 ≤ status ∧ status < 600 then .error (.transport (.errorStatus kind status))
        else .ok (String.ofList (charset.decode body)) := by
      simp [Endpoint.read, Endpoint.readText, isErrorStatus]
    rw [read]
    split
    · next error =>
      constructor
      case errorStatus =>
        intro other n
        rw [Response.isError_answered]
        constructor
        · intro same
          cases same
          exact ⟨rfl, rfl, error⟩
        · rintro ⟨same, rfl, -⟩
          cases same
          rfl
      all_goals simp [error, Endpoint.IsDump, Endpoint.GivesEntity, Response.Gives]
    · next fine =>
      have outside : status < 400 ∨ 600 ≤ status := by omega
      constructor <;> simp [outside, Endpoint.IsDump, Endpoint.GivesEntity, Response.Gives]
      omega

/-- Every response is read as its kind. -/
theorem classified_read (e : Endpoint) (r : Response) : Classified e r (e.read r) := by
  cases e with
  | reloadTasks => exact classified_reload (.inl rfl) r
  | reloadConfig => exact classified_reload (.inr rfl) r
  | dump kind => exact classified_dump kind r
  | _ =>
    apply classified_of_givesEntity
    trivial

/-! ## Clients -/

/-- A client that was made has a request for every endpoint. -/
theorem Client.request_of_ofAddress {address : String} {timeout : UInt64} {client : Client}
    (h : Client.ofAddress address timeout = .ok client) (e : Endpoint) :
    ∃ r, e.request client.base = .ok r := by
  rw [Endpoint.request, Endpoint.url, if_neg]
  · exact ⟨_, rfl⟩
  · exact Bool.eq_false_iff.1 (Client.isBase_of_ofAddress h).segments

/-- A call is the response to its request, read. -/
theorem Client.call_of_request {client : Client} {e : Endpoint} {r : Request}
    (sent : e.request client.base = .ok r) (respond : Request → Response) :
    client.call respond e = e.read (respond r) := by
  rw [Client.call, sent]

/-- Responses with one text are read alike by an envelope call, whatever their status, and whatever
bytes in whatever charset that text is read from. -/
theorem Endpoint.read_congr {e : Endpoint} (plain : ¬e.IsDump) {r r' : Response} {text : List Char}
    (here : r.text? = some text) (there : r'.text? = some text) : e.read r' = e.read r := by
  cases r with
  | dropped report => cases here
  | answered status body charset =>
    cases r' with
    | dropped report => cases there
    | answered status' body' charset' =>
      have same : charset'.decode body' = charset.decode body :=
        Option.some.inj (there.trans here.symm)
      cases e with
      | dump kind => exact absurd trivial plain
      | _ => simp only [Endpoint.read, same, Endpoint.readText]

/-- Every call of a client sends a request, and the response alone settles how the call ends.  An
envelope call depends on nothing but the text that the response is read as, and the envelope is what
the members of that text say.  A body that has no byte order mark of UTF-16, in a response that names
UTF-8 or no charset, is read as UTF-8 with replacement, less a byte order mark. -/
theorem call_classified {address : String} {timeout : UInt64} {client : Client}
    (h : Client.ofAddress address timeout = .ok client) (respond : Request → Response)
    (e : Endpoint) :
    ∃ r, e.request client.base = .ok r ∧
      Classified e (respond r) (client.call respond e) ∧
      (¬e.IsDump → ∀ (other : Request → Response) text,
        (respond r).text? = some text → (other r).text? = some text →
          client.call other e = client.call respond e) ∧
      (∀ text env, (respond r).text? = some text → Envelope.parse? text = some env →
        ∃ d fs, Document.parse? text = some d ∧ d.fields? Envelope.fieldNames = some fs ∧
          SpelledBy env fs) ∧
      ∀ status body, respond r = .answered status body .utf8 → ¬IsMarkedUtf16 body →
        (respond r).text? = some (decodeUtf8 body) := by
  obtain ⟨r, sent⟩ := Client.request_of_ofAddress h e
  refine ⟨r, sent, ?_, ?_, ?_, ?_⟩
  · rw [Client.call_of_request sent]
    exact classified_read e (respond r)
  · intro plain other text here there
    rw [Client.call_of_request sent, Client.call_of_request sent]
    exact Endpoint.read_congr plain here there
  · intro text env _ parsed
    exact Envelope.spelledBy_of_parse? parsed
  · intro status body answered unmarked
    rw [answered, Response.text?, Charset.decode_of_unmarked unmarked]

/-- A refusal without an entity. -/
def refusedText : List Char :=
  "\x7b\"retCode\":\"7\",\"retMsg\":\"busy\"\x7d".toList

/-- A refusal is reported as one, although it has no entity and the status of an error. -/
theorem call_classified_loopback :
    Client.ofAddress "http://127.0.0.1:2112/console/" 5000 = .ok Client.loopback ∧
      Client.loopback.call (fun _ => .answered 500 (utf8 refusedText)) .tasks =
        .error (.envelope (.rejected "7" "busy")) := by
  obtain ⟨r, -, classified, -⟩ := call_classified Client.ofAddress_loopback
    (fun _ => .answered 500 (utf8 refusedText)) .tasks
  refine ⟨Client.ofAddress_loopback, (classified.rejected "7" "busy").2 ⟨id, ?_⟩⟩
  have parts : (Envelope.parse? refusedText).map (fun env => (env.code, env.message)) =
      some ("7", "busy") := by
    decide +kernel
  obtain ⟨env, parsed, same⟩ := Option.map_eq_some_iff.1 parts
  obtain ⟨code, message⟩ := Prod.mk.inj same
  have held : (Response.answered 500 (utf8 refusedText)).Holds env := by
    rw [Response.holds_answered, Charset.decode_utf8 (by decide)]
    exact parsed
  exact ⟨env, held, by rw [code]; decide, code, message⟩

/-- A good answer to a reload. -/
def acknowledgedText : List Char :=
  "\x7b\"retCode\":\"0000\"\x7d".toList

/-- What a response is read as is not its body read as UTF-8, and not settled by the body.  An answer
is good also in UTF-16, behind a byte order mark or where the response names that charset, although
its body read as UTF-8 is no envelope; where the response names no charset, the same bytes without a
mark are no answer. -/
theorem call_classified_utf16 :
    let body := utf16 .littleEndian acknowledgedText
    let call := fun response => Client.loopback.call (fun _ => response) .reloadTasks
    Envelope.parse? (decodeUtf8 ([0xff, 0xfe] ++ body)) = none ∧
      Envelope.parse? (decodeUtf8 body) = none ∧
      call (.answered 200 ([0xff, 0xfe] ++ body)) = .ok () ∧
      call (.answered 200 body (.utf16 .littleEndian)) = .ok () ∧
      call (.answered 200 body) ≠ .ok () := by
  intro body call
  obtain ⟨r, sent⟩ := Client.request_of_ofAddress Client.ofAddress_loopback .reloadTasks
  have classified (response : Response) : Classified .reloadTasks response (call response) := by
    show Classified _ _ (Client.loopback.call _ _)
    rw [Client.call_of_request sent]
    exact classified_read .reloadTasks response
  have good (response : Response) (reads : response.text? = some acknowledgedText) :
      call response = .ok () := by
    have code : (Envelope.parse? acknowledgedText).map (·.code) = some "0000" := by decide +kernel
    obtain ⟨env, parsed, success⟩ := Option.map_eq_some_iff.1 code
    exact ((classified response).ok ()).2 ⟨env, ⟨_, reads, parsed⟩, success⟩
  refine ⟨by decide +kernel, by decide +kernel, good _ ?_, good _ ?_, ?_⟩
  · rw [Response.text?, (Charset.decode_utf16 .utf8 acknowledgedText).1]
  · decide +kernel
  · intro answered
    obtain ⟨env, held, -⟩ := ((classified _).ok ()).1 answered
    have none_held : Envelope.parse? (Charset.utf8.decode body) = none := by decide +kernel
    rw [Response.holds_answered, none_held] at held
    cases held

end IngestConsole.Service
