import IngestConsole.Proofs.Json.Fieldwise
import IngestConsole.Proofs.Service.Classification
import IngestConsole.Proofs.Service.Targets

/-!
# Secrets in launch options

The launch options name the account that the service has at its registry, with its password, and
what it looks for there.  None of this is shown.  Two bodies that differ only in the texts of these
secrets are read as launch options that differ only in them, or both are not read at all; and no
other call reads the response to the request for launch options.
-/

set_option autoImplicit false

namespace IngestConsole

open Json Url

/-! ## Blank texts -/

namespace Json

/-- The document with an empty text in the place of a text. -/
def Document.blank : Document → Document
  | .string (some _) => .string (some "")
  | d => d

/-- The value with an empty text in the place of a text. -/
def Value.blank : Value → Value
  | .string _ => .string ""
  | v => v

/-- Blanks the fields with the names. -/
def Document.blankAt (secrets : List String) (name : String) (d : Document) : Document :=
  if secrets.contains name then d.blank else d

/-- Blanks the fields with the names. -/
def Value.blankAt (secrets : List String) (name : String) (v : Value) : Value :=
  if secrets.contains name then v.blank else v

/-- A document may be blanked before or after it is read as a value. -/
theorem value?_blank (depth : Nat) (d : Document) :
    d.blank.value? depth = (d.value? depth).map Value.blank := by
  cases d with
  | string s => cases s <;> rfl
  | number n => cases n <;> rfl
  | array items =>
    cases depth with
    | zero => rfl
    | succ depth =>
      simp only [Document.blank, Document.value?, Option.map_map]
      rfl
  | object members =>
    cases depth with
    | zero => rfl
    | succ depth =>
      simp only [Document.blank, Document.value?, Option.map_map]
      rfl
  | _ => rfl

/-- A value may be blanked before or after it is written as a document. -/
theorem document_blank (v : Value) : v.blank.document = v.document.blank := by
  cases v <;> rfl

/-- A blanked text reads as the empty one, and what is no text reads as none. -/
theorem text?_blank (d : Document) : d.blank.text? = d.text?.map fun _ => "" := by
  cases d with
  | string s => cases s <;> rfl
  | _ => rfl

section

variable (secrets : List String) (name : String)

/-- A field may be blanked before or after it is read as a value. -/
theorem value?_blankAt (d : Document) (depth : Nat) :
    (d.blankAt secrets name).value? depth = (d.value? depth).map (Value.blankAt secrets name) := by
  unfold Document.blankAt Value.blankAt
  split
  · exact value?_blank depth d
  · exact Option.map_id'.symm

/-- A field may be blanked before or after it is written as a document. -/
theorem document_blankAt (v : Value) :
    (v.blankAt secrets name).document = v.document.blankAt secrets name := by
  unfold Document.blankAt Value.blankAt
  split
  · exact document_blank v
  · rfl

end

section Get

variable {secrets : List String} {name : String} (fs : Fields) {α β : Type} {change : β → β}

/-- Blanking the secrets does not change how the other fields are read. -/
theorem get_of_public (shown : secrets.contains name = false) (read : Document → Option α)
    (default : α) :
    Fields.get (mapNamed (Document.blankAt secrets) fs) name read default =
      fs.get name read default := by
  have same : Document.blankAt secrets name = id := by
    funext d
    rw [Document.blankAt, shown, if_neg Bool.false_ne_true]
    rfl
  rw [get_mapNamed, same]
  rfl

/-- A secret is read as the empty text once it is blanked. -/
theorem get_of_secret (hidden : secrets.contains name = true) :
    Fields.get (mapNamed (Document.blankAt secrets) fs) name Document.text? "" =
      (fs.get name Document.text? "").map fun _ => "" := by
  have blank : Document.blankAt secrets name = Document.blank := by
    funext d
    rw [Document.blankAt, if_pos hidden]
  rw [get_mapNamed, blank]
  unfold Fields.get
  split
  · next d found => exact text?_blank d
  · rfl

variable {fs}

/-- Reading goes on from a field that is no secret with what was there. -/
theorem bind_get_of_public (shown : secrets.contains name = false) {read : Document → Option α}
    {default : α} {next next' : α → Option β} (goesOn : ∀ a, next' a = (next a).map change) :
    (Fields.get (mapNamed (Document.blankAt secrets) fs) name read default).bind next' =
      ((fs.get name read default).bind next).map change := by
  rw [get_of_public fs shown, funext goesOn, Option.map_bind]
  rfl

/-- Reading goes on from a secret with the empty text. -/
theorem bind_get_of_secret (hidden : secrets.contains name = true)
    {next next' : String → Option β} (goesOn : ∀ a, next' "" = (next a).map change) :
    (Fields.get (mapNamed (Document.blankAt secrets) fs) name Document.text? "").bind next' =
      ((fs.get name Document.text? "").bind next).map change := by
  rw [get_of_secret fs hidden]
  cases fs.get name Document.text? "" with
  | none => rfl
  | some a => exact goesOn a

end Get

end Json

namespace Wire

/-! ## Launch options -/

namespace LaunchOptions

/-- The names of the fields that are not shown. -/
def secretNames : List String :=
  ["NacosGroup", "NacosUsername", "NacosPassword", "NacosDataID", "NacosServiceName"]

/-- Launch options with their secrets blanked. -/
def withoutSecrets (o : LaunchOptions) : LaunchOptions :=
  { o with
    registryGroup := "", registryUsername := "", registryPassword := "", registryDataId := ""
    registryServiceName := "" }

/-- Launch options as text, with their secrets blanked. -/
def blankSecrets (d : Document) : Document :=
  d.mapFields (Document.blankAt secretNames) fieldNames

/-- A free-form value with the secrets of launch options blanked. -/
def blankSecretsOf (v : Value) : Value :=
  v.mapFields (Value.blankAt secretNames) fieldNames

/-- What is read without the secrets is what is read, without them. -/
theorem decode?_blankSecrets (d : Document) :
    decode? (blankSecrets d) = (decode? d).map withoutSecrets := by
  unfold decode? blankSecrets
  rw [fields?_mapFields]
  cases d.fields? fieldNames with
  | none => rfl
  | some fs =>
    -- field by field, in their order
    refine bind_get_of_public rfl fun logLevel => ?_
    refine bind_get_of_public rfl fun logPaths => ?_
    refine bind_get_of_public rfl fun httpHost => ?_
    refine bind_get_of_public rfl fun httpPort => ?_
    refine bind_get_of_public rfl fun localFile => ?_
    refine bind_get_of_public rfl fun registryAddr => ?_
    refine bind_get_of_public rfl fun registryNamespace => ?_
    refine bind_get_of_secret rfl fun registryGroup => ?_
    refine bind_get_of_secret rfl fun registryUsername => ?_
    refine bind_get_of_secret rfl fun registryPassword => ?_
    refine bind_get_of_secret rfl fun registryDataId => ?_
    refine bind_get_of_secret rfl fun registryServiceName => ?_
    rfl

/-- The secrets of a document may be blanked before or after it is read as a value. -/
theorem value?_blankSecrets (depth : Nat) (d : Document) :
    (blankSecrets d).value? depth = (d.value? depth).map blankSecretsOf :=
  value?_mapFields fieldNames (value?_blankAt secretNames) depth d

/-- The secrets of a value may be blanked before or after it is written as a document. -/
theorem document_blankSecretsOf (v : Value) :
    (blankSecretsOf v).document = blankSecrets v.document :=
  document_mapFields fieldNames (document_blankAt secretNames) v

end LaunchOptions

/-! ## Envelopes of launch options -/

namespace Envelope

/-- An envelope of launch options with their secrets blanked. -/
def withoutSecrets (e : Envelope) : Envelope :=
  { e with entity := e.entity.map LaunchOptions.blankSecretsOf }

/-- An envelope of launch options as text, with their secrets blanked. -/
def blankSecrets (d : Document) : Document :=
  d.mapFields (fun name d => if name = "entity" then LaunchOptions.blankSecrets d else d) fieldNames

/-- The secrets of optional launch options may be blanked before or after they are read. -/
theorem optional?_blankSecrets (depth : Nat) (d : Document) :
    Document.optional? (·.value? depth) (LaunchOptions.blankSecrets d) =
      (Document.optional? (·.value? depth) d).map (Option.map LaunchOptions.blankSecretsOf) := by
  have value := LaunchOptions.value?_blankSecrets depth d
  cases d with
  | null => rfl
  | _ =>
    have read : ∀ d : Document, d ≠ .null →
        Document.optional? (·.value? depth) d = (d.value? depth).map some := by
      intro d present
      cases d with
      | null => exact absurd rfl present
      | _ => rfl
    rw [read _ (by simp [LaunchOptions.blankSecrets, Document.mapFields]), read _ (by simp), value,
      Option.map_map, Option.map_map]
    rfl

/-- Launch options without secrets are read from a document with blanked secrets. -/
theorem decode?_blankSecrets (d : Document) :
    decode? (blankSecrets d) = (decode? d).map withoutSecrets := by
  unfold decode? decodeWithin? blankSecrets
  rw [fields?_mapFields]
  cases d.fields? fieldNames with
  | none => rfl
  | some fs =>
    let f : String → Document → Document := fun name d =>
      if name = "entity" then LaunchOptions.blankSecrets d else d
    have code : Fields.require (mapNamed f fs) "retCode" Document.text? =
        fs.require "retCode" Document.text? := by
      rw [Fields.require, Fields.require, lookup_mapNamed]
      cases fs.lookup "retCode" <;> rfl
    have message : Fields.get (mapNamed f fs) "retMsg" Document.text? "" =
        fs.get "retMsg" Document.text? "" := by
      rw [get_mapNamed]
      rfl
    have entity : Fields.get (mapNamed f fs) "entity"
          (Document.optional? (·.value? (depthLimit - 1))) none =
        (fs.get "entity" (Document.optional? (·.value? (depthLimit - 1))) none).map
          (Option.map LaunchOptions.blankSecretsOf) := by
      rw [get_mapNamed]
      unfold Fields.get
      split
      · next d found => exact optional?_blankSecrets _ d
      · rfl
    simp only [Option.map_some, Option.bind_eq_bind, Option.bind_some, f] at code message entity ⊢
    rw [code, message, entity]
    cases fs.require "retCode" Document.text? with
    | none => rfl
    | some code =>
      cases fs.get "retMsg" Document.text? "" with
      | none => rfl
      | some message =>
        cases fs.get "entity" (Document.optional? (·.value? (depthLimit - 1))) none <;> rfl

end Envelope

end Wire

namespace Service

open Wire

/-! ## Responses -/

/-- Two responses are the same, or their texts are so once the secrets of launch options are
blanked. -/
def Response.AlikeButSecrets (r r' : Response) : Prop :=
  r' = r ∨ ∃ text text' d d',
    r.text? = some text ∧ r'.text? = some text' ∧
      Document.parse? text = some d ∧ Document.parse? text' = some d' ∧
      Envelope.blankSecrets d' = Envelope.blankSecrets d

/-- Two answers to the call for launch options are alike but for the secrets, or both are failures.
What the failures say may differ: a text that is no answer is reported with the error. -/
def OptionsAlike (result result' : Endpoint.launchOptions.Result) : Prop :=
  result'.toOption.map LaunchOptions.withoutSecrets =
    result.toOption.map LaunchOptions.withoutSecrets

/-- Values alike but for secrets are read as launch options alike but for secrets, or both are
refused. -/
theorem decode?_withoutSecrets {v v' : Value}
    (alike : LaunchOptions.blankSecretsOf v' = LaunchOptions.blankSecretsOf v) :
    (LaunchOptions.decode? v'.document).map LaunchOptions.withoutSecrets =
      (LaunchOptions.decode? v.document).map LaunchOptions.withoutSecrets := by
  rw [← LaunchOptions.decode?_blankSecrets, ← LaunchOptions.decode?_blankSecrets,
    ← LaunchOptions.document_blankSecretsOf, ← LaunchOptions.document_blankSecretsOf, alike]

/-- What is read of a text whose envelope is successful. -/
theorem readEntity_of_success {α : Type} (subject : String) (ofValue? : Value → Option α)
    {body : List Char} {env : Envelope} (parsed : Envelope.parse? body = some env)
    (success : env.isSuccess = true) {v : Value} (entity : env.entity = some v) :
    (readEntity subject ofValue? body).toOption = ofValue? v := by
  rw [readEntity, parsed]
  simp only [Envelope.intoEntity, success, entity, if_true]
  cases ofValue? v <;> rfl

/-- Envelopes that are alike but for the secrets give launch options that are so, or both give
none. -/
theorem readEntity_withoutSecrets (subject : String) {body body' : List Char}
    (alike : (Envelope.parse? body').map Envelope.withoutSecrets =
      (Envelope.parse? body).map Envelope.withoutSecrets) :
    OptionsAlike (readEntity subject (LaunchOptions.decode? ·.document) body)
      (readEntity subject (LaunchOptions.decode? ·.document) body') := by
  unfold OptionsAlike
  cases parsed : Envelope.parse? body with
  | none =>
    rw [parsed] at alike
    have parsed' := Option.map_eq_none_iff.1 alike
    simp only [readEntity, parsed, parsed', noEnvelope, Except.toOption]
  | some env =>
    rw [parsed] at alike
    obtain ⟨env', parsed', same⟩ := Option.map_eq_some_iff.1 alike
    rcases env with ⟨code, message, entity⟩
    rcases env' with ⟨code', message', entity'⟩
    obtain ⟨rfl, rfl, entities⟩ := Envelope.mk.inj same
    cases success : code' == successCode with
    | false => simp [readEntity, parsed, parsed', Envelope.intoEntity, Envelope.isSuccess, success]
    | true =>
      cases entity with
      | none =>
        have absent : entity' = none := Option.map_eq_none_iff.1 entities
        simp only [readEntity, parsed, parsed', absent]
      | some v =>
        obtain ⟨v', rfl, values⟩ := Option.map_eq_some_iff.1 entities
        rw [readEntity_of_success subject _ parsed success rfl,
          readEntity_of_success subject _ parsed' success rfl]
        exact decode?_withoutSecrets values

/-- Responses that are alike but for the secrets are read so. -/
theorem Response.AlikeButSecrets.read {r r' : Response} (alike : r.AlikeButSecrets r') :
    OptionsAlike (Endpoint.launchOptions.read r) (Endpoint.launchOptions.read r') := by
  rcases alike with rfl | ⟨text, text', d, d', reads, reads', parsed, parsed', same⟩
  · rfl
  · cases r with
    | dropped report => cases reads
    | answered status body charset =>
      cases r' with
      | dropped report => cases reads'
      | answered status' body' charset' =>
        apply readEntity_withoutSecrets
        rw [Option.some.inj reads, Option.some.inj reads', Envelope.parse?, Envelope.parse?, parsed,
          parsed', Option.bind_some, Option.bind_some, ← Envelope.decode?_blankSecrets,
          ← Envelope.decode?_blankSecrets, same]

/-! ## Requests -/

/-- A request asks for the path of its endpoint and its query. -/
theorem target_of_request {base : Url} (h : base.IsBase) {e : Endpoint} {r : Request}
    (sent : e.request base = .ok r) :
    r.target.toList = e.path base ++ e.query.elim [] fun query => '?' :: query.toList := by
  rw [Endpoint.request, Endpoint.url, h.segments, if_neg Bool.false_ne_true] at sent
  cases sent
  rw [String.toList_ofList, Url.target]
  cases e.query <;> rfl

/-- No other call sends the request for the launch options. -/
theorem eq_launchOptions_of_request {base : Url} (h : base.IsBase) {e : Endpoint} {r : Request}
    (sent : e.request base = .ok r) (options : Endpoint.launchOptions.request base = .ok r) :
    e = .launchOptions := by
  have same := (target_of_request h sent).symm.trans (target_of_request h options)
  rw [Endpoint.path_of_task?_eq_none h (e := .launchOptions) rfl "", List.append_assoc] at same
  -- behind the base path one character is enough to tell the two apart, and it is not in a name
  cases named : e.task? with
  | none =>
    rw [Endpoint.path_of_task?_eq_none h named "", List.append_assoc] at same
    have rest := List.append_cancel_left same
    cases e with
    | launchOptions => rfl
    | taskStatus task => cases named
    | taskConfig task => cases named
    | config => exact absurd rest (by decide)
    | reloadConfig => exact absurd rest (by decide)
    | dump kind => cases kind <;> exact absurd rest (by decide)
    | log start errorsOnly => simp [Endpoint.documentedPath] at rest
    | _ => exact absurd rest (by decide)
  | some name =>
    obtain ⟨call, rfl⟩ := exists_taskCall_of_task? named
    rw [call.path_endpoint h, List.append_assoc, List.append_assoc, List.append_assoc] at same
    have rest := List.append_cancel_left same
    generalize addition name.toList = added at rest
    cases call <;> cases added <;>
      simp [TaskCall.root, TaskCall.endpoint, TaskCall.parent, TaskCall.rest, Addition.below,
        Endpoint.documentedPath, Endpoint.query] at rest

/-! ## Answers -/

/-- Two ways to answer all calls that are alike but for the secrets in the launch options. -/
structure AnswersAlike (answer answer' : (e : Endpoint) → e.Result) : Prop where
  others : ∀ e, e ≠ .launchOptions → answer' e = answer e
  options : OptionsAlike (answer .launchOptions) (answer' .launchOptions)

/-- Two services give the same response to every request, but for the secrets in what they respond
to the request for the launch options. -/
def Client.AlikeButSecrets (client : Client) (respond respond' : Request → Response) : Prop :=
  ∀ r, respond' r = respond r ∨
    Endpoint.launchOptions.request client.base = .ok r ∧ (respond r).AlikeButSecrets (respond' r)

/-- A client gets answers from such services that are alike but for the secrets. -/
theorem Client.AlikeButSecrets.answers {client : Client} (base : client.base.IsBase)
    {request : Endpoint → Request}
    (sends : ∀ e : Endpoint, e.request client.base = .ok (request e))
    {respond respond' : Request → Response} (alike : client.AlikeButSecrets respond respond') :
    AnswersAlike (client.call respond) (client.call respond') where
  others e other := by
    rw [Client.call_of_request (sends e), Client.call_of_request (sends e)]
    rcases alike (request e) with same | ⟨options, -⟩
    · rw [same]
    · exact absurd (eq_launchOptions_of_request base (sends e) options) other
  options := by
    rw [Client.call_of_request (sends .launchOptions),
      Client.call_of_request (sends .launchOptions)]
    rcases alike (request .launchOptions) with same | ⟨-, same⟩
    · rw [same]
      rfl
    · exact same.read

end Service

end IngestConsole
