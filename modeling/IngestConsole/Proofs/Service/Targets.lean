import IngestConsole.Proofs.Service.TaskNames
import IngestConsole.Proofs.Url.Delimiters

/-!
# The target of every request

Every call has a documented method, path and query.  Its request is sent to that path below the path
of the base URL without the slash at its end, and a server that cuts the target finds that path and
that query.  A base path of two slashes loses both of them.
-/

set_option autoImplicit false

namespace IngestConsole.Service

open Url Wire

/-! ## What is documented -/

namespace Endpoint

/-- The task that a call names. -/
def task? : Endpoint → Option String
  | taskStatus task => some task
  | taskConfig task => some task
  | _ => none

/-- The documented method of a call. -/
def documentedMethod : Endpoint → String
  | reloadTasks => "POST"
  | reloadConfig => "POST"
  | _ => "GET"

/-- The documented path of a call, where `segment` stands for the name of the task. -/
def documentedPath (segment : String) : Endpoint → String
  | processInfo => "/api/v1/metrics/procinfo"
  | tasks => "/api/v1/tasks"
  | taskStatus _ => "/api/v1/tasks/" ++ segment ++ "/status"
  | config => "/api/v1/config"
  | launchOptions => "/api/v1/cmdline"
  | reloadTasks => "/api/v1/tasks/refresh"
  | reloadConfig => "/api/v1/config/refresh"
  | dump .heap => "/debug/pprof/heap"
  | dump .goroutine => "/debug/pprof/goroutine"
  | dump .metrics => "/metrics"
  | log _ _ => "/api/v1/log"
  | taskConfig _ => "/api/v1/task/" ++ segment

/-- The documented query of a call. -/
def documentedQuery : Endpoint → Option String
  | dump .heap => some "debug=1"
  | dump .goroutine => some "debug=1"
  | log start true => some ("from=" ++ toString start.toNat ++ "&error=true")
  | log start false => some ("from=" ++ toString start.toNat)
  | _ => none

end Endpoint

/-- A segment that stands for a name: nothing in it ends the segment or the path, and it decodes to
the bytes of the name. -/
structure StandsFor (segment name : String) : Prop where
  whole : ∀ c ∈ segment.toList, c ≠ '/' ∧ c ≠ '?' ∧ c ≠ '#'
  decoded : percentDecode segment.toList = Text.utf8 name.toList

/-- A request is the documented one of a call behind the path `before`. -/
structure SentBelow (before : List Char) (e : Endpoint) (r : Request) : Prop where
  method : r.method.name = e.documentedMethod
  target : ∃ segment : String, (∀ name, e.task? = some name → StandsFor segment name) ∧
    r.target = String.ofList before ++ e.documentedPath segment ++
      (match e.documentedQuery with
        | some query => "?" ++ query
        | none => "") ∧
    splitTail r.target.toList = {
      path := before ++ (e.documentedPath segment).toList
      query := e.documentedQuery.map String.toList
      fragment := none }

/-! ## Methods and queries -/

namespace Endpoint

/-- Every endpoint is called by the method that is documented. -/
theorem method_eq_documented (e : Endpoint) : e.method.name = e.documentedMethod := by
  cases e <;> rfl

/-- Every endpoint is called with the query that is documented. -/
theorem query_eq_documented (e : Endpoint) : e.query = e.documentedQuery := by
  have decimal : ∀ n : Nat, Numeral.natText n = toString n := fun n => rfl
  cases e with
  | dump kind => cases kind <;> rfl
  | log start errorsOnly => cases errorsOnly <;> simp [query, documentedQuery, decimal]
  | _ => rfl

/-- The segments of a call without a name are words, and spell the documented path. -/
theorem segments_eq_documented {e : Endpoint} (unnamed : e.task? = none) (segment : String) :
    (∀ w ∈ e.segments.map String.toList, isWord w = true) ∧
      ((e.segments.map String.toList).flatMap fun w => '/' :: w) =
        (e.documentedPath segment).toList := by
  cases e with
  | taskStatus task => cases unnamed
  | taskConfig task => cases unnamed
  | dump kind => cases kind <;> simp [segments, DumpKind.segments, documentedPath] <;> decide
  | _ => simp [segments, documentedPath]; decide

/-- Without a task the path is the documented one below the base. -/
theorem path_of_task?_eq_none {base : Url} (h : base.IsBase) {e : Endpoint}
    (unnamed : e.task? = none) (segment : String) :
    e.path base = basePrefix base.path ++ (e.documentedPath segment).toList := by
  obtain ⟨words, text⟩ := segments_eq_documented unnamed segment
  have ne : e.segments.map String.toList ≠ [] := by
    cases e with
    | dump kind => cases kind <;> exact List.cons_ne_nil _ _
    | _ => exact List.cons_ne_nil _ _
  rw [Endpoint.path, appendSegments_basePrefix h.rooted ne words, text]

/-- Without a task the documented path has no delimiter. -/
theorem noDelimiter_documentedPath_of_unnamed {e : Endpoint} (unnamed : e.task? = none)
    (segment : String) : NoDelimiter (e.documentedPath segment).toList := by
  obtain ⟨words, text⟩ := segments_eq_documented unnamed segment
  rw [← text]
  intro c hc
  obtain ⟨w, mem, here⟩ := List.mem_flatMap.1 hc
  exact (noDelimiter_of_isWord (words w mem)).cons (by decide) c here

end Endpoint

/-! ## Paths -/

/-- An endpoint with a task is one of the calls about a task. -/
theorem exists_taskCall_of_task? {e : Endpoint} {name : String} (named : e.task? = some name) :
    ∃ call : TaskCall, e = call.endpoint name := by
  cases e with
  | taskStatus task =>
    cases named
    exact ⟨.status, rfl⟩
  | taskConfig task =>
    cases named
    exact ⟨.config, rfl⟩
  | _ => cases named

/-- The documented path of a call about a task has the segment of the task between fixed words. -/
theorem TaskCall.documentedPath_endpoint (call : TaskCall) (name segment : String) :
    ((call.endpoint name).documentedPath segment).toList =
      root.toList ++ '/' :: call.parent.toList ++ '/' :: segment.toList ++ call.rest.toList := by
  cases call <;> simp [endpoint, Endpoint.documentedPath, root, parent, rest]

/-- The encoded name of a task stands for it. -/
theorem OrdinaryName.standsFor {name : String} (ordinary : OrdinaryName name) (special : Bool) :
    StandsFor (String.ofList (percentEncode (inSegmentSet special) name.toList)) name where
  whole c hc := by
    rw [String.toList_ofList] at hc
    have segment : IsSegment special (percentEncode (inSegmentSet special) name.toList) :=
      isSegment_percentEncode ordinary.1 ordinary.2.1
    obtain ⟨inside, question, number⟩ := segment.whole c hc
    refine ⟨?_, question, number⟩
    rintro rfl
    cases inside
  decoded := by
    rw [String.toList_ofList, percentDecode_percentEncode (percent_mem_segmentSet special)]

/-- The path of a call is the documented one below what is left of the base path. -/
theorem exists_documentedPath {base : Url} (h : base.IsBase) {e : Endpoint}
    (ordinary : ∀ name, e.task? = some name → OrdinaryName name) :
    ∃ segment, (∀ name, e.task? = some name → StandsFor segment name) ∧
      e.path base = basePrefix base.path ++ (e.documentedPath segment).toList ∧
      NoDelimiter (e.documentedPath segment).toList := by
  cases named : e.task? with
  | none =>
    refine ⟨"", fun name some => ?_, Endpoint.path_of_task?_eq_none h named "",
      Endpoint.noDelimiter_documentedPath_of_unnamed named ""⟩
    cases some
  | some name =>
    obtain ⟨call, rfl⟩ := exists_taskCall_of_task? named
    have plain := ordinary name named
    let encoded := percentEncode (inSegmentSet (isSpecial base.scheme)) name.toList
    have stands : StandsFor (String.ofList encoded) name := plain.standsFor _
    refine ⟨String.ofList encoded, fun other same => ?_, ?_, ?_⟩
    · cases same
      exact stands
    · rw [call.path_endpoint h, plain.addition_eq, call.documentedPath_endpoint]
      simp [Addition.below, encoded]
    · rw [call.documentedPath_endpoint]
      have root : NoDelimiter TaskCall.root.toList := by simp [NoDelimiter, TaskCall.root]
      have rest : NoDelimiter call.rest.toList := by
        cases call <;> simp [NoDelimiter, TaskCall.rest]
      have parent := (noDelimiter_of_isWord call.isWord_parent).cons (c := '/') (by decide)
      have segment : NoDelimiter (String.ofList encoded).toList := fun c hc => (stands.whole c hc).2
      exact ((root.append parent).append (segment.cons (by decide))).append rest

/-! ## Requests -/

/-- No query has a number sign. -/
theorem number_not_mem_query {e : Endpoint} {query : String} (h : e.documentedQuery = some query) :
    '#' ∉ query.toList := by
  have decimal : ∀ n : Nat, '#' ∉ (toString n).toList := by
    intro n mem
    have text : (toString n).toList = Nat.toDigits 10 n := String.toList_ofList
    rw [text] at mem
    exact absurd (Nat.isDigit_of_mem_toDigits (by decide) (by decide) mem) (by decide)
  cases e with
  | dump kind => cases kind <;> cases h <;> simp
  | log start errorsOnly =>
    cases errorsOnly <;> cases h <;> simpa using decimal start.toNat
  | _ => cases h

/-- What is left of a base path is a part of it. -/
theorem noDelimiter_basePrefix {path : List Char} (plain : NoDelimiter path) :
    NoDelimiter (basePrefix path) := by
  have shorter : NoDelimiter (stem path) := by
    unfold stem
    split
    · exact plain.of_subset (List.dropLast_subset path)
    · exact plain
  unfold basePrefix
  split
  · exact noDelimiter_nil
  · exact shorter

/-- Every request for an ordinary name is sent below the path of the base. -/
theorem sentBelow_basePrefix {base : Url} (h : base.IsBase) (plain : NoDelimiter base.path)
    {e : Endpoint} (ordinary : ∀ name, e.task? = some name → OrdinaryName name) :
    ∃ r, e.request base = .ok r ∧ SentBelow (basePrefix base.path) e r := by
  obtain ⟨segment, stands, path, documented⟩ := exists_documentedPath h ordinary
  have whole := (noDelimiter_basePrefix plain).append documented
  let u : Url := { base with path := e.path base, query := e.query.map String.toList }
  refine ⟨{ method := e.method, target := String.ofList u.target }, ?_,
    e.method_eq_documented, segment, stands, ?_⟩
  · rw [Endpoint.request, Endpoint.url, h.segments, if_neg Bool.false_ne_true]
    rfl
  · have below : u.path = basePrefix base.path ++ (e.documentedPath segment).toList := path
    have query : u.query = e.documentedQuery.map String.toList := by
      rw [← e.query_eq_documented]
    rw [Url.target, below, query]
    cases asked : e.documentedQuery with
    | none =>
      have cut := splitTail_of_noDelimiter whole
      exact ⟨by simp, by simpa using cut⟩
    | some query =>
      have cut := splitTail_append whole (number_not_mem_query asked)
      refine ⟨by simp [String.append_assoc], ?_⟩
      rw [String.toList_ofList]
      exact cut

/-- The documented path follows its first slash with a letter. -/
theorem documentedPath_eq_cons (e : Endpoint) (segment : String) :
    ∃ c rest, (e.documentedPath segment).toList = '/' :: c :: rest ∧ c ≠ '/' := by
  cases e with
  | dump kind => cases kind <;> simp [Endpoint.documentedPath]
  | _ => simp [Endpoint.documentedPath]

/-- Below a path of two slashes no request is the documented one. -/
theorem not_sentBelow_slash {e : Endpoint} {r : Request} (h : SentBelow [] e r) :
    ¬SentBelow ['/'] e r := by
  intro h'
  obtain ⟨segment, -, -, cut⟩ := h.target
  obtain ⟨other, -, -, cut'⟩ := h'.target
  obtain ⟨c, rest, text, ne⟩ := documentedPath_eq_cons e segment
  obtain ⟨d, rest', text', -⟩ := documentedPath_eq_cons e other
  have paths := congrArg Tail.path (cut.symm.trans cut')
  rw [text, text'] at paths
  exact ne (List.cons.inj (List.cons.inj paths).2).1

/-- Every call of a client sends a request of the documented method, path and query, and of nothing
from the query and the fragment of the base URL.  The path stands below the base path without the
slash at its end, unless the base path is two slashes: then it stands below nothing. -/
theorem request_documented {address : String} {timeout : UInt64} {client : Client}
    (h : Client.ofAddress address timeout = .ok client) (e : Endpoint)
    (ordinary : ∀ name, e.task? = some name → OrdinaryName name) :
    ∃ r, e.request client.base = .ok r ∧
      (SentBelow (stem client.base.path) e r ↔ client.base.path ≠ ['/', '/']) ∧
      (client.base.path = ['/', '/'] → SentBelow [] e r) ∧
      ∀ query fragment, e.request { client.base with query, fragment } = .ok r := by
  obtain ⟨parsed, segments⟩ := Client.parse_of_ofAddress h
  have plain := noDelimiter_of_parse parsed segments
  obtain ⟨r, sent, below⟩ := sentBelow_basePrefix (Client.isBase_of_ofAddress h) plain ordinary
  have lost : client.base.path = ['/', '/'] → SentBelow [] e r := by
    intro two
    rw [two] at below
    exact below
  refine ⟨r, sent, ⟨fun documented two => ?_, fun ne => ?_⟩, lost, fun query fragment => ?_⟩
  · rw [two] at documented
    exact not_sentBelow_slash (lost two) documented
  · rw [← basePrefix_eq_stem_iff.2 ne]
    exact below
  · rw [← sent, Endpoint.request, Endpoint.request, Endpoint.url, Endpoint.url, segments]
    rfl

/-- The name of a task with delimiters, below a base path with a slash at its end. -/
theorem request_documented_loopback :
    Client.ofAddress "http://127.0.0.1:2112/console/" 5000 = .ok Client.loopback ∧
      ∃ r, (Endpoint.taskStatus "a/b?").request Client.loopback.base = .ok r ∧
        SentBelow "/console".toList (.taskStatus "a/b?") r := by
  have ordinary : ∀ name, (Endpoint.taskStatus "a/b?").task? = some name → OrdinaryName name := by
    intro name same
    cases same
    exact ⟨by decide, by decide, by simp [isLayout]⟩
  obtain ⟨r, sent, below, -, -⟩ :=
    request_documented Client.ofAddress_loopback (.taskStatus "a/b?") ordinary
  have ne : Client.loopback.base.path ≠ ['/', '/'] := by decide +kernel
  exact ⟨Client.ofAddress_loopback, r, sent, below.2 ne⟩

/-- The client of a service on this host, below a path of two slashes. -/
def Client.slashes : Client where
  base := { Client.loopback.base with path := ['/', '/'] }
  timeout := 5000

/-- Below a base path of two slashes the request for the tasks lacks a slash. -/
theorem request_not_documented_slashes :
    Client.ofAddress "http://127.0.0.1:2112//" 5000 = .ok Client.slashes ∧
      Endpoint.tasks.request Client.slashes.base =
        .ok { method := .get, target := "/api/v1/tasks" } ∧
      ¬SentBelow (stem Client.slashes.base.path) .tasks
        { method := .get, target := "/api/v1/tasks" } := by
  have base : Client.slashes.base.IsBase := ⟨rfl, .inr rfl⟩
  have plain : NoDelimiter Client.slashes.base.path :=
    noDelimiter_slash.cons (by decide)
  have unnamed : ∀ name, Endpoint.tasks.task? = some name → OrdinaryName name := nofun
  have target : Endpoint.tasks.request Client.slashes.base =
      .ok { method := .get, target := "/api/v1/tasks" } := by
    decide +kernel
  obtain ⟨r, sent, below⟩ := sentBelow_basePrefix base plain unnamed
  cases target.symm.trans sent
  exact ⟨eq_ok_of_toOption (by decide +kernel), target, not_sentBelow_slash below⟩

end IngestConsole.Service
