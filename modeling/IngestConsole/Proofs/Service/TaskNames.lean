import IngestConsole.Proofs.Url.BasePath
import IngestConsole.Service.Client

/-!
# The name of a task in a request

Two calls name a task, each in a segment of its own below the base URL.  A name that is a dot or two
dots adds no segment, and one that becomes two dots without tabs and line ends takes back the
segment before it; every other name is confined to its segment.  Two names give one request exactly
when they come to the same segment, so names that differ only in tabs and line ends are confused.
-/

set_option autoImplicit false

namespace IngestConsole.Service

open Url

/-! ## Calls about one task -/

/-- A call that names a task. -/
inductive TaskCall
  | status
  | config
  deriving DecidableEq, Repr

namespace TaskCall

/-- The call about the task with a name. -/
def endpoint : TaskCall → String → Endpoint
  | status => .taskStatus
  | config => .taskConfig

/-- The segment before the one of the name. -/
def parent : TaskCall → String
  | status => "tasks"
  | config => "task"

/-- What follows the segment of the name. -/
def rest : TaskCall → String
  | status => "/status"
  | config => ""

/-- What stands before the name of a task is a word. -/
theorem isWord_parent (call : TaskCall) : isWord call.parent.toList = true := by
  cases call <;> rfl

/-- Where the calls about tasks start below a base URL. -/
def root : String :=
  "/api/v1"

/-- The path of a call up to what the name comes to. -/
theorem appendSegments_name (call : TaskCall) (special isFile : Bool) {path : List Char}
    (rooted : path = [] ∨ StartsWithSlash path) (name : List Char) :
    appendSegments special isFile (dropEmptySegment path)
      ["api".toList, "v1".toList, call.parent.toList, name] =
        basePrefix path ++ root.toList ++ (addition name).below special call.parent.toList := by
  let before := ["api".toList, "v1".toList, call.parent.toList]
  have words : ∀ w ∈ before, isWord w = true := by
    simp only [before, List.forall_mem_cons]
    exact ⟨rfl, rfl, call.isWord_parent, List.forall_mem_nil _⟩
  have parent : appendSegments special isFile (dropEmptySegment path) before =
      basePrefix path ++ root.toList ++ '/' :: call.parent.toList := by
    rw [appendSegments_basePrefix rooted (List.cons_ne_nil _ _) words]
    simp [root]
  show appendSegment special isFile (appendSegments special isFile _ before) name = _
  rw [parent, appendSegment_below call.isWord_parent]

/-- The path of a call: the base path, the segments of the call, and what the name comes to. -/
theorem path_endpoint (call : TaskCall) {base : Url} (h : base.IsBase) (name : String) :
    (call.endpoint name).path base = basePrefix base.path ++ root.toList ++
      (addition name.toList).below (isSpecial base.scheme) call.parent.toList ++
        call.rest.toList := by
  have named := call.appendSegments_name (isSpecial base.scheme) (isFile base.scheme) h.rooted
    name.toList
  cases call with
  | config => exact named.trans (List.append_nil _).symm
  | status =>
    have status : isWord "status".toList = true := rfl
    have long : (basePrefix base.path ++ root.toList ++
        (addition name.toList).below (isSpecial base.scheme)
          TaskCall.status.parent.toList).length ≠ 1 := by
      have seven : root.toList.length = 7 := rfl
      simp only [List.length_append]
      omega
    refine (congrArg (appendSegment _ _ · "status".toList) named).trans ?_
    exact appendSegment_word long status

/-- The request for a call about a task, part by part. -/
theorem request_endpoint (call : TaskCall) {base : Url} (h : base.IsBase) (name : String) :
    (call.endpoint name).request base =
      .ok { method := .get, target := String.ofList ((call.endpoint name).path base) } := by
  have no_query : (call.endpoint name).query = none := by cases call <;> rfl
  have get : (call.endpoint name).method = .get := by cases call <;> rfl
  simp [Endpoint.request, Endpoint.url, h.segments, no_query, get, Url.target, Except.map]

/-- The paths of the two calls differ behind the base path, whatever the names are. -/
theorem status_ne_config (special : Bool) (a b : Addition) :
    a.below special status.parent.toList ++ status.rest.toList ≠
      b.below special config.parent.toList ++ config.rest.toList := by
  intro same
  cases a <;> cases b <;> simp [Addition.below, parent, rest] at same

/-- A path tells which call it is for and what the name came to. -/
theorem below_parent_inj {call other : TaskCall} {special : Bool} {a b : Addition}
    (same : a.below special call.parent.toList ++ call.rest.toList =
      b.below special other.parent.toList ++ other.rest.toList) :
    call = other ∧ a = b := by
  by_cases calls : call = other
  · subst calls
    exact ⟨rfl, Addition.below_injective (ne_nil_of_isWord call.isWord_parent)
      (List.append_cancel_right same)⟩
  · cases call with
    | status =>
      cases other with
      | status => exact absurd rfl calls
      | config => exact absurd same (status_ne_config special a b)
    | config =>
      cases other with
      | status => exact absurd same.symm (status_ne_config special b a)
      | config => exact absurd rfl calls

/-- Two requests are one exactly when they are for the same call and the names come to the same. -/
theorem request_eq_iff {call other : TaskCall} {base : Url} (h : base.IsBase) {a b : String} :
    (call.endpoint a).request base = (other.endpoint b).request base ↔
      call = other ∧ addition a.toList = addition b.toList := by
  rw [call.request_endpoint h, other.request_endpoint h, call.path_endpoint h,
    other.path_endpoint h]
  constructor
  · intro same
    have paths := String.ofList_injective (congrArg Request.target (Except.ok.inj same))
    rw [List.append_assoc, List.append_assoc _ _ other.rest.toList] at paths
    exact below_parent_inj (List.append_cancel_left paths)
  · rintro ⟨rfl, additions⟩
    rw [additions]

/-- The request of a call keeps the name in one segment: before it stand the base path without the
slash at its end and the segments of the call, behind it what follows a name. -/
def Confined (call : TaskCall) (base : Url) (name : String) : Prop :=
  ∃ segment, IsSegment (isSpecial base.scheme) segment ∧
    (call.endpoint name).request base = .ok {
      method := .get
      target := String.ofList
        (stem base.path ++ root.toList ++ ('/' :: call.parent.toList ++ '/' :: segment) ++
          call.rest.toList) }

/-- A name is confined exactly when it adds a segment, below a base path that keeps a slash. -/
theorem confined_iff {call : TaskCall} {base : Url} (h : base.IsBase) {name : String} :
    call.Confined base name ↔
      base.path ≠ ['/', '/'] ∧ ∃ t, addition name.toList = .segment t := by
  unfold Confined
  rw [call.request_endpoint h, call.path_endpoint h]
  constructor
  · rintro ⟨segment, -, same⟩
    have paths := List.append_cancel_right
      (String.ofList_injective (congrArg Request.target (Except.ok.inj same)))
    have ne : base.path ≠ ['/', '/'] := by
      intro two
      simp [two, basePrefix, stem, endsWithSlash, root] at paths
    rw [basePrefix_eq_stem_iff.2 ne] at paths
    have lengths := congrArg List.length (List.append_cancel_left paths)
    refine ⟨ne, ?_⟩
    rw [Addition.length_below, List.length_append, List.length_cons, List.length_cons] at lengths
    cases added : addition name.toList with
    | segment t => exact ⟨t, rfl⟩
    | nothing =>
      simp only [added] at lengths
      omega
    | takesBack =>
      simp only [added] at lengths
      omega
  · rintro ⟨ne, t, added⟩
    refine ⟨_, isSegment_of_addition added, ?_⟩
    rw [basePrefix_eq_stem_iff.2 ne, added]
    rfl

end TaskCall

/-! ## Clients -/

/-- The base of a client is a URL with segments that was read. -/
theorem Client.parse_of_ofAddress {address : String} {timeout : UInt64} {client : Client}
    (h : Client.ofAddress address timeout = .ok client) :
    Url.parse address.toList = .ok client.base ∧ client.base.isOpaque = false := by
  unfold Client.ofAddress at h
  split at h
  · cases h
  · next base parsed =>
    split at h
    · cases h
    · next segments =>
      cases h
      exact ⟨parsed, Bool.eq_false_iff.2 segments⟩

/-- A client that was made has a base that paths can be added to. -/
theorem Client.isBase_of_ofAddress {address : String} {timeout : UInt64} {client : Client}
    (h : Client.ofAddress address timeout = .ok client) : client.base.IsBase := by
  obtain ⟨parsed, segments⟩ := Client.parse_of_ofAddress h
  exact isBase_of_parse parsed segments

/-- A name that is not a dot or two dots and holds no tab and no line end. -/
def OrdinaryName (name : String) : Prop :=
  name.toList ≠ ['.'] ∧ name.toList ≠ ['.', '.'] ∧ ∀ c ∈ name.toList, isLayout c = false

/-- An ordinary name is added as a segment of its own. -/
theorem OrdinaryName.addition_eq {name : String} (h : OrdinaryName name) :
    addition name.toList = .segment name.toList := by
  obtain ⟨single, double, plain⟩ := h
  refine addition_of_dropLayout_eq (List.filter_eq_self.2 ?_) single double
  intro c hc
  rw [plain c hc, Bool.not_false]

/-- When a client confines the name of a task.  It does so exactly if the name is not a dot, is not
two dots after tabs and line ends are dropped, and the base path is not two slashes.  Two calls send
one request exactly if they are the same call and the names come to the same addition, so ordinary
names are told apart. -/
theorem taskName_confined_iff {address : String} {timeout : UInt64} {client : Client}
    (h : Client.ofAddress address timeout = .ok client) :
    (∀ (call : TaskCall) (name : String), call.Confined client.base name ↔
      client.base.path ≠ ['/', '/'] ∧ name.toList ≠ ['.'] ∧
        dropLayout name.toList ≠ ['.', '.']) ∧
    (∀ (call other : TaskCall) (a b : String),
      (call.endpoint a).request client.base = (other.endpoint b).request client.base ↔
        call = other ∧ addition a.toList = addition b.toList) ∧
    (∀ (call : TaskCall) (a b : String), OrdinaryName a → OrdinaryName b →
      ((call.endpoint a).request client.base = (call.endpoint b).request client.base ↔
        a = b)) := by
  have base := Client.isBase_of_ofAddress h
  refine ⟨?_, ?_, ?_⟩
  · intro call name
    rw [TaskCall.confined_iff base, addition_eq_segment_iff]
  · intro call other a b
    exact TaskCall.request_eq_iff base
  · intro call a b ordinary_a ordinary_b
    rw [TaskCall.request_eq_iff base, ordinary_a.addition_eq, ordinary_b.addition_eq,
      Addition.segment.injEq, String.toList_inj, and_iff_right rfl]

/-- The client of a service on this host, below a path. -/
def Client.loopback : Client where
  base :=
    { scheme := "http".toList
      authority := some { host := .ipv4 0x7f000001, port := some 2112 }
      path := "/console/".toList }
  timeout := 5000

/-- What is there when errors are forgotten was a success. -/
theorem eq_ok_of_toOption {ε α : Type} {x : Except ε α} {a : α} (h : x.toOption = some a) :
    x = .ok a := by
  cases x with
  | error e => cases h
  | ok b => rw [Option.some.inj h]

/-- The loopback address makes the loopback client. -/
theorem Client.ofAddress_loopback :
    Client.ofAddress "http://127.0.0.1:2112/console/" 5000 = .ok Client.loopback :=
  eq_ok_of_toOption (by decide +kernel)

/-- A name with a slash is confined, and is not the name with that slash encoded. -/
theorem taskName_confined_loopback :
    Client.ofAddress "http://127.0.0.1:2112/console/" 5000 = .ok Client.loopback ∧
    TaskCall.status.Confined Client.loopback.base "a/b" ∧
    (Endpoint.taskConfig "a/b").request Client.loopback.base ≠
      (Endpoint.taskConfig "a%2Fb").request Client.loopback.base := by
  obtain ⟨confined, same_iff, -⟩ := taskName_confined_iff Client.ofAddress_loopback
  refine ⟨Client.ofAddress_loopback, ?_, ?_⟩
  · exact (confined .status "a/b").2 ⟨by decide, by decide, by decide⟩
  · intro same
    exact absurd ((same_iff .config .config "a/b" "a%2Fb").1 same).2 (by decide)

/-- The name of two dots adds no segment, that of two dots around a tab takes one back, and a name
with a tab is the name without it. -/
theorem taskName_not_confined_loopback :
    Client.ofAddress "http://127.0.0.1:2112/console/" 5000 = .ok Client.loopback ∧
    (Endpoint.taskStatus "..").request Client.loopback.base =
      .ok { method := .get, target := "/console/api/v1/tasks/status" } ∧
    ¬ TaskCall.status.Confined Client.loopback.base ".." ∧
    (Endpoint.taskStatus ".\t.").request Client.loopback.base =
      .ok { method := .get, target := "/console/api/v1//status" } ∧
    ¬ TaskCall.status.Confined Client.loopback.base ".\t." ∧
    "a\tb" ≠ "ab" ∧
    (Endpoint.taskStatus "a\tb").request Client.loopback.base =
      (Endpoint.taskStatus "ab").request Client.loopback.base := by
  have base : Client.loopback.base.IsBase := ⟨rfl, .inr rfl⟩
  have loses : ∀ name : String, dropLayout name.toList = ['.', '.'] →
      ¬TaskCall.status.Confined Client.loopback.base name := by
    intro name dots confined
    have added := ((TaskCall.confined_iff base).1 confined).2
    exact (addition_eq_segment_iff.1 added).2 dots
  exact ⟨Client.ofAddress_loopback, by decide, loses _ rfl, by decide, loses _ rfl, by decide,
    by decide⟩

end IngestConsole.Service
