import IngestConsole.Proofs.Service.Classification
import IngestConsole.Proofs.Url.Schemes
import IngestConsole.Service.Backend
import IngestConsole.Service.Settings

/-!
# Connections

Settings are refused for a malformed address, an unsupported scheme, or a duration that is zero, in
this order; all others connect.  Checking the scheme is enough: the client that is made next does not
refuse the address, and none of its calls is without a URL.
-/

set_option autoImplicit false

namespace IngestConsole.Service

namespace Settings

/-! ## What is checked -/

/-- The scheme of a URL is one under which a service can be reached. -/
def IsReachable (url : Url) : Prop :=
  url.scheme = "http".toList ∨ url.scheme = "https".toList

/-- The address is a URL under whose scheme a service can be reached. -/
def HasAddress (s : Settings) : Prop :=
  ∃ url, Url.parse s.address.toList = .ok url ∧ IsReachable url

/-- The first duration that is zero has this name. -/
def FirstZero (s : Settings) (name : String) : Prop :=
  name = "request_timeout_ms" ∧ s.requestTimeout = 0 ∨
    name = "status_interval_ms" ∧ s.requestTimeout ≠ 0 ∧ s.statusInterval = 0 ∨
    name = "overview_interval_ms" ∧ s.requestTimeout ≠ 0 ∧ s.statusInterval ≠ 0 ∧
      s.overviewInterval = 0

/-- No duration is zero. -/
def HasDurations (s : Settings) : Prop :=
  s.requestTimeout ≠ 0 ∧ s.statusInterval ≠ 0 ∧ s.overviewInterval ≠ 0

/-- The schemes that are accepted are those a service can be reached by. -/
theorem contains_scheme_iff {url : Url} :
    schemes.contains (String.ofList url.scheme) = true ↔ IsReachable url := by
  have named (name : String) : String.ofList url.scheme = name ↔ url.scheme = name.toList := by
    rw [← String.toList_inj, String.toList_ofList]
  simp [schemes, IsReachable, named]

/-- A service can be reached under special schemes only. -/
theorem isSpecial_of_isReachable {url : Url} (reachable : IsReachable url) :
    Url.isSpecial url.scheme = true := by
  rcases reachable with http | https
  · rw [http]
    rfl
  · rw [https]
    rfl

/-- Either all durations are positive, or the first one that is zero is found. -/
theorem zeroDuration?_cases (s : Settings) :
    s.HasDurations ∧ s.zeroDuration? = none ∨
      ∃ d, s.FirstZero d.name ∧ s.zeroDuration? = some d := by
  unfold zeroDuration? Duration.all
  by_cases request : s.requestTimeout = 0
  · exact .inr ⟨.requestTimeout, .inl ⟨rfl, request⟩, by simp [Duration.of, request]⟩
  by_cases status : s.statusInterval = 0
  · exact .inr ⟨.statusInterval, .inr (.inl ⟨rfl, request, status⟩),
      by simp [Duration.of, request, status]⟩
  by_cases overview : s.overviewInterval = 0
  · exact .inr ⟨.overviewInterval, .inr (.inr ⟨rfl, request, status, overview⟩),
      by simp [Duration.of, request, status, overview]⟩
  · exact .inl ⟨⟨request, status, overview⟩, by simp [Duration.of, request, status, overview]⟩

/-- There is one first zero duration at most. -/
theorem firstZero_name_inj {s : Settings} {d d' : Duration} (first : s.FirstZero d.name)
    (first' : s.FirstZero d'.name) : d = d' := by
  cases d <;> cases d' <;> simp_all [FirstZero, Duration.name]

/-- Where all durations are positive none is the first zero. -/
theorem HasDurations.not_firstZero {s : Settings} (durations : s.HasDurations) (name : String) :
    ¬s.FirstZero name := by
  obtain ⟨request, status, overview⟩ := durations
  simp [FirstZero, request, status, overview]

/-! ## What the client makes of a checked address -/

/-- The client does not refuse an address of a scheme that was checked. -/
theorem ofAddress_of_isReachable {address : String} {url : Url}
    (parsed : Url.parse address.toList = .ok url) (reachable : IsReachable url)
    (timeout : UInt64) : Client.ofAddress address timeout = .ok { base := url, timeout } := by
  have segments := Url.segments_of_isSpecial parsed (isSpecial_of_isReachable reachable)
  rw [Client.ofAddress, parsed]
  simp only [segments]
  rfl

/-- A client that was made fails no call for its address. -/
theorem call_ne_invalidUrl {address : String} {timeout : UInt64} {client : Client}
    (made : Client.ofAddress address timeout = .ok client) (respond : Request → Response)
    (e : Endpoint) (reason : String) : client.call respond e ≠ .error (.invalidUrl reason) := by
  obtain ⟨r, sent⟩ := Client.request_of_ofAddress made e
  rw [Client.call_of_request sent]
  exact (classified_read e (respond r)).invalidUrl reason

/-! ## How a connection ends -/

/-- The ways in which settings are checked, in their order. -/
theorem connect_cases (s : Settings) :
    (∃ e, Url.parse s.address.toList = .error e ∧
        s.connect = .error (.settings (.invalidAddress s.address (.malformed e)))) ∨
      (∃ url, Url.parse s.address.toList = .ok url ∧ ¬IsReachable url ∧
        s.connect = .error (.settings (.invalidAddress s.address
          (.unsupportedScheme (String.ofList url.scheme))))) ∨
      (∃ d, s.HasAddress ∧ s.FirstZero d.name ∧
        s.connect = .error (.settings (.zeroDuration d))) ∨
      ∃ url, Url.parse s.address.toList = .ok url ∧ IsReachable url ∧ s.HasDurations ∧
        s.connect = .ok { base := url, timeout := s.requestTimeout } := by
  unfold connect validate addressFault?
  cases parsed : Url.parse s.address.toList with
  | error e => exact .inl ⟨e, rfl, rfl⟩
  | ok url =>
    by_cases reachable : IsReachable url
    · have address : s.HasAddress := ⟨url, parsed, reachable⟩
      simp only [contains_scheme_iff.2 reachable, if_true]
      rcases s.zeroDuration?_cases with ⟨durations, none⟩ | ⟨d, first, found⟩
      · refine .inr (.inr (.inr ⟨url, rfl, reachable, durations, ?_⟩))
        rw [none, ofAddress_of_isReachable parsed reachable]
        rfl
      · refine .inr (.inr (.inl ⟨d, address, first, ?_⟩))
        rw [found]
    · refine .inr (.inl ⟨url, rfl, reachable, ?_⟩)
      simp only [mt contains_scheme_iff.1 reachable]
      rfl

/-- How settings come to a connection. -/
structure ConnectionLaw (s : Settings) : Prop where
  /-- Settings connect exactly if the address can be reached and no duration is zero. -/
  connects : (∃ client, s.connect = .ok client) ↔ s.HasAddress ∧ s.HasDurations
  /-- The connection is to the address of the settings. -/
  client : ∀ client, s.connect = .ok client →
    Url.parse s.address.toList = .ok client.base ∧ client.timeout = s.requestTimeout
  malformed : ∀ address e,
    s.connect = .error (.settings (.invalidAddress address (.malformed e))) ↔
      address = s.address ∧ Url.parse s.address.toList = .error e
  unsupported : ∀ address scheme,
    s.connect = .error (.settings (.invalidAddress address (.unsupportedScheme scheme))) ↔
      address = s.address ∧ ∃ url, Url.parse s.address.toList = .ok url ∧ ¬IsReachable url ∧
        String.ofList url.scheme = scheme
  /-- A duration is refused only if the address is not, and it is the first one that is zero. -/
  zero : ∀ d, s.connect = .error (.settings (.zeroDuration d)) ↔
    s.HasAddress ∧ s.FirstZero d.name
  /-- What was checked is not refused by the client. -/
  checked : ∀ e, s.connect ≠ .error (.client e)
  /-- Every call of the connection sends a request, and none fails for want of a URL, whatever the
  service answers. -/
  requests : ∀ client, s.connect = .ok client → ∀ e : Endpoint,
    (∃ r, e.request client.base = .ok r) ∧
      ∀ respond sent reason,
        ((client.backend respond).call e sent).1 ≠ .error (.invalidUrl reason)

/-- Whatever the settings are, they connect exactly if all of them are valid, else the first thing that
is wrong is told, and a connection never lacks a URL. -/
theorem connect_lawful (s : Settings) : ConnectionLaw s := by
  -- In each case one ending is known, and every field of the law only compares it with others.
  rcases s.connect_cases with ⟨e, parsed, ended⟩ | ⟨url, parsed, unreachable, ended⟩ |
    ⟨d, ⟨url, parsed, reachable⟩, first, ended⟩ | ⟨url, parsed, reachable, durations, ended⟩
  · constructor <;> simp [ended, HasAddress, parsed, eq_comm]
  · constructor <;> simp [ended, HasAddress, parsed, unreachable, eq_comm]
  · have zero : ¬s.HasDurations := fun durations => durations.not_firstZero d.name first
    have only (d' : Duration) : d = d' ↔ s.FirstZero d'.name :=
      ⟨fun same => same ▸ first, firstZero_name_inj first⟩
    constructor <;> simp [ended, HasAddress, parsed, reachable, zero, only, eq_comm]
  · have made := ofAddress_of_isReachable parsed reachable s.requestTimeout
    have calls := call_ne_invalidUrl made
    have sends := Client.request_of_ofAddress made
    constructor <;>
      simp [ended, HasAddress, parsed, reachable, durations, durations.not_firstZero,
        Client.backend, calls, sends]

end Settings

end IngestConsole.Service
