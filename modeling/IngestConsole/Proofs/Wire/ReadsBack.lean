import IngestConsole.Proofs.Json.Scalars
import IngestConsole.Proofs.Wire.RoundTrip

/-!
# Records on the wire

A record that was read is written without `null`, keeps the texts and the numbers as they stood,
and is read back unchanged.  An optional field that was absent stays absent.
-/

set_option autoImplicit false

namespace IngestConsole

open Json

/-- What a writer owes to the reader of the same record.  `scalars` lists the fields that hold a
text or an integer, with what is written where such a field is absent. -/
structure ReadsBack {α : Type} (names : List String) (scalars : List (String × Option Value))
    (read? : Document → Option α) (write : α → Value) : Prop where
  /-- What was read is read back. -/
  again : ∀ d a, read? d = some a → read? (write a).document = some a
  /-- A record is written as an object of its fields; none of them is `null`. -/
  present : ∀ a, ∃ members, write a = .object members ∧ ∀ m ∈ members, m.1 ∈ names ∧ m.2 ≠ .null
  /-- Texts and integers are written as they stood. -/
  verbatim : ∀ d a fs, read? d = some a → d.fields? names = some fs →
    ∀ f ∈ scalars, (write a).member? f.1 = fs.scalar? f.1 f.2

namespace Wire

/-! ## Tasks -/

/-- The texts and integers of a task. -/
def Task.scalars : List (String × Option Value) :=
  [("Name", some (.text "")), ("Cluster", some (.text "")), ("Table", some (.text "")),
   ("Topic", some (.text "")), ("ConsumerGroup", some (.text "")), ("Type", none),
   ("Status", none), ("Lag", some (.int64 0)), ("WriteSpeed", none), ("LastUpdate", none),
   ("ColPolicy", none), ("Rate", none)]

/-- A task is written with the scalars that it was read from. -/
theorem Task.verbatim {d : Document} {t : Task} {fs : Fields} (h : Task.decode? d = some t)
    (fields : d.fields? Task.fieldNames = some fs) :
    ∀ f ∈ Task.scalars, t.encode.member? f.1 = fs.scalar? f.1 f.2 := by
  simp only [Task.decode?, fields, bind, Option.bind_some, Option.bind_eq_some_iff, pure] at h
  obtain ⟨name, nameRead, cluster, clusterRead, table, tableRead, topic, topicRead, group,
    groupRead, kind, kindRead, status, statusRead, lag, lagRead, speed, speedRead, update,
    updateRead, policy, policyRead, rate, rateRead, h⟩ := h
  cases h
  simp only [Task.scalars, List.forall_mem_cons, Task.encode,
    (Task.isRecord _).member?_ofMembers (by decide), verbatim_text.default nameRead,
    verbatim_text.default clusterRead, verbatim_text.default tableRead,
    verbatim_text.default topicRead, verbatim_text.default groupRead,
    verbatim_text.optional kindRead, verbatim_text.optional statusRead,
    verbatim_int64.default lagRead, verbatim_text.optional speedRead,
    verbatim_int64.optional updateRead, verbatim_text.optional policyRead,
    verbatim_int64.optional rateRead]
  simp [Task.members, List.lookup_append, List.lookup_cons, lookup_optionalMember,
    TaskKind.text_ofText, TaskStatus.text_ofText, Function.comp_def]

/-- Tasks read back. -/
theorem Task.readsBack :
    ReadsBack Task.fieldNames Task.scalars Task.decode? Task.encode where
  again _ t _ := t.decode?_encode
  present t := t.isRecord.written
  verbatim _ _ _ := Task.verbatim

/-- The integer of a list of tasks. -/
def TaskList.scalars : List (String × Option Value) :=
  [("Total", some (.uint64 0))]

/-- A list of tasks is written with the scalars that it was read from. -/
theorem TaskList.verbatim {d : Document} {l : TaskList} {fs : Fields}
    (h : TaskList.decode? d = some l) (fields : d.fields? TaskList.fieldNames = some fs) :
    ∀ f ∈ TaskList.scalars, l.encode.member? f.1 = fs.scalar? f.1 f.2 := by
  simp only [TaskList.decode?, fields, bind, Option.bind_some, Option.bind_eq_some_iff, pure] at h
  obtain ⟨tasks, -, total, totalRead, h⟩ := h
  cases h
  simp only [TaskList.scalars, List.forall_mem_cons, TaskList.encode,
    (TaskList.isRecord _).member?_ofMembers (by decide), verbatim_uint64.default totalRead]
  simp [TaskList.members, List.lookup_cons]

/-- Lists of tasks read back. -/
theorem TaskList.readsBack :
    ReadsBack TaskList.fieldNames TaskList.scalars TaskList.decode? TaskList.encode where
  again _ l _ := l.decode?_encode
  present l := l.isRecord.written
  verbatim _ _ _ := TaskList.verbatim

/-! ## Status snapshots -/

/-- Timestamps are read as they are written. -/
theorem verbatim_timestamp : Verbatim Timestamp.decode? Timestamp.encode := by
  intro d t h
  cases d with
  | number n =>
    obtain ⟨ms, read, rfl⟩ := Option.map_eq_some_iff.1 h
    exact verbatim_int64 _ ms read
  | string o =>
    obtain ⟨s, rfl, rfl⟩ := Option.map_eq_some_iff.1 h
    rfl
  | _ => cases h

/-- The texts and integers of a status snapshot. -/
def StatusSnapshot.scalars : List (String × Option Value) :=
  [("status", none), ("startTime", none), ("lastActiveTime", none), ("messagesTotal", none),
   ("kafkaLag", none), ("errorCount", some (.uint64 0)), ("lastError", none)]

/-- A status is written with the scalars that it was read from. -/
theorem StatusSnapshot.verbatim {d : Document} {s : StatusSnapshot} {fs : Fields}
    (h : StatusSnapshot.decode? d = some s)
    (fields : d.fields? StatusSnapshot.fieldNames = some fs) :
    ∀ f ∈ StatusSnapshot.scalars, s.encode.member? f.1 = fs.scalar? f.1 f.2 := by
  simp only [StatusSnapshot.decode?, fields, bind, Option.bind_some, Option.bind_eq_some_iff,
    pure] at h
  obtain ⟨status, statusRead, start, startRead, active, activeRead, total, totalRead, speed, -, lag,
    lagRead, count, countRead, error, errorRead, h⟩ := h
  cases h
  simp only [StatusSnapshot.scalars, List.forall_mem_cons, StatusSnapshot.encode,
    (StatusSnapshot.isRecord _).member?_ofMembers (by decide), verbatim_text.optional statusRead,
    verbatim_timestamp.optional startRead, verbatim_timestamp.optional activeRead,
    verbatim_int64.optional totalRead, verbatim_int64.optional lagRead,
    verbatim_uint64.default countRead, verbatim_text.optional errorRead]
  simp [StatusSnapshot.members, List.lookup_append, List.lookup_cons, lookup_optionalMember,
    TaskStatus.text_ofText, Function.comp_def]

/-- Statuses read back. -/
theorem StatusSnapshot.readsBack :
    ReadsBack StatusSnapshot.fieldNames StatusSnapshot.scalars StatusSnapshot.decode?
      StatusSnapshot.encode where
  again _ s _ := s.decode?_encode
  present s := s.isRecord.written
  verbatim _ _ _ := StatusSnapshot.verbatim

/-! ## Process information, launch options, log pages -/

/-- The texts and integers of process information. -/
def ProcessInfo.scalars : List (String × Option Value) :=
  [("Version", some (.text "")), ("BuildTime", some (.text "")), ("Commit", some (.text "")),
   ("GoVersion", some (.text "")), ("RecordPoolSize", some (.int64 0)),
   ("Goroutines", some (.uint64 0)), ("Memory", some (.uint64 0)), ("StartTime", some (.int64 0)),
   ("Uptime", some (.uint64 0)), ("Tasks", some (.uint64 0))]

/-- A process is written with the scalars that it was read from. -/
theorem ProcessInfo.verbatim {d : Document} {p : ProcessInfo} {fs : Fields}
    (h : ProcessInfo.decode? d = some p) (fields : d.fields? ProcessInfo.fieldNames = some fs) :
    ∀ f ∈ ProcessInfo.scalars, p.encode.member? f.1 = fs.scalar? f.1 f.2 := by
  simp only [ProcessInfo.decode?, fields, bind, Option.bind_some, Option.bind_eq_some_iff,
    pure] at h
  obtain ⟨version, versionRead, built, builtRead, commit, commitRead, go, goRead, pool, poolRead,
    routines, routinesRead, cpu, -, memory, memoryRead, start, startRead, uptime, uptimeRead,
    tasks, tasksRead, h⟩ := h
  cases h
  simp only [ProcessInfo.scalars, List.forall_mem_cons, ProcessInfo.encode,
    (ProcessInfo.isRecord _).member?_ofMembers (by decide), verbatim_text.default versionRead,
    verbatim_text.default builtRead, verbatim_text.default commitRead,
    verbatim_text.default goRead, verbatim_int64.default poolRead,
    verbatim_uint64.default routinesRead, verbatim_uint64.default memoryRead,
    verbatim_int64.default startRead, verbatim_uint64.default uptimeRead,
    verbatim_uint64.default tasksRead]
  simp [ProcessInfo.members, List.lookup_cons]

/-- Processes read back. -/
theorem ProcessInfo.readsBack :
    ReadsBack ProcessInfo.fieldNames ProcessInfo.scalars ProcessInfo.decode?
      ProcessInfo.encode where
  again _ p _ := p.decode?_encode
  present p := p.isRecord.written
  verbatim _ _ _ := ProcessInfo.verbatim

/-- The texts and the integer of launch options. -/
def LaunchOptions.scalars : List (String × Option Value) :=
  [("LogLevel", some (.text "")), ("LogPaths", some (.text "")), ("HTTPHost", some (.text "")),
   ("HTTPPort", some (.uint64 0)), ("LocalCfgFile", some (.text "")),
   ("NacosAddr", some (.text "")), ("NacosNamespaceID", some (.text "")),
   ("NacosGroup", some (.text "")), ("NacosUsername", some (.text "")),
   ("NacosPassword", some (.text "")), ("NacosDataID", some (.text "")),
   ("NacosServiceName", some (.text ""))]

/-- Launch options are written with the scalars that they were read from. -/
theorem LaunchOptions.verbatim {d : Document} {o : LaunchOptions} {fs : Fields}
    (h : LaunchOptions.decode? d = some o)
    (fields : d.fields? LaunchOptions.fieldNames = some fs) :
    ∀ f ∈ LaunchOptions.scalars, o.encode.member? f.1 = fs.scalar? f.1 f.2 := by
  simp only [LaunchOptions.decode?, fields, bind, Option.bind_some, Option.bind_eq_some_iff,
    pure] at h
  obtain ⟨level, levelRead, paths, pathsRead, host, hostRead, port, portRead, file, fileRead, addr,
    addrRead, space, spaceRead, group, groupRead, user, userRead, password, passwordRead, dataId,
    dataIdRead, service, serviceRead, h⟩ := h
  cases h
  have port := verbatim_uint16.default portRead
  rw [show UInt16.toUInt64 0 = 0 from rfl] at port
  simp only [LaunchOptions.scalars, List.forall_mem_cons, LaunchOptions.encode,
    (LaunchOptions.isRecord _).member?_ofMembers (by decide), verbatim_text.default levelRead,
    verbatim_text.default pathsRead, verbatim_text.default hostRead, port,
    verbatim_text.default fileRead, verbatim_text.default addrRead,
    verbatim_text.default spaceRead, verbatim_text.default groupRead,
    verbatim_text.default userRead, verbatim_text.default passwordRead,
    verbatim_text.default dataIdRead, verbatim_text.default serviceRead]
  simp [LaunchOptions.members, List.lookup_cons]

/-- Launch options read back. -/
theorem LaunchOptions.readsBack :
    ReadsBack LaunchOptions.fieldNames LaunchOptions.scalars LaunchOptions.decode?
      LaunchOptions.encode where
  again _ o _ := o.decode?_encode
  present o := o.isRecord.written
  verbatim _ _ _ := LaunchOptions.verbatim

/-- The integer of a log page. -/
def LogPage.scalars : List (String × Option Value) :=
  [("Total", some (.uint64 0))]

/-- A page of the log is written with the scalars that it was read from. -/
theorem LogPage.verbatim {d : Document} {p : LogPage} {fs : Fields}
    (h : LogPage.decode? d = some p) (fields : d.fields? LogPage.fieldNames = some fs) :
    ∀ f ∈ LogPage.scalars, p.encode.member? f.1 = fs.scalar? f.1 f.2 := by
  simp only [LogPage.decode?, fields, bind, Option.bind_some, Option.bind_eq_some_iff, pure] at h
  obtain ⟨total, totalRead, lines, -, h⟩ := h
  cases h
  simp only [LogPage.scalars, List.forall_mem_cons, LogPage.encode,
    (LogPage.isRecord _).member?_ofMembers (by decide), verbatim_uint64.default totalRead]
  simp [LogPage.members, List.lookup_cons]

/-- Pages of the log read back. -/
theorem LogPage.readsBack :
    ReadsBack LogPage.fieldNames LogPage.scalars LogPage.decode? LogPage.encode where
  again _ p _ := p.decode?_encode
  present p := p.isRecord.written
  verbatim _ _ _ := LogPage.verbatim

end Wire

namespace Table

/-! ## Filters and pages -/

/-- The texts of a filter. -/
def Filter.scalars : List (String × Option Value) :=
  [("name", some (.text "")), ("type", none), ("status", none)]

/-- A filter is written with the scalars that it was read from. -/
theorem Filter.verbatim {d : Document} {f : Filter} {fs : Fields} (h : Filter.decode? d = some f)
    (fields : d.fields? Filter.fieldNames = some fs) :
    ∀ m ∈ Filter.scalars, f.encode.member? m.1 = fs.scalar? m.1 m.2 := by
  simp only [Filter.decode?, fields, bind, Option.bind_some, Option.bind_eq_some_iff, pure] at h
  obtain ⟨name, nameRead, kind, kindRead, status, statusRead, h⟩ := h
  cases h
  simp only [Filter.scalars, List.forall_mem_cons, Filter.encode,
    (Filter.isRecord _).member?_ofMembers (by decide), verbatim_text.default nameRead,
    verbatim_text.optional kindRead, verbatim_text.optional statusRead]
  simp [Filter.members, List.lookup_append, List.lookup_cons, lookup_optionalMember,
    Wire.TaskKind.text_ofText, Wire.TaskStatus.text_ofText, Function.comp_def]

/-- Filters read back. -/
theorem Filter.readsBack :
    ReadsBack Filter.fieldNames Filter.scalars Filter.decode? Filter.encode where
  again _ f _ := f.decode?_encode
  present f := f.isRecord.written
  verbatim _ _ _ := Filter.verbatim

/-- Sortings read back. -/
theorem Sorting.readsBack :
    ReadsBack Sorting.fieldNames [] Sorting.decode? Sorting.encode where
  again _ s _ := s.decode?_encode
  present s := s.isRecord.written
  verbatim _ _ _ _ _ _ mem := absurd mem List.not_mem_nil

/-- The integers of a pagination. -/
def Pagination.scalars : List (String × Option Value) :=
  [("pageSize", some (.uint64 20)), ("currentPage", some (.uint64 1))]

/-- A page size is the number that it was made from. -/
theorem PageSize.toNat_of_ofSize {n : Nat} {size : PageSize} (h : PageSize.ofSize n = .ok size) :
    size.toNat = n := by
  rw [PageSize.ofSize] at h
  split at h
  · next found =>
    cases h
    have same := List.find?_some found
    exact of_decide_eq_true same
  · cases h

/-- Page sizes are read as they are written. -/
theorem verbatim_pageSize :
    Verbatim Pagination.decodeSize? fun size => .uint64 (.ofNat size.toNat) := by
  intro d size h
  obtain ⟨n, read, h⟩ := Option.bind_eq_some_iff.1 h
  have valid : PageSize.ofSize n.toNat = .ok size := by
    cases found : PageSize.ofSize n.toNat with
    | error e => rw [found] at h; cases h
    | ok other => rw [found] at h; cases h; rfl
  have size : UInt64.ofNat size.toNat = n := by
    rw [PageSize.toNat_of_ofSize valid, UInt64.ofNat_toNat]
  simp only [size, verbatim_uint64 d n read]

/-- Page numbers are read as they are written. -/
theorem verbatim_currentPage :
    Verbatim (fun d => d.uint64?.map UInt64.toNat)
      fun n => .uint64 (.ofNat (min n 0xffffffffffffffff)) := by
  intro d page h
  obtain ⟨n, read, rfl⟩ := Option.map_eq_some_iff.1 h
  have below : min n.toNat 0xffffffffffffffff = n.toNat := by
    have := n.toNat_lt
    omega
  simp only [below, UInt64.ofNat_toNat, verbatim_uint64 d n read]

/-- A pagination is written with the scalars that it was read from. -/
theorem Pagination.verbatim {d : Document} {p : Pagination} {fs : Fields}
    (h : Pagination.decode? d = some p) (fields : d.fields? Pagination.fieldNames = some fs) :
    ∀ f ∈ Pagination.scalars, p.encode.member? f.1 = fs.scalar? f.1 f.2 := by
  simp only [Pagination.decode?, fields, bind, Option.bind_some, Option.bind_eq_some_iff, pure] at h
  obtain ⟨size, sizeRead, page, pageRead, h⟩ := h
  cases h
  have sizeKept : fs.scalar? "pageSize" (some (.uint64 20)) =
      some (.uint64 (.ofNat size.toNat)) := verbatim_pageSize.default sizeRead
  have pageKept : fs.scalar? "currentPage" (some (.uint64 1)) =
      some (.uint64 (.ofNat (min page 0xffffffffffffffff))) := verbatim_currentPage.default pageRead
  simp only [Pagination.scalars, List.forall_mem_cons, Pagination.encode,
    (Pagination.isRecord _).member?_ofMembers (by decide), sizeKept, pageKept]
  simp [Pagination.members, List.lookup_cons]

/-- Paginations read back. -/
theorem Pagination.readsBack :
    ReadsBack Pagination.fieldNames Pagination.scalars Pagination.decode? Pagination.encode where
  again _ _ read := Pagination.decode?_encode (Pagination.currentPage_lt read)
  present p := p.isRecord.written
  verbatim _ _ _ := Pagination.verbatim

/-- Saved states read back. -/
theorem ViewState.readsBack :
    ReadsBack ViewState.fieldNames [] ViewState.decode? ViewState.encode where
  again _ _ read := ViewState.decode?_encode (ViewState.currentPage_lt read)
  present s := s.isRecord.written
  verbatim _ _ _ _ _ _ mem := absurd mem List.not_mem_nil

end Table

/-! ## The whole wire -/

open Wire Table

/-- What becomes of an envelope that is written and read from the written value. -/
structure Wire.Envelope.ReadsBack (e : Envelope) : Prop where
  /-- Every envelope is read back, unless its entity is `null`. -/
  again : Envelope.ofValue? e.encode = some e ↔ e.entity ≠ some .null
  /-- The entity that a caller gets is the same before and after. -/
  entity : e.entity ≠ some .null →
    (Envelope.ofValue? e.encode).map Envelope.intoEntity = some e.intoEntity
  /-- The acknowledgement that a caller gets is the same before and after, whatever the entity. -/
  ack : (Envelope.ofValue? e.encode).map Envelope.intoAck = some e.intoAck

/-- Envelopes with ordered entities read back. -/
theorem Wire.Envelope.readsBack {e : Envelope} (ordered : ∀ v, e.entity = some v → v.IsOrdered) :
    e.ReadsBack where
  again := by
    rw [ofValue?_encode ordered, Option.some_inj]
    refine ⟨fun same null => ?_, normal_of_ne_null⟩
    have absent : e.normal.entity = none := by rw [normal, null]
    rw [same, null] at absent
    cases absent
  entity present := by
    rw [ofValue?_encode ordered, normal_of_ne_null present, Option.map_some]
  ack := by rw [ofValue?_encode ordered, Option.map_some, intoAck_normal]

/-- The known kinds are those of metrics and logs. -/
theorem Wire.TaskKind.isKnown_ofText (raw : String) :
    (TaskKind.ofText raw).isKnown ↔ raw = "metric" ∨ raw = "log" := by
  rw [TaskKind.ofText]
  split
  · next metric => simp [TaskKind.isKnown, metric]
  · split
    · next log => simp [TaskKind.isKnown, log]
    · simp_all [TaskKind.isKnown]

/-- The known statuses are running, stopped and error. -/
theorem Wire.TaskStatus.isKnown_ofText (raw : String) :
    (TaskStatus.ofText raw).isKnown ↔ raw = "running" ∨ raw = "stopped" ∨ raw = "error" := by
  rw [TaskStatus.ofText]
  split
  · next running => simp [TaskStatus.isKnown, running]
  · split
    · next stopped => simp [TaskStatus.isKnown, stopped]
    · split
      · next error => simp [TaskStatus.isKnown, error]
      · simp_all [TaskStatus.isKnown]

/-- What was read from the wire is written without `null`, with every text and integer as it stood,
and read back unchanged; kinds and states of tasks that are not known are kept verbatim; and an
envelope around any entity but `null` gives its callers the same before and after. -/
theorem wire_readsBack :
    (ReadsBack Task.fieldNames Task.scalars Task.decode? Task.encode
      ∧ ReadsBack TaskList.fieldNames TaskList.scalars TaskList.decode? TaskList.encode
      ∧ ReadsBack StatusSnapshot.fieldNames StatusSnapshot.scalars StatusSnapshot.decode?
          StatusSnapshot.encode
      ∧ ReadsBack ProcessInfo.fieldNames ProcessInfo.scalars ProcessInfo.decode?
          ProcessInfo.encode
      ∧ ReadsBack LaunchOptions.fieldNames LaunchOptions.scalars LaunchOptions.decode?
          LaunchOptions.encode
      ∧ ReadsBack LogPage.fieldNames LogPage.scalars LogPage.decode? LogPage.encode
      ∧ ReadsBack ViewState.fieldNames [] ViewState.decode? ViewState.encode)
    ∧ (ReadsBack Filter.fieldNames Filter.scalars Filter.decode? Filter.encode
      ∧ ReadsBack Sorting.fieldNames [] Sorting.decode? Sorting.encode
      ∧ ReadsBack Pagination.fieldNames Pagination.scalars Pagination.decode? Pagination.encode)
    ∧ (∀ raw, (TaskKind.ofText raw).text = raw ∧
        ((TaskKind.ofText raw).isKnown ↔ raw = "metric" ∨ raw = "log"))
    ∧ (∀ raw, (TaskStatus.ofText raw).text = raw ∧
        ((TaskStatus.ofText raw).isKnown ↔ raw = "running" ∨ raw = "stopped" ∨ raw = "error"))
    ∧ (∀ e : Envelope, (∀ v, e.entity = some v → v.IsOrdered) → e.ReadsBack)
    ∧ ∀ depth d e, Envelope.decodeWithin? depth d = some e →
        e.entity ≠ some .null ∧ ∀ v, e.entity = some v → v.IsOrdered := by
  refine ⟨?_, ?_, ?_, ?_, ?_, ?_⟩
  · exact ⟨Task.readsBack, TaskList.readsBack, StatusSnapshot.readsBack, ProcessInfo.readsBack,
      LaunchOptions.readsBack, LogPage.readsBack, ViewState.readsBack⟩
  · exact ⟨Filter.readsBack, Sorting.readsBack, Pagination.readsBack⟩
  · exact fun raw => ⟨TaskKind.text_ofText raw, TaskKind.isKnown_ofText raw⟩
  · exact fun raw => ⟨TaskStatus.text_ofText raw, TaskStatus.isKnown_ofText raw⟩
  · exact fun e ordered => Envelope.readsBack ordered
  · intro depth d e read
    refine ⟨fun null => ?_, fun v entity => (Envelope.entity_of_decodeWithin? read entity).1⟩
    exact (Envelope.entity_of_decodeWithin? read null).2 rfl

/-- A task of a kind that is not known, and an envelope around an array. -/
theorem wire_readsBack_unknownKind :
    let d : Document := .object [(some "Type", .string (some "trace")), (some "Status", .null),
      (some "Lag", .number (some (.int ⟨-0x8000000000000000, by decide, by decide⟩)))]
    let t : Task := { kind := some (.other "trace" (by decide)), lag := -0x8000000000000000 }
    let e : Envelope := { code := "7", entity := some (.array [.null]) }
    Task.decode? d = some t ∧ Task.decode? t.encode.document = some t
      ∧ Envelope.ofValue? e.encode = some e := by
  intro d t e
  have read : Task.decode? d = some t := by rfl
  have ordered : ∀ v, e.entity = some v → v.IsOrdered := by
    intro v entity
    cases entity
    exact ⟨trivial, trivial⟩
  have present : e.entity ≠ some .null := fun null => Value.noConfusion (Option.some.inj null)
  obtain ⟨records, -, -, -, envelopes, -⟩ := wire_readsBack
  exact ⟨read, records.1.again d t read, (envelopes e ordered).again.2 present⟩

end IngestConsole
