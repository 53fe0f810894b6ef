import IngestConsole.Proofs.Json.FreeForm
import IngestConsole.Proofs.Json.Records
import IngestConsole.Table.Projection
import IngestConsole.Wire.Envelope
import IngestConsole.Wire.LaunchOptions
import IngestConsole.Wire.LogPage
import IngestConsole.Wire.ProcessInfo
import IngestConsole.Wire.StatusSnapshot

/-!
# Writing and reading back

What is written on the wire is read back unchanged.  For every record the names under which it is
written are those under which it is read.
-/

set_option autoImplicit false

namespace IngestConsole

open Json

namespace Wire

/-! ## Tasks -/

/-- The members of a task are a record of its fields. -/
theorem Task.isRecord (t : Task) : IsRecord Task.fieldNames t.members := by
  have texts : IsRecord ["Name", "Cluster", "Table", "Topic", "ConsumerGroup"]
      [("Name", .text t.name), ("Cluster", .text t.cluster), ("Table", .text t.table),
       ("Topic", .text t.topic), ("ConsumerGroup", .text t.consumerGroup)] :=
    .all rfl (by simp [text_ne_null])
  have kind := texts.append (.optional "Type" (fun k => text_ne_null k.text) t.kind)
  have status := kind.append (.optional "Status" (fun s => text_ne_null s.text) t.status)
  have lag := status.append (.single "Lag" (int64_ne_null t.lag))
  have speed := lag.append (.optional "WriteSpeed" text_ne_null t.writeSpeed)
  have update := speed.append (.optional "LastUpdate" int64_ne_null t.lastUpdate)
  have policy := update.append (.optional "ColPolicy" text_ne_null t.columnPolicy)
  exact policy.append (.optional "Rate" int64_ne_null t.rate)

/-- A task is read back from what it is written as. -/
theorem Task.decode?_encode (t : Task) : Task.decode? t.encode.document = some t := by
  refine read_ofMembers t.isRecord.named (by decide) fun fs holds => ?_
  simp [holds.get_eq, Task.members, List.lookup_append, List.lookup_cons, lookup_optionalMember,
    TaskKind.ofText_text, TaskStatus.ofText_text, Function.comp_def]

/-- The members of a list of tasks are a record of its fields. -/
theorem TaskList.isRecord (l : TaskList) : IsRecord TaskList.fieldNames l.members :=
  .all rfl (by simp [TaskList.members, uint64_ne_null])

/-- A list of tasks is read back from what it is written as. -/
theorem TaskList.decode?_encode (l : TaskList) : TaskList.decode? l.encode.document = some l := by
  refine read_ofMembers l.isRecord.named (by decide) fun fs holds => ?_
  have tasks := nullableList?_document l.tasks fun t _ => t.decode?_encode
  simp [holds.get_eq, TaskList.members, List.lookup_cons, tasks]

/-! ## Status snapshots -/

/-- No timestamp is written as null. -/
theorem Timestamp.encode_ne_null (t : Timestamp) : t.encode ≠ .null := by
  cases t with
  | millis ms => exact int64_ne_null ms
  | text s => exact text_ne_null s

/-- Numbers stay numbers and texts stay texts. -/
theorem Timestamp.decode?_encode (t : Timestamp) :
    Timestamp.decode? t.encode.document = some t := by
  cases t with
  | millis ms => exact congrArg (Option.map Timestamp.millis) (int64?_document ms)
  | text s => rfl

/-- An optional timestamp is read back, whether there or not. -/
@[simp] theorem readMember_optionalTimestamp (o : Option Timestamp) :
    readMember (Document.optional? Timestamp.decode?) none (o.map Timestamp.encode) = some o := by
  rw [readMember_optional Timestamp.encode_ne_null Timestamp.decode?_encode, Option.map_id']

/-- The members of a status are a record of its fields. -/
theorem StatusSnapshot.isRecord (s : StatusSnapshot) :
    IsRecord StatusSnapshot.fieldNames s.members := by
  have status := IsRecord.optional "status" (fun s => text_ne_null s.text) s.status
  have start := status.append (.optional "startTime" Timestamp.encode_ne_null s.startTime)
  have active :=
    start.append (.optional "lastActiveTime" Timestamp.encode_ne_null s.lastActiveTime)
  have total := active.append (.optional "messagesTotal" int64_ne_null s.messagesTotal)
  have speed := total.append (.optional "messagesPerSec" float_ne_null s.messagesPerSec)
  have lag := speed.append (.optional "kafkaLag" int64_ne_null s.kafkaLag)
  have count := lag.append (.single "errorCount" (uint64_ne_null s.errorCount))
  exact count.append (.optional "lastError" text_ne_null s.lastError)

/-- A status is read back from what it is written as. -/
theorem StatusSnapshot.decode?_encode (s : StatusSnapshot) :
    StatusSnapshot.decode? s.encode.document = some s := by
  refine read_ofMembers s.isRecord.named (by decide) fun fs holds => ?_
  simp [holds.get_eq, StatusSnapshot.members, List.lookup_append, List.lookup_cons,
    lookup_optionalMember, TaskStatus.ofText_text, Function.comp_def]

/-! ## Process information, launch options, log pages -/

/-- The members of a process are a record of its fields. -/
theorem ProcessInfo.isRecord (p : ProcessInfo) : IsRecord ProcessInfo.fieldNames p.members :=
  .all rfl (by simp [ProcessInfo.members, text_ne_null, int64_ne_null, uint64_ne_null,
    float_ne_null])

/-- A process is read back from what it is written as. -/
theorem ProcessInfo.decode?_encode (p : ProcessInfo) :
    ProcessInfo.decode? p.encode.document = some p := by
  refine read_ofMembers p.isRecord.named (by decide) fun fs holds => ?_
  simp [holds.get_eq, ProcessInfo.members, List.lookup_cons]

/-- The members of launch options are a record of their fields. -/
theorem LaunchOptions.isRecord (o : LaunchOptions) :
    IsRecord LaunchOptions.fieldNames o.members :=
  .all rfl (by simp [LaunchOptions.members, text_ne_null, uint64_ne_null])

/-- Launch options are read back from what they are written as. -/
theorem LaunchOptions.decode?_encode (o : LaunchOptions) :
    LaunchOptions.decode? o.encode.document = some o := by
  refine read_ofMembers o.isRecord.named (by decide) fun fs holds => ?_
  simp [holds.get_eq, LaunchOptions.members, List.lookup_cons]

/-- The members of a page of the log are a record of its fields. -/
theorem LogPage.isRecord (p : LogPage) : IsRecord LogPage.fieldNames p.members :=
  .all rfl (by simp [LogPage.members, uint64_ne_null])

/-- A page of the log is read back from what it is written as. -/
theorem LogPage.decode?_encode (p : LogPage) : LogPage.decode? p.encode.document = some p := by
  refine read_ofMembers p.isRecord.named (by decide) fun fs holds => ?_
  have lines := nullableList?_document p.lines fun s _ => text?_document s
  simp [holds.get_eq, LogPage.members, List.lookup_cons, lines]

/-! ## Envelopes -/

namespace Envelope

/-- The entity of an envelope that was read is ordered and not `null`. -/
theorem entity_of_decodeWithin? {depth : Nat} {d : Document} {e : Envelope}
    (h : decodeWithin? depth d = some e) {v : Value} (entity : e.entity = some v) :
    v.IsOrdered ∧ v ≠ .null := by
  obtain ⟨fs, -, h⟩ := Option.bind_eq_some_iff.1 h
  obtain ⟨code, -, h⟩ := Option.bind_eq_some_iff.1 h
  obtain ⟨message, -, h⟩ := Option.bind_eq_some_iff.1 h
  obtain ⟨o, read, h⟩ := Option.bind_eq_some_iff.1 h
  cases h
  subst entity
  rw [Fields.get] at read
  split at read
  · obtain ⟨present, value⟩ := of_optional?_eq_some read
    refine ⟨isOrdered_of_value? value, ?_⟩
    rintro rfl
    exact present (eq_null_of_value? value)
  · cases read

/-- The entity nests less deep than the written envelope. -/
theorem nesting_entity_le {e : Envelope} {v : Value} (entity : e.entity = some v) :
    v.nesting ≤ e.encode.nesting := by
  have found : (sortMembers e.members).lookup "entity" = some v := by
    rw [lookup_sortMembers, members, entity]
    rfl
  obtain ⟨before, after, split, -⟩ := List.lookup_eq_some_iff.1 found
  have mem := split ▸ List.mem_append_right before (List.mem_cons_self (a := ("entity", v)))
  exact (nesting_le_of_mem mem).trans (Nat.le_succ _)

/-- An envelope as it is read back: an entity that is `null` is absent. -/
def normal (e : Envelope) : Envelope :=
  match e.entity with
  | some .null => { e with entity := none }
  | _ => e

/-- Only an envelope with null as its entity is changed by writing it. -/
theorem normal_of_ne_null {e : Envelope} (present : e.entity ≠ some .null) : e.normal = e := by
  rw [normal]
  split
  · next null => exact absurd null present
  · rfl

/-- What is done with the return code alone does not depend on the entity. -/
theorem intoAck_normal (e : Envelope) : e.normal.intoAck = e.intoAck := by
  rw [normal]
  split <;> rfl

/-- The entity of an envelope is read back, up to null being none. -/
theorem optional?_entity {e : Envelope} (ordered : ∀ v, e.entity = some v → v.IsOrdered) :
    Document.optional? (·.value? e.encode.nesting) (e.entity.getD .null).document =
      some e.normal.entity := by
  obtain ⟨code, message, entity⟩ := e
  cases entity with
  | none => rfl
  | some v =>
    by_cases null : v = .null
    · rw [null]
      rfl
    · rw [normal_of_ne_null fun same => null (Option.some.inj same), Option.getD_some,
        optional?_document null, value?_document v (ordered v rfl) (nesting_entity_le rfl),
        Option.map_some]

/-- A written envelope is read back, but for an entity that is `null`. -/
theorem ofValue?_encode {e : Envelope} (ordered : ∀ v, e.entity = some v → v.IsOrdered) :
    ofValue? e.encode = some e.normal := by
  have named : (e.members.map Prod.fst).Sublist fieldNames := List.Sublist.refl _
  refine read_ofMembers named (by decide) fun fs holds => ?_
  have entity := optional?_entity ordered
  have parts : some (Envelope.mk e.code e.message e.normal.entity) = some e.normal := by
    rw [normal]
    split <;> rfl
  simpa [holds.get_eq, holds.require_eq, members, List.lookup_cons, entity] using parts

end Envelope

end Wire

namespace Table

/-! ## View states -/

/-- The members of a filter are a record of its fields. -/
theorem Filter.isRecord (f : Filter) : IsRecord Filter.fieldNames f.members := by
  have name := IsRecord.single "name" (text_ne_null f.name)
  have kind := name.append (.optional "type" (fun k => text_ne_null k.text) f.kind)
  exact kind.append (.optional "status" (fun s => text_ne_null s.text) f.status)

/-- A filter is read back from what it is written as. -/
theorem Filter.decode?_encode (f : Filter) : Filter.decode? f.encode.document = some f := by
  refine read_ofMembers f.isRecord.named (by decide) fun fs holds => ?_
  simp [holds.get_eq, Filter.members, List.lookup_cons, List.lookup_append, lookup_optionalMember,
    Wire.TaskKind.ofText_text, Wire.TaskStatus.ofText_text, Function.comp_def]

/-- A column is read back from its title. -/
theorem SortField.decode?_title (f : SortField) :
    SortField.decode? (Value.text f.title).document = some f := by
  cases f <;> rfl

/-- A direction is read back from its name. -/
theorem SortOrder.decode?_name (o : SortOrder) :
    SortOrder.decode? (Value.text o.name).document = some o := by
  cases o <;> rfl

/-- The members of a sorting are a record of its fields. -/
theorem Sorting.isRecord (s : Sorting) : IsRecord Sorting.fieldNames s.members := by
  have field := IsRecord.optional "field" (fun f => text_ne_null f.title) s.field
  exact field.append (.single "order" (text_ne_null s.order.name))

/-- A sorting is read back from what it is written as. -/
theorem Sorting.decode?_encode (s : Sorting) : Sorting.decode? s.encode.document = some s := by
  refine read_ofMembers s.isRecord.named (by decide) fun fs holds => ?_
  have field := readMember_optional (fun f => text_ne_null f.title) SortField.decode?_title s.field
  simp [holds.get_eq, Sorting.members, List.lookup_append, List.lookup_cons,
    lookup_optionalMember, field, SortOrder.decode?_name]

/-- The members of a pagination are a record of its fields. -/
theorem Pagination.isRecord (p : Pagination) : IsRecord Pagination.fieldNames p.members :=
  .all rfl (by simp [Pagination.members, uint64_ne_null])

/-- A page size is read back from its number. -/
theorem Pagination.decodeSize?_toNat (size : PageSize) :
    Pagination.decodeSize? (Value.uint64 (.ofNat size.toNat)).document = some size := by
  cases size <;> rfl

/-- A page number that was read fits 64 bits. -/
theorem Pagination.currentPage_lt {d : Document} {p : Pagination}
    (h : Pagination.decode? d = some p) : p.currentPage < 2 ^ 64 := by
  obtain ⟨fs, -, h⟩ := Option.bind_eq_some_iff.1 h
  obtain ⟨size, -, h⟩ := Option.bind_eq_some_iff.1 h
  obtain ⟨page, read, h⟩ := Option.bind_eq_some_iff.1 h
  cases h
  rw [Fields.get] at read
  split at read
  · obtain ⟨n, -, rfl⟩ := Option.map_eq_some_iff.1 read
    exact n.toNat_lt
  · cases read
    exact Nat.one_lt_two_pow (by decide)

/-- A pagination with a page number of a word is read back from what it is written as. -/
theorem Pagination.decode?_encode {p : Pagination} (fits : p.currentPage < 2 ^ 64) :
    Pagination.decode? p.encode.document = some p := by
  refine read_ofMembers p.isRecord.named (by decide) fun fs holds => ?_
  have below : min p.currentPage 0xffffffffffffffff = p.currentPage := by omega
  have whole : p.currentPage % 0x10000000000000000 = p.currentPage := Nat.mod_eq_of_lt fits
  simp [holds.get_eq, Pagination.members, List.lookup_cons, Pagination.decodeSize?_toNat, below,
    whole]

/-- The members of a saved state are a record of its fields. -/
theorem ViewState.isRecord (s : ViewState) : IsRecord ViewState.fieldNames s.members :=
  .all rfl (by simp [ViewState.members, Filter.encode, Sorting.encode, Pagination.encode,
    Value.ofMembers])

/-- A page number that was read is a word. -/
theorem ViewState.currentPage_lt {d : Document} {s : ViewState}
    (h : ViewState.decode? d = some s) : s.page.currentPage < 2 ^ 64 := by
  obtain ⟨fs, -, h⟩ := Option.bind_eq_some_iff.1 h
  obtain ⟨filter, -, h⟩ := Option.bind_eq_some_iff.1 h
  obtain ⟨sort, -, h⟩ := Option.bind_eq_some_iff.1 h
  obtain ⟨page, read, h⟩ := Option.bind_eq_some_iff.1 h
  cases h
  rw [Fields.get] at read
  split at read
  · exact Pagination.currentPage_lt read
  · cases read
    exact Nat.one_lt_two_pow (by decide)

/-- A state with a page number of a word is read back from what it is written as. -/
theorem ViewState.decode?_encode {s : ViewState} (fits : s.page.currentPage < 2 ^ 64) :
    ViewState.decode? s.encode.document = some s := by
  refine read_ofMembers s.isRecord.named (by decide) fun fs holds => ?_
  simp [holds.get_eq, ViewState.members, List.lookup_cons, Filter.decode?_encode,
    Sorting.decode?_encode, Pagination.decode?_encode fits]

end Table

end IngestConsole
