import IngestConsole.Proofs.Json.Layouts
import IngestConsole.Proofs.Numeral.IntegerRounding
import IngestConsole.Proofs.Wire.ReadsBack

/-!
# Tolerant reading

Every record of the wire has a layout, and its reader takes exactly the objects of that layout.
-/

set_option autoImplicit false

namespace IngestConsole

open Json

namespace Wire

/-! ## Kinds and states -/

/-- An optional kind is written as the text that it was read from. -/
theorem TaskKind.map_text_ofText (raw : Option String) :
    (raw.map TaskKind.ofText).map TaskKind.text = raw := by
  simp [Function.comp_def, text_ofText]

/-- An optional kind is read back from its text. -/
theorem TaskKind.map_ofText_text (k : Option TaskKind) :
    (k.map TaskKind.text).map TaskKind.ofText = k := by
  simp [Function.comp_def, ofText_text]

/-- An optional status is written as the text that it was read from. -/
theorem TaskStatus.map_text_ofText (raw : Option String) :
    (raw.map TaskStatus.ofText).map TaskStatus.text = raw := by
  simp [Function.comp_def, text_ofText]

/-- An optional status is read back from its text. -/
theorem TaskStatus.map_ofText_text (s : Option TaskStatus) :
    (s.map TaskStatus.text).map TaskStatus.ofText = s := by
  simp [Function.comp_def, ofText_text]

/-! ## Tasks -/

/-- The slots of a task. -/
def Task.layout : List (Slot Task) :=
  [⟨"Name", .text, "", Task.name⟩,
   ⟨"Cluster", .text, "", Task.cluster⟩,
   ⟨"Table", .text, "", Task.table⟩,
   ⟨"Topic", .text, "", Task.topic⟩,
   ⟨"ConsumerGroup", .text, "", Task.consumerGroup⟩,
   ⟨"Type", .optional .text, none, fun t => t.kind.map TaskKind.text⟩,
   ⟨"Status", .optional .text, none, fun t => t.status.map TaskStatus.text⟩,
   ⟨"Lag", .int64, 0, Task.lag⟩,
   ⟨"WriteSpeed", .optional .text, none, Task.writeSpeed⟩,
   ⟨"LastUpdate", .optional .int64, none, Task.lastUpdate⟩,
   ⟨"ColPolicy", .optional .text, none, Task.columnPolicy⟩,
   ⟨"Rate", .optional .int64, none, Task.rate⟩]

/-- A task is read by its layout. -/
theorem Task.reads : Reads Task.decode? (.record Task.layout) := by
  refine reads_record rfl fun fs members holds t => ?_
  simp only [bind, Option.bind_eq_some_iff, pure, Option.some_inj, Task.layout,
    List.forall_mem_cons, holds.fills_iff reads_text, holds.fills_iff (reads_optional reads_text),
    holds.fills_iff reads_int64, holds.fills_iff (reads_optional reads_int64)]
  constructor
  · rintro ⟨name, nameRead, cluster, clusterRead, table, tableRead, topic, topicRead, group,
      groupRead, kind, kindRead, status, statusRead, lag, lagRead, speed, speedRead, update,
      updateRead, policy, policyRead, rate, rateRead, rfl⟩
    rw [TaskKind.map_text_ofText, TaskStatus.map_text_ofText]
    exact ⟨nameRead, clusterRead, tableRead, topicRead, groupRead, kindRead, statusRead, lagRead,
      speedRead, updateRead, policyRead, rateRead, List.forall_mem_nil _⟩
  · rintro ⟨name, cluster, table, topic, group, kind, status, lag, speed, update, policy, rate, -⟩
    refine ⟨_, name, _, cluster, _, table, _, topic, _, group, _, kind, _, status, _, lag, _, speed,
      _, update, _, policy, _, rate, ?_⟩
    rw [TaskKind.map_ofText_text, TaskStatus.map_ofText_text]

/-- Whatever its fields hold, the members are those of a task. -/
theorem Task.complete : Complete Task.layout := by
  intro members
  simp only [Task.layout, List.forall_mem_cons]
  rintro ⟨⟨name, nameIs⟩, ⟨cluster, clusterIs⟩, ⟨table, tableIs⟩, ⟨topic, topicIs⟩, ⟨group, groupIs⟩,
    ⟨kind, kindIs⟩, ⟨status, statusIs⟩, ⟨lag, lagIs⟩, ⟨speed, speedIs⟩, ⟨update, updateIs⟩,
    ⟨policy, policyIs⟩, ⟨rate, rateIs⟩, -⟩
  rw [← TaskKind.map_text_ofText kind] at kindIs
  rw [← TaskStatus.map_text_ofText status] at statusIs
  exact ⟨⟨name, cluster, table, topic, group, kind.map .ofText, status.map .ofText, lag, speed,
    update, policy, rate⟩, nameIs, clusterIs, tableIs, topicIs, groupIs, kindIs, statusIs, lagIs,
    speedIs, updateIs, policyIs, rateIs, List.forall_mem_nil _⟩

/-- The slots of a list of tasks. -/
def TaskList.layout : List (Slot TaskList) :=
  [⟨"Tasks", .nullableList (.record Task.layout), [], TaskList.tasks⟩,
   ⟨"Total", .uint64, 0, TaskList.total⟩]

/-- A list of tasks is read by its layout. -/
theorem TaskList.reads : Reads TaskList.decode? (.record TaskList.layout) := by
  refine reads_record rfl fun fs members holds l => ?_
  simp only [bind, Option.bind_eq_some_iff, pure, Option.some_inj, TaskList.layout,
    List.forall_mem_cons, holds.fills_iff (reads_nullableList Task.reads),
    holds.fills_iff reads_uint64]
  constructor
  · rintro ⟨tasks, tasksRead, total, totalRead, rfl⟩
    exact ⟨tasksRead, totalRead, List.forall_mem_nil _⟩
  · rintro ⟨tasks, total, -⟩
    exact ⟨_, tasks, _, total, rfl⟩

/-- Whatever its fields hold, the members are those of a list of tasks. -/
theorem TaskList.complete : Complete TaskList.layout := by
  intro members
  simp only [TaskList.layout, List.forall_mem_cons]
  rintro ⟨⟨tasks, tasksIs⟩, ⟨total, totalIs⟩, -⟩
  exact ⟨⟨tasks, total⟩, tasksIs, totalIs, List.forall_mem_nil _⟩

/-! ## Status snapshots -/

/-- A point in time stands as an integer of milliseconds or as a text. -/
def Timestamp.meaning : Meaning Timestamp
  | v, .millis ms => Meaning.int64 v ms
  | v, .text s => Meaning.text v s

/-- A timestamp is read by its meaning. -/
theorem Timestamp.reads : Reads Timestamp.decode? Timestamp.meaning := by
  intro v t
  cases v with
  | number n =>
    cases t with
    | millis ms =>
      show (Value.number n).document.int64?.map Timestamp.millis = some (.millis ms) ↔ _
      rw [meaning, ← reads_int64, Option.map_eq_some_iff]
      simp
    | text s => simp [decode?, Value.document, meaning, Meaning.text]
  | string s =>
    cases t with
    | millis ms => simp [decode?, Value.document, meaning, Meaning.int64, Meaning.integer]
    | text s' => simp [decode?, Value.document, meaning, Meaning.text]
  | _ =>
    cases t <;>
      simp [decode?, Value.document, meaning, Meaning.int64, Meaning.integer, Meaning.text]

/-- The slots of a status snapshot. -/
def StatusSnapshot.layout : List (Slot StatusSnapshot) :=
  [⟨"status", .optional .text, none, fun s => s.status.map TaskStatus.text⟩,
   ⟨"startTime", .optional Timestamp.meaning, none, StatusSnapshot.startTime⟩,
   ⟨"lastActiveTime", .optional Timestamp.meaning, none, StatusSnapshot.lastActiveTime⟩,
   ⟨"messagesTotal", .optional .int64, none, StatusSnapshot.messagesTotal⟩,
   ⟨"messagesPerSec", .optional .float, none, StatusSnapshot.messagesPerSec⟩,
   ⟨"kafkaLag", .optional .int64, none, StatusSnapshot.kafkaLag⟩,
   ⟨"errorCount", .uint64, 0, StatusSnapshot.errorCount⟩,
   ⟨"lastError", .optional .text, none, StatusSnapshot.lastError⟩]

/-- A status is read by its layout. -/
theorem StatusSnapshot.reads : Reads StatusSnapshot.decode? (.record StatusSnapshot.layout) := by
  refine reads_record rfl fun fs members holds s => ?_
  simp only [bind, Option.bind_eq_some_iff, pure, Option.some_inj, StatusSnapshot.layout,
    List.forall_mem_cons, holds.fills_iff (reads_optional reads_text),
    holds.fills_iff (reads_optional Timestamp.reads), holds.fills_iff (reads_optional reads_int64),
    holds.fills_iff (reads_optional reads_float), holds.fills_iff reads_uint64]
  constructor
  · rintro ⟨status, statusRead, start, startRead, active, activeRead, total, totalRead, speed,
      speedRead, lag, lagRead, count, countRead, error, errorRead, rfl⟩
    rw [TaskStatus.map_text_ofText]
    exact ⟨statusRead, startRead, activeRead, totalRead, speedRead, lagRead, countRead, errorRead,
      List.forall_mem_nil _⟩
  · rintro ⟨status, start, active, total, speed, lag, count, error, -⟩
    refine ⟨_, status, _, start, _, active, _, total, _, speed, _, lag, _, count, _, error, ?_⟩
    rw [TaskStatus.map_ofText_text]

/-- Whatever its fields hold, the members are those of a status. -/
theorem StatusSnapshot.complete : Complete StatusSnapshot.layout := by
  intro members
  simp only [StatusSnapshot.layout, List.forall_mem_cons]
  rintro ⟨⟨status, statusIs⟩, ⟨start, startIs⟩, ⟨active, activeIs⟩, ⟨total, totalIs⟩,
    ⟨speed, speedIs⟩, ⟨lag, lagIs⟩, ⟨count, countIs⟩, ⟨error, errorIs⟩, -⟩
  rw [← TaskStatus.map_text_ofText status] at statusIs
  exact ⟨⟨status.map .ofText, start, active, total, speed, lag, count, error⟩, statusIs, startIs,
    activeIs, totalIs, speedIs, lagIs, countIs, errorIs, List.forall_mem_nil _⟩

/-! ## Process information, launch options, log pages -/

/-- The slots of process information. -/
def ProcessInfo.layout : List (Slot ProcessInfo) :=
  [⟨"Version", .text, "", ProcessInfo.version⟩,
   ⟨"BuildTime", .text, "", ProcessInfo.buildTime⟩,
   ⟨"Commit", .text, "", ProcessInfo.commit⟩,
   ⟨"GoVersion", .text, "", ProcessInfo.goVersion⟩,
   ⟨"RecordPoolSize", .int64, 0, ProcessInfo.recordPoolSize⟩,
   ⟨"Goroutines", .uint64, 0, ProcessInfo.goroutines⟩,
   ⟨"CPU", .float, .zero false, ProcessInfo.cpu⟩,
   ⟨"Memory", .uint64, 0, ProcessInfo.memory⟩,
   ⟨"StartTime", .int64, 0, ProcessInfo.startTime⟩,
   ⟨"Uptime", .uint64, 0, ProcessInfo.uptime⟩,
   ⟨"Tasks", .uint64, 0, ProcessInfo.tasks⟩]

/-- A process is read by its layout. -/
theorem ProcessInfo.reads : Reads ProcessInfo.decode? (.record ProcessInfo.layout) := by
  refine reads_record rfl fun fs members holds p => ?_
  simp only [bind, Option.bind_eq_some_iff, pure, Option.some_inj, ProcessInfo.layout,
    List.forall_mem_cons, holds.fills_iff reads_text, holds.fills_iff reads_int64,
    holds.fills_iff reads_uint64, holds.fills_iff reads_float]
  constructor
  · rintro ⟨version, versionRead, built, builtRead, commit, commitRead, go, goRead, pool, poolRead,
      routines, routinesRead, cpu, cpuRead, memory, memoryRead, start, startRead, uptime, uptimeRead,
      tasks, tasksRead, rfl⟩
    exact ⟨versionRead, builtRead, commitRead, goRead, poolRead, routinesRead, cpuRead, memoryRead,
      startRead, uptimeRead, tasksRead, List.forall_mem_nil _⟩
  · rintro ⟨version, built, commit, go, pool, routines, cpu, memory, start, uptime, tasks, -⟩
    exact ⟨_, version, _, built, _, commit, _, go, _, pool, _, routines, _, cpu, _, memory, _, start,
      _, uptime, _, tasks, rfl⟩

/-- Whatever its fields hold, the members are those of a process. -/
theorem ProcessInfo.complete : Complete ProcessInfo.layout := by
  intro members
  simp only [ProcessInfo.layout, List.forall_mem_cons]
  rintro ⟨⟨version, versionIs⟩, ⟨built, builtIs⟩, ⟨commit, commitIs⟩, ⟨go, goIs⟩, ⟨pool, poolIs⟩,
    ⟨routines, routinesIs⟩, ⟨cpu, cpuIs⟩, ⟨memory, memoryIs⟩, ⟨start, startIs⟩, ⟨uptime, uptimeIs⟩,
    ⟨tasks, tasksIs⟩, -⟩
  exact ⟨⟨version, built, commit, go, pool, routines, cpu, memory, start, uptime, tasks⟩, versionIs,
    builtIs, commitIs, goIs, poolIs, routinesIs, cpuIs, memoryIs, startIs, uptimeIs, tasksIs,
    List.forall_mem_nil _⟩

/-- The slots of launch options. -/
def LaunchOptions.layout : List (Slot LaunchOptions) :=
  [⟨"LogLevel", .text, "", LaunchOptions.logLevel⟩,
   ⟨"LogPaths", .text, "", LaunchOptions.logPaths⟩,
   ⟨"HTTPHost", .text, "", LaunchOptions.httpHost⟩,
   ⟨"HTTPPort", .uint16, 0, LaunchOptions.httpPort⟩,
   ⟨"LocalCfgFile", .text, "", LaunchOptions.localFile⟩,
   ⟨"NacosAddr", .text, "", LaunchOptions.registryAddr⟩,
   ⟨"NacosNamespaceID", .text, "", LaunchOptions.registryNamespace⟩,
   ⟨"NacosGroup", .text, "", LaunchOptions.registryGroup⟩,
   ⟨"NacosUsername", .text, "", LaunchOptions.registryUsername⟩,
   ⟨"NacosPassword", .text, "", LaunchOptions.registryPassword⟩,
   ⟨"NacosDataID", .text, "", LaunchOptions.registryDataId⟩,
   ⟨"NacosServiceName", .text, "", LaunchOptions.registryServiceName⟩]

/-- Launch options are read by their layout. -/
theorem LaunchOptions.reads : Reads LaunchOptions.decode? (.record LaunchOptions.layout) := by
  refine reads_record rfl fun fs members holds o => ?_
  simp only [bind, Option.bind_eq_some_iff, pure, Option.some_inj, LaunchOptions.layout,
    List.forall_mem_cons, holds.fills_iff reads_text, holds.fills_iff reads_uint16]
  constructor
  · rintro ⟨level, levelRead, paths, pathsRead, host, hostRead, port, portRead, file, fileRead, addr,
      addrRead, space, spaceRead, group, groupRead, user, userRead, password, passwordRead, dataId,
      dataIdRead, service, serviceRead, rfl⟩
    exact ⟨levelRead, pathsRead, hostRead, portRead, fileRead, addrRead, spaceRead, groupRead,
      userRead, passwordRead, dataIdRead, serviceRead, List.forall_mem_nil _⟩
  · rintro ⟨level, paths, host, port, file, addr, space, group, user, password, dataId, service, -⟩
    exact ⟨_, level, _, paths, _, host, _, port, _, file, _, addr, _, space, _, group, _, user, _,
      password, _, dataId, _, service, rfl⟩

/-- Whatever its fields hold, the members are those of launch options. -/
theorem LaunchOptions.complete : Complete LaunchOptions.layout := by
  intro members
  simp only [LaunchOptions.layout, List.forall_mem_cons]
  rintro ⟨⟨level, levelIs⟩, ⟨paths, pathsIs⟩, ⟨host, hostIs⟩, ⟨port, portIs⟩, ⟨file, fileIs⟩,
    ⟨addr, addrIs⟩, ⟨space, spaceIs⟩, ⟨group, groupIs⟩, ⟨user, userIs⟩, ⟨password, passwordIs⟩,
    ⟨dataId, dataIdIs⟩, ⟨service, serviceIs⟩, -⟩
  exact ⟨⟨level, paths, host, port, file, addr, space, group, user, password, dataId, service⟩,
    levelIs, pathsIs, hostIs, portIs, fileIs, addrIs, spaceIs, groupIs, userIs, passwordIs, dataIdIs,
    serviceIs, List.forall_mem_nil _⟩

/-- The slots of a log page. -/
def LogPage.layout : List (Slot LogPage) :=
  [⟨"Total", .uint64, 0, LogPage.total⟩,
   ⟨"Lines", .nullableList .text, [], LogPage.lines⟩]

/-- A page of the log is read by its layout. -/
theorem LogPage.reads : Reads LogPage.decode? (.record LogPage.layout) := by
  refine reads_record rfl fun fs members holds p => ?_
  simp only [bind, Option.bind_eq_some_iff, pure, Option.some_inj, LogPage.layout,
    List.forall_mem_cons, holds.fills_iff reads_uint64,
    holds.fills_iff (reads_nullableList reads_text)]
  constructor
  · rintro ⟨total, totalRead, lines, linesRead, rfl⟩
    exact ⟨totalRead, linesRead, List.forall_mem_nil _⟩
  · rintro ⟨total, lines, -⟩
    exact ⟨_, total, _, lines, rfl⟩

/-- Whatever its fields hold, the members are those of a page of the log. -/
theorem LogPage.complete : Complete LogPage.layout := by
  intro members
  simp only [LogPage.layout, List.forall_mem_cons]
  rintro ⟨⟨total, totalIs⟩, ⟨lines, linesIs⟩, -⟩
  exact ⟨⟨total, lines⟩, totalIs, linesIs, List.forall_mem_nil _⟩

end Wire

namespace Table

open Wire

/-! ## Filters -/

/-- The slots of a filter. -/
def Filter.layout : List (Slot Filter) :=
  [⟨"name", .text, "", Filter.name⟩,
   ⟨"type", .optional .text, none, fun f => f.kind.map TaskKind.text⟩,
   ⟨"status", .optional .text, none, fun f => f.status.map TaskStatus.text⟩]

/-- A filter is read by its layout. -/
theorem Filter.reads : Reads Filter.decode? (.record Filter.layout) := by
  refine reads_record rfl fun fs members holds f => ?_
  simp only [bind, Option.bind_eq_some_iff, pure, Option.some_inj, Filter.layout,
    List.forall_mem_cons, holds.fills_iff reads_text, holds.fills_iff (reads_optional reads_text)]
  constructor
  · rintro ⟨name, nameRead, kind, kindRead, status, statusRead, rfl⟩
    rw [TaskKind.map_text_ofText, TaskStatus.map_text_ofText]
    exact ⟨nameRead, kindRead, statusRead, List.forall_mem_nil _⟩
  · rintro ⟨name, kind, status, -⟩
    refine ⟨_, name, _, kind, _, status, ?_⟩
    rw [TaskKind.map_ofText_text, TaskStatus.map_ofText_text]

/-- Whatever its fields hold, the members are those of a filter. -/
theorem Filter.complete : Complete Filter.layout := by
  intro members
  simp only [Filter.layout, List.forall_mem_cons]
  rintro ⟨⟨name, nameIs⟩, ⟨kind, kindIs⟩, ⟨status, statusIs⟩, -⟩
  rw [← TaskKind.map_text_ofText kind] at kindIs
  rw [← TaskStatus.map_text_ofText status] at statusIs
  exact ⟨⟨name, kind.map .ofText, status.map .ofText⟩, nameIs, kindIs, statusIs,
    List.forall_mem_nil _⟩

/-- The slots of a change of a filter. -/
def FilterPatch.layout : List (Slot FilterPatch) :=
  [⟨"name", .optional .text, none, FilterPatch.name⟩,
   ⟨"type", .optional .text, none, FilterPatch.kind⟩,
   ⟨"status", .optional .text, none, FilterPatch.status⟩]

/-- A patch is read by its layout. -/
theorem FilterPatch.reads : Reads FilterPatch.decode? (.record FilterPatch.layout) := by
  refine reads_record rfl fun fs members holds p => ?_
  simp only [bind, Option.bind_eq_some_iff, pure, Option.some_inj, FilterPatch.layout,
    List.forall_mem_cons, holds.fills_iff (reads_optional reads_text)]
  constructor
  · rintro ⟨name, nameRead, kind, kindRead, status, statusRead, rfl⟩
    exact ⟨nameRead, kindRead, statusRead, List.forall_mem_nil _⟩
  · rintro ⟨name, kind, status, -⟩
    exact ⟨_, name, _, kind, _, status, rfl⟩

/-- Whatever its fields hold, the members are those of a patch. -/
theorem FilterPatch.complete : Complete FilterPatch.layout := by
  intro members
  simp only [FilterPatch.layout, List.forall_mem_cons]
  rintro ⟨⟨name, nameIs⟩, ⟨kind, kindIs⟩, ⟨status, statusIs⟩, -⟩
  exact ⟨⟨name, kind, status⟩, nameIs, kindIs, statusIs, List.forall_mem_nil _⟩

/-! ## View states -/

/-- Different columns have different titles. -/
theorem SortField.title_injective : SortField.title.Injective := by
  intro a b same
  have read := SortField.decode?_title a
  rw [same, SortField.decode?_title b] at read
  exact (Option.some.inj read).symm

/-- Different directions have different names. -/
theorem SortOrder.name_injective : SortOrder.name.Injective := by
  intro a b same
  have read := SortOrder.decode?_name a
  rw [same, SortOrder.decode?_name b] at read
  exact (Option.some.inj read).symm

/-- A column is read by its title. -/
theorem SortField.reads : Reads SortField.decode? (.choice SortField.title) :=
  reads_choice (fun f => by cases f <;> decide) SortField.title_injective

/-- A direction is read by its name. -/
theorem SortOrder.reads : Reads SortOrder.decode? (.choice SortOrder.name) :=
  reads_choice (fun o => by cases o <;> decide) SortOrder.name_injective

/-- The slots of a sorting. -/
def Sorting.layout : List (Slot Sorting) :=
  [⟨"field", .optional (.choice SortField.title), none, Sorting.field⟩,
   ⟨"order", .choice SortOrder.name, .ascending, Sorting.order⟩]

/-- A sorting is read by its layout. -/
theorem Sorting.reads : Reads Sorting.decode? (.record Sorting.layout) := by
  refine reads_record rfl fun fs members holds s => ?_
  simp only [bind, Option.bind_eq_some_iff, pure, Option.some_inj, Sorting.layout,
    List.forall_mem_cons, holds.fills_iff (reads_optional SortField.reads),
    holds.fills_iff SortOrder.reads]
  constructor
  · rintro ⟨field, fieldRead, order, orderRead, rfl⟩
    exact ⟨fieldRead, orderRead, List.forall_mem_nil _⟩
  · rintro ⟨field, order, -⟩
    exact ⟨_, field, _, order, rfl⟩

/-- Whatever its fields hold, the members are those of a sorting. -/
theorem Sorting.complete : Complete Sorting.layout := by
  intro members
  simp only [Sorting.layout, List.forall_mem_cons]
  rintro ⟨⟨field, fieldIs⟩, ⟨order, orderIs⟩, -⟩
  exact ⟨⟨field, order⟩, fieldIs, orderIs, List.forall_mem_nil _⟩

/-- A page size stands as its number. -/
def PageSize.meaning : Meaning PageSize :=
  .integer fun size => size.toNat

/-- A page size is made from its number alone. -/
theorem PageSize.toOption_ofSize {n : Nat} {size : PageSize} :
    (PageSize.ofSize n).toOption = some size ↔ n = size.toNat := by
  constructor
  · intro found
    cases valid : PageSize.ofSize n with
    | error e =>
      rw [valid] at found
      cases found
    | ok other =>
      rw [valid] at found
      cases found
      exact (PageSize.toNat_of_ofSize valid).symm
  · rintro rfl
    cases size <;> rfl

/-- A page size is read by its number. -/
theorem PageSize.reads : Reads Pagination.decodeSize? PageSize.meaning := by
  intro v size
  rw [Pagination.decodeSize?, Option.bind_eq_bind, Option.bind_eq_some_iff]
  simp only [reads_uint64 v, PageSize.toOption_ofSize]
  constructor
  · rintro ⟨n, ⟨i, same, value⟩, found⟩
    exact ⟨i, same, value.trans (congrArg Nat.cast found)⟩
  · rintro ⟨i, same, value⟩
    have word : (UInt64.ofNat size.toNat).toNat = size.toNat := by cases size <;> rfl
    exact ⟨.ofNat size.toNat, ⟨i, same, value.trans (congrArg Nat.cast word.symm)⟩, word⟩

/-- A page number stands as an unsigned integer of 64 bits. -/
def pageNumber : Meaning Nat :=
  .integer fun n => n

/-- A page number is read by its word. -/
theorem reads_pageNumber : Reads (fun d => d.uint64?.map UInt64.toNat) pageNumber := by
  intro v n
  simp only [Option.map_eq_some_iff, reads_uint64 v]
  constructor
  · rintro ⟨word, ⟨i, same, value⟩, rfl⟩
    exact ⟨i, same, value⟩
  · rintro ⟨i, same, value⟩
    have whole : i.val = (n : Int) := value
    have fits : n < 2 ^ 64 := by
      have := i.high
      omega
    have word : (UInt64.ofNat n).toNat = n := UInt64.toNat_ofNat_of_lt' fits
    exact ⟨.ofNat n, ⟨i, same, value.trans (congrArg Nat.cast word.symm)⟩, word⟩

/-- The slots of a pagination. -/
def Pagination.layout : List (Slot Pagination) :=
  [⟨"pageSize", PageSize.meaning, .twenty, Pagination.pageSize⟩,
   ⟨"currentPage", pageNumber, 1, Pagination.currentPage⟩]

/-- A pagination is read by its layout. -/
theorem Pagination.reads : Reads Pagination.decode? (.record Pagination.layout) := by
  refine reads_record rfl fun fs members holds p => ?_
  simp only [bind, Option.bind_eq_some_iff, pure, Option.some_inj, Pagination.layout,
    List.forall_mem_cons, holds.fills_iff PageSize.reads, holds.fills_iff reads_pageNumber]
  constructor
  · rintro ⟨size, sizeRead, page, pageRead, rfl⟩
    exact ⟨sizeRead, pageRead, List.forall_mem_nil _⟩
  · rintro ⟨size, page, -⟩
    exact ⟨_, size, _, page, rfl⟩

/-- Whatever its fields hold, the members are those of a pagination. -/
theorem Pagination.complete : Complete Pagination.layout := by
  intro members
  simp only [Pagination.layout, List.forall_mem_cons]
  rintro ⟨⟨size, sizeIs⟩, ⟨page, pageIs⟩, -⟩
  exact ⟨⟨size, page⟩, sizeIs, pageIs, List.forall_mem_nil _⟩

/-- The slots of a view state. -/
def ViewState.layout : List (Slot ViewState) :=
  [⟨"filter", .record Filter.layout, {}, ViewState.filter⟩,
   ⟨"sort", .record Sorting.layout, {}, ViewState.sort⟩,
   ⟨"page", .record Pagination.layout, {}, ViewState.page⟩]

/-- A saved state is read by its layout. -/
theorem ViewState.reads : Reads ViewState.decode? (.record ViewState.layout) := by
  refine reads_record rfl fun fs members holds s => ?_
  simp only [bind, Option.bind_eq_some_iff, pure, Option.some_inj, ViewState.layout,
    List.forall_mem_cons, holds.fills_iff Filter.reads, holds.fills_iff Sorting.reads,
    holds.fills_iff Pagination.reads]
  constructor
  · rintro ⟨filter, filterRead, sort, sortRead, page, pageRead, rfl⟩
    exact ⟨filterRead, sortRead, pageRead, List.forall_mem_nil _⟩
  · rintro ⟨filter, sort, page, -⟩
    exact ⟨_, filter, _, sort, _, page, rfl⟩

/-- Whatever its fields hold, the members are those of a saved state. -/
theorem ViewState.complete : Complete ViewState.layout := by
  intro members
  simp only [ViewState.layout, List.forall_mem_cons]
  rintro ⟨⟨filter, filterIs⟩, ⟨sort, sortIs⟩, ⟨page, pageIs⟩, -⟩
  exact ⟨⟨filter, sort, page⟩, filterIs, sortIs, pageIs, List.forall_mem_nil _⟩

end Table

/-! ## What fields take -/

open Numeral Table Wire

/-- The values that the fields of each kind take. -/
structure FieldsTake : Prop where
  text : ∀ v, Meaning.text.Takes v ↔ ∃ s, v = .string s
  int64 : ∀ v, Meaning.int64.Takes v ↔
    ∃ i : WireInt, v = .number (.int i) ∧ -2 ^ 63 ≤ i.val ∧ i.val < 2 ^ 63
  uint64 : ∀ v, Meaning.uint64.Takes v ↔
    ∃ i : WireInt, v = .number (.int i) ∧ 0 ≤ i.val ∧ i.val < 2 ^ 64
  uint16 : ∀ v, Meaning.uint16.Takes v ↔
    ∃ i : WireInt, v = .number (.int i) ∧ 0 ≤ i.val ∧ i.val < 2 ^ 16
  page : ∀ v, Table.pageNumber.Takes v ↔
    ∃ i : WireInt, v = .number (.int i) ∧ 0 ≤ i.val ∧ i.val < 2 ^ 64
  pageSize : ∀ v, Table.PageSize.meaning.Takes v ↔
    ∃ i : WireInt, v = .number (.int i) ∧ (i.val = 10 ∨ i.val = 20 ∨ i.val = 50 ∨ i.val = 100)
  float : ∀ v, Meaning.float.Takes v ↔ ∃ n, v = .number n
  timestamp : ∀ v, Wire.Timestamp.meaning.Takes v ↔
    (∃ i : WireInt, v = .number (.int i) ∧ -2 ^ 63 ≤ i.val ∧ i.val < 2 ^ 63) ∨ ∃ s, v = .string s
  optional : ∀ {β : Type} (m : Meaning β) v, m.optional.Takes v ↔ v = .null ∨ m.Takes v
  nullableList : ∀ {β : Type} (m : Meaning β) v, m.nullableList.Takes v ↔
    v = .null ∨ ∃ items, v = .array items ∧ ∀ item ∈ items, m.Takes item
  /-- An integer in the place of a floating-point number is rounded to one. -/
  rounded : ∀ (i : WireInt) x, Meaning.float (.number (.int i)) x →
    x.negative = decide (i.val < 0) ∧ x.Rounds i.val.natAbs
  /-- A number that is written with a fraction or an exponent is no integer. -/
  written : ∀ (l : NumberLiteral) i, l.value? = some (.int i) →
    l.fraction = none ∧ l.exponent = none

/-- A field of integers takes those that one of its contents stands for. -/
theorem takes_integer {β : Type} {toInt : β → Int} {P : Int → Prop}
    (attained : ∀ i : WireInt, (∃ b, i.val = toInt b) ↔ P i.val) (v : Value) :
    (Meaning.integer toInt).Takes v ↔ ∃ i : WireInt, v = .number (.int i) ∧ P i.val := by
  constructor
  · rintro ⟨b, i, same, value⟩
    exact ⟨i, same, (attained i).1 ⟨b, value⟩⟩
  · rintro ⟨i, same, bound⟩
    obtain ⟨b, value⟩ := (attained i).2 bound
    exact ⟨b, i, same, value⟩

/-- A signed integer takes the integers of 64 bits. -/
theorem takes_int64 (v : Value) : Meaning.int64.Takes v ↔
    ∃ i : WireInt, v = .number (.int i) ∧ -2 ^ 63 ≤ i.val ∧ i.val < 2 ^ 63 := by
  refine takes_integer (P := fun n => -2 ^ 63 ≤ n ∧ n < 2 ^ 63) (fun i => ?_) v
  constructor
  · rintro ⟨n, value⟩
    rw [value]
    exact ⟨n.le_toInt, n.toInt_lt⟩
  · rintro ⟨low, high⟩
    exact ⟨.ofInt i.val, (Int64.toInt_ofInt_of_le low high).symm⟩

/-- An unsigned integer takes the integers from zero on of 64 bits. -/
theorem takes_uint64 (v : Value) : Meaning.uint64.Takes v ↔
    ∃ i : WireInt, v = .number (.int i) ∧ 0 ≤ i.val ∧ i.val < 2 ^ 64 := by
  refine takes_integer (P := fun n => 0 ≤ n ∧ n < 2 ^ 64) (fun i => ?_) v
  constructor
  · rintro ⟨n, value⟩
    have bound := n.toNat_lt
    omega
  · rintro ⟨low, high⟩
    have fits : i.val.toNat < 2 ^ 64 := by omega
    exact ⟨.ofNat i.val.toNat, by rw [UInt64.toNat_ofNat_of_lt' fits, Int.toNat_of_nonneg low]⟩

/-- A short unsigned integer takes the integers from zero on of 16 bits. -/
theorem takes_uint16 (v : Value) : Meaning.uint16.Takes v ↔
    ∃ i : WireInt, v = .number (.int i) ∧ 0 ≤ i.val ∧ i.val < 2 ^ 16 := by
  refine takes_integer (P := fun n => 0 ≤ n ∧ n < 2 ^ 16) (fun i => ?_) v
  constructor
  · rintro ⟨n, value⟩
    have bound := n.toNat_lt
    omega
  · rintro ⟨low, high⟩
    have fits : i.val.toNat < 2 ^ 16 := by omega
    exact ⟨.ofNat i.val.toNat, by rw [UInt16.toNat_ofNat_of_lt' fits, Int.toNat_of_nonneg low]⟩

/-- A page number takes the integers from zero on of 64 bits. -/
theorem takes_pageNumber (v : Value) : Table.pageNumber.Takes v ↔
    ∃ i : WireInt, v = .number (.int i) ∧ 0 ≤ i.val ∧ i.val < 2 ^ 64 := by
  refine takes_integer (P := fun n => 0 ≤ n ∧ n < 2 ^ 64) (fun i => ?_) v
  constructor
  · rintro ⟨n, value⟩
    have bound := i.high
    omega
  · rintro ⟨low, -⟩
    exact ⟨i.val.toNat, (Int.toNat_of_nonneg low).symm⟩

/-- A page size takes the four sizes. -/
theorem takes_pageSize (v : Value) : Table.PageSize.meaning.Takes v ↔
    ∃ i : WireInt, v = .number (.int i) ∧
      (i.val = 10 ∨ i.val = 20 ∨ i.val = 50 ∨ i.val = 100) := by
  refine takes_integer (P := fun n => n = 10 ∨ n = 20 ∨ n = 50 ∨ n = 100) (fun i => ?_) v
  constructor
  · rintro ⟨size, value⟩
    cases size with
    | ten => exact .inl value
    | twenty => exact .inr (.inl value)
    | fifty => exact .inr (.inr (.inl value))
    | hundred => exact .inr (.inr (.inr value))
  · rintro (ten | twenty | fifty | hundred)
    · exact ⟨.ten, ten⟩
    · exact ⟨.twenty, twenty⟩
    · exact ⟨.fifty, fifty⟩
    · exact ⟨.hundred, hundred⟩

/-- An integer in the place of a floating-point number is rounded to one. -/
theorem exists_nearest (i : WireInt) : ∃ x, Finite64.ofInt? i.val = some x ∧
    x.negative = decide (i.val < 0) ∧ x.Rounds i.val.natAbs := by
  refine Finite64.exists_ofInt? ?_
  have low := i.low
  have high := i.high
  omega

/-- A number takes every number. -/
theorem takes_float (v : Value) : Meaning.float.Takes v ↔ ∃ n, v = .number n := by
  constructor
  · rintro ⟨x, rfl | ⟨i, rfl, -⟩⟩
    · exact ⟨_, rfl⟩
    · exact ⟨_, rfl⟩
  · rintro ⟨n, rfl⟩
    cases n with
    | int i =>
      obtain ⟨x, nearest, -⟩ := exists_nearest i
      exact ⟨x, .inr ⟨i, rfl, nearest⟩⟩
    | float x => exact ⟨x, .inl rfl⟩

/-- A timestamp takes the integers of 64 bits and all texts. -/
theorem takes_timestamp (v : Value) : Wire.Timestamp.meaning.Takes v ↔
    (∃ i : WireInt, v = .number (.int i) ∧ -2 ^ 63 ≤ i.val ∧ i.val < 2 ^ 63) ∨
      ∃ s, v = .string s := by
  rw [← takes_int64]
  constructor
  · rintro ⟨ms | s, meant⟩
    · exact .inl ⟨ms, meant⟩
    · exact .inr ⟨s, meant⟩
  · rintro (⟨ms, meant⟩ | ⟨s, meant⟩)
    · exact ⟨.millis ms, meant⟩
    · exact ⟨.text s, meant⟩

/-- An optional value takes null besides what the value takes. -/
theorem takes_optional {β : Type} (m : Meaning β) (v : Value) :
    m.optional.Takes v ↔ v = .null ∨ m.Takes v := by
  constructor
  · rintro ⟨_ | b, meant⟩
    · exact .inl meant
    · exact .inr ⟨b, meant.2⟩
  · intro taken
    by_cases null : v = .null
    · exact ⟨none, null⟩
    · obtain ⟨b, meant⟩ := taken.resolve_left null
      exact ⟨some b, null, meant⟩

/-- A list of items means something when each item does. -/
theorem exists_forall₂_iff {β : Type} {m : Meaning β} {items : List Value} :
    (∃ bs, List.Forall₂ m items bs) ↔ ∀ item ∈ items, m.Takes item := by
  induction items with
  | nil => simp
  | cons v rest ih =>
    rw [List.forall_mem_cons, ← ih]
    constructor
    · rintro ⟨_, each⟩
      cases each with
      | cons here later => exact ⟨⟨_, here⟩, _, later⟩
    · rintro ⟨⟨b, here⟩, bs, later⟩
      exact ⟨b :: bs, .cons here later⟩

/-- A list that may be null takes null and the lists whose items are taken. -/
theorem takes_nullableList {β : Type} (m : Meaning β) (v : Value) :
    m.nullableList.Takes v ↔
      v = .null ∨ ∃ items, v = .array items ∧ ∀ item ∈ items, m.Takes item := by
  simp only [← exists_forall₂_iff]
  constructor
  · rintro ⟨bs, ⟨null, -⟩ | ⟨items, same, each⟩⟩
    · exact .inl null
    · exact .inr ⟨items, same, bs, each⟩
  · rintro (null | ⟨items, same, bs, each⟩)
    · exact ⟨[], .inl ⟨null, rfl⟩⟩
    · exact ⟨bs, .inr ⟨items, same, each⟩⟩

/-- A number that is written with a fraction or an exponent is no integer. -/
theorem written_of_value? {l : NumberLiteral} {i : WireInt} (h : l.value? = some (.int i)) :
    l.fraction = none ∧ l.exponent = none := by
  rw [NumberLiteral.value?] at h
  split at h
  · next fraction exponent => exact ⟨fraction, exponent⟩
  · obtain ⟨x, -, same⟩ := Option.map_eq_some_iff.1 h
    cases same

/-- Every field takes what its format says. -/
theorem fieldsTake : FieldsTake where
  text v := Iff.rfl
  int64 := takes_int64
  uint64 := takes_uint64
  uint16 := takes_uint16
  page := takes_pageNumber
  pageSize := takes_pageSize
  float := takes_float
  timestamp := takes_timestamp
  optional := takes_optional
  nullableList := takes_nullableList
  rounded i x meant := by
    rcases meant with same | ⟨j, same, nearest⟩
    · cases same
    · cases same
      obtain ⟨y, found, rounded⟩ := exists_nearest i
      cases found.symm.trans nearest
      exact rounded
  written l i := written_of_value?

/-- Every record of the wire, and what a user selected of a table, is read from an object exactly if
each member under one of its names has a value of that field; each field then is what its value
means, or its default, and neither other members nor the order of members make a difference.  Texts
are taken from strings alone, integers from numbers without fraction and exponent that lie in the
range of the field, floating-point numbers from all numbers, and `null` only for what is optional and
for the two lists. -/
theorem records_tolerant :
    FieldsTake
      ∧ (Tolerant Task.layout
            ["Type", "Status", "WriteSpeed", "LastUpdate", "ColPolicy", "Rate"] Task.decode?
        ∧ Tolerant TaskList.layout ["Tasks"] TaskList.decode?
        ∧ Tolerant StatusSnapshot.layout
            ["status", "startTime", "lastActiveTime", "messagesTotal", "messagesPerSec", "kafkaLag",
             "lastError"] StatusSnapshot.decode?
        ∧ Tolerant ProcessInfo.layout [] ProcessInfo.decode?
        ∧ Tolerant LaunchOptions.layout [] LaunchOptions.decode?
        ∧ Tolerant LogPage.layout ["Lines"] LogPage.decode?)
      ∧ Tolerant Filter.layout ["type", "status"] Filter.decode?
      ∧ Tolerant FilterPatch.layout ["name", "type", "status"] FilterPatch.decode?
      ∧ Tolerant Sorting.layout ["field"] Sorting.decode?
      ∧ Tolerant Pagination.layout [] Pagination.decode?
      ∧ Tolerant ViewState.layout [] ViewState.decode? := by
  refine ⟨fieldsTake, ⟨?_, ?_, ?_, ?_, ?_, ?_⟩, ?_, ?_, ?_, ?_, ?_⟩
  · exact tolerant_of_reads Task.reads Task.complete (by simp [Task.layout, Meaning.int64])
  · exact tolerant_of_reads TaskList.reads TaskList.complete
      (by simp [TaskList.layout, Meaning.uint64])
  · exact tolerant_of_reads StatusSnapshot.reads StatusSnapshot.complete
      (by simp [StatusSnapshot.layout, Meaning.uint64])
  · exact tolerant_of_reads ProcessInfo.reads ProcessInfo.complete
      (by simp [ProcessInfo.layout, Meaning.int64, Meaning.uint64])
  · exact tolerant_of_reads LaunchOptions.reads LaunchOptions.complete
      (by simp [LaunchOptions.layout, Meaning.uint16])
  · exact tolerant_of_reads LogPage.reads LogPage.complete (by simp [LogPage.layout, Meaning.uint64])
  · exact tolerant_of_reads Filter.reads Filter.complete (by simp [Filter.layout])
  · exact tolerant_of_reads FilterPatch.reads FilterPatch.complete (by simp [FilterPatch.layout])
  · exact tolerant_of_reads Sorting.reads Sorting.complete (by simp [Sorting.layout])
  · exact tolerant_of_reads Pagination.reads Pagination.complete
      (by simp [Pagination.layout, PageSize.meaning, pageNumber])
  · exact tolerant_of_reads ViewState.reads ViewState.complete (by simp [ViewState.layout])

end IngestConsole
