import DigestSync.Proofs.Store.Differences
import DigestSync.Proofs.Store.TaskRows
import DigestSync.Store.Database

set_option autoImplicit false

/-! # The tables refine the memory store

The rows of the tables stand for a memory store if those of each table agree with the
part of the store that is kept there.  A call whose names are proper is then answered
alike by both, and leaves rows that stand for the memory store it leaves.  A database
that was opened before has its tables already, so opening it again changes nothing and
the answers stay alike over its whole life.
-/

namespace DigestSync

open scoped SeqOrder

/-- The names with which a call is made are read back from their written forms. -/
def StoreCall.IsProper : StoreCall → Prop
  | .deviceSeq device | .updateDeviceSeq device _ | .locator device => device.IsProper
  | .updateLocator device name => device.IsProper ∧ name.IsProper
  | .saveTask task | .mergeTask task => task.key.IsProper
  | .deleteTask key | .hasTask key => key.IsProper
  | .currentState | .rememberState | .isKnown _ | .snapshot _ | .findDifferences .. | .listTasks =>
    True

instance : (call : StoreCall) → Decidable call.IsProper
  | .deviceSeq device | .updateDeviceSeq device _ | .locator device =>
    inferInstanceAs (Decidable device.IsProper)
  | .updateLocator device name => inferInstanceAs (Decidable (device.IsProper ∧ name.IsProper))
  | .saveTask task | .mergeTask task => inferInstanceAs (Decidable task.key.IsProper)
  | .deleteTask key | .hasTask key => inferInstanceAs (Decidable key.IsProper)
  | .currentState | .rememberState | .isKnown _ | .snapshot _ | .findDifferences .. | .listTasks =>
    inferInstanceAs (Decidable True)

/-- The names with which a step is taken are read back from their written forms. -/
def StoreStep.IsProper : StoreStep → Prop
  | .call _ taken => taken.IsProper
  | .reopen => True

instance : (step : StoreStep) → Decidable step.IsProper
  | .call _ taken => inferInstanceAs (Decidable taken.IsProper)
  | .reopen => inferInstanceAs (Decidable True)

namespace TableStore

/-- The rows of all four tables. -/
structure Rows where
  devices : List DeviceRow
  digests : List Digest
  states : List StateRow
  tasks : List TaskRow

/-- The tables with these rows. -/
def Rows.toStore (rows : Rows) : TableStore :=
  ⟨some rows.devices, some rows.digests, some rows.states, some rows.tasks⟩

/-- The rows tell what a memory store knows of devices and states.  Of its tasks nothing is said. -/
structure Reflects (rows : Rows) (memory : MemoryStore) : Prop where
  devices : DevicesAgree rows.devices memory.seqs memory.locators
  states : StatesAgree rows.digests rows.states memory.digests

/-- The rows stand for a memory store, and no task was written after a time. -/
structure Refines (rows : Rows) (memory : MemoryStore) (now : Nat) : Prop
    extends Reflects rows memory where
  tasks : TasksAgree rows.tasks memory.tasks now

theorem reflects_empty : Reflects ⟨[], [], [], []⟩ .empty :=
  ⟨devicesAgree_empty, statesAgree_empty⟩

theorem refines_empty (now : Nat) : Refines ⟨[], [], [], []⟩ .empty now :=
  ⟨reflects_empty, tasksAgree_empty now⟩

variable {rows : Rows} {memory : MemoryStore} {now : Nat} {device : DeviceId} {task : FetchTask}
  {key : TaskKey}

theorem Refines.later (refines : Refines rows memory now) {after : Nat} (late : now ≤ after) :
    Refines rows memory after :=
  { refines with tasks := refines.tasks.later late }

/-! ## Devices -/

theorem Reflects.deviceSeq_eq (reflects : Reflects rows memory) (proper : device.IsProper) :
    rows.toStore.deviceSeq device = .ok (memory.deviceSeq device) := by
  have found : (deviceRow? rows.devices device.render).map (fun row => ofCell row.seq) =
      memory.deviceSeq device := by
    rw [reflects.devices.deviceRow?_eq proper, Option.map_map, MemoryStore.deviceSeq]
    simp [Function.comp_def, deviceRowOf]
  exact congrArg Except.ok found

theorem Reflects.updateDeviceSeq_eq (reflects : Reflects rows memory)
    (proper : device.IsProper) (seq : Seq) :
    ∃ devices, rows.toStore.updateDeviceSeq device seq =
        .ok ((memory.updateDeviceSeq device seq).1, { rows with devices }.toStore) ∧
      Reflects { rows with devices } (memory.updateDeviceSeq device seq).2 := by
  have stored : ((deviceRow? rows.devices device.render).map
      fun found => max (ofCell found.seq) seq).getD seq =
        max ((memory.deviceSeq device).getD 0) seq := by
    rw [reflects.devices.deviceRow?_eq proper, MemoryStore.deviceSeq]
    cases memory.seqs.find? device with
    | none => exact (max_eq_right UInt64.zero_le).symm
    | some old => simp [deviceRowOf]
  have row : (⟨device.render, toCell (max ((memory.deviceSeq device).getD 0) seq),
      (deviceRow? rows.devices device.render).bind (·.locator)⟩ : DeviceRow) =
        deviceRowOf memory.locators (device, max ((memory.deviceSeq device).getD 0) seq) := by
    rw [reflects.devices.locator_eq proper _ rfl]
    rfl
  refine ⟨putDeviceRow rows.devices (deviceRowOf memory.locators
    (device, max ((memory.deviceSeq device).getD 0) seq)), ?_, ?_⟩
  · simp only [TableStore.updateDeviceSeq, Rows.toStore, rowsOf, bind, Except.bind, stored, row]
    rfl
  · refine { reflects with devices := reflects.devices.put proper _ (fun _ _ => rfl) ?_ }
    exact fun name place => (reflects.devices.located device name place).1

theorem Reflects.locator_eq (reflects : Reflects rows memory) (proper : device.IsProper) :
    rows.toStore.locator device = .ok (memory.locator device) := by
  have read := reflects.devices.locator_eq proper _ rfl
  simp only [TableStore.locator, Rows.toStore, rowsOf, bind, Except.bind, pure, Except.pure, read,
    MemoryStore.locator]
  cases place : memory.locators.find? device with
  | none => rfl
  | some name =>
    have fits := (reflects.devices.located device name place).1
    simp only [Option.map_some, parseName_render fits]

theorem Reflects.updateLocator_eq (reflects : Reflects rows memory)
    (proper : device.IsProper) {locator : Name} (fits : locator.IsProper) :
    ∃ devices, rows.toStore.updateLocator device locator = .ok { rows with devices }.toStore ∧
      Reflects { rows with devices } (memory.updateLocator device locator) := by
  have cell : ((deviceRow? rows.devices device.render).map (·.seq)).getD 0 =
      toCell ((memory.deviceSeq device).getD 0) := by
    rw [reflects.devices.deviceRow?_eq proper, MemoryStore.deviceSeq]
    cases memory.seqs.find? device <;> rfl
  have placed : (memory.locators.insert device locator).find? device = some locator := by
    rw [SortedMap.find?_insert, if_pos rfl]
  have row : (⟨device.render, toCell ((memory.deviceSeq device).getD 0), some locator.render⟩ :
      DeviceRow) = deviceRowOf (memory.locators.insert device locator)
        (device, (memory.deviceSeq device).getD 0) := by
    rw [deviceRowOf, placed]
    rfl
  refine ⟨putDeviceRow rows.devices (deviceRowOf (memory.locators.insert device locator)
    (device, (memory.deviceSeq device).getD 0)), ?_, ?_⟩
  · rw [← row, ← cell]
    rfl
  · refine { reflects with devices := reflects.devices.put proper _ (fun other away => ?_) ?_ }
    · rw [SortedMap.find?_insert, if_neg away]
    · intro name place
      rw [placed] at place
      cases place
      exact fits

/-! ## States -/

theorem Reflects.currentState_eq (reflects : Reflects rows memory) :
    rows.toStore.currentState = .ok memory.currentState := by
  have read := reflects.devices.currentState_eq
  simp only [TableStore.currentState, Rows.toStore, rowsOf, bind, Except.bind, pure, Except.pure]
  cases parsed : parseEntries ((rows.devices.filter fun row => row.seq ≠ 0).map
      fun row => (row.device, row.seq)) with
  | error fault =>
    rw [parsed] at read
    cases read
  | ok entries =>
    rw [parsed] at read
    exact read

theorem Reflects.rememberState_eq (reflects : Reflects rows memory) :
    ∃ digests states, rows.toStore.rememberState =
        .ok (memory.rememberState.1, { rows with digests, states }.toStore) ∧
      Reflects { rows with digests, states } memory.rememberState.2 := by
  have proper : ∀ entry ∈ memory.currentState.entries, entry.1.IsProper := by
    intro entry member
    exact reflects.devices.proper entry (Snapshot.mem_entries_ofMap.mp member).1
  refine ⟨(rows.digests.filter fun other => other ≠ memory.currentState.digest) ++
      [memory.currentState.digest],
    (rows.states.filter fun row => row.digest ≠ memory.currentState.digest) ++
      memory.currentState.entries.map (stateRowOf memory.currentState.digest), ?_,
    { reflects with states := reflects.states.record _ proper }⟩
  simp only [TableStore.rememberState, reflects.currentState_eq]
  rfl

theorem Reflects.isKnown_eq (reflects : Reflects rows memory) (digest : Digest) :
    rows.toStore.isKnown digest = .ok (memory.isKnown digest) := by
  have listed : rows.digests.contains digest = memory.digests.contains digest := by
    rw [Bool.eq_iff_iff, List.contains_iff_mem, reflects.states.known, SortedMap.contains,
      Option.isSome_iff_exists]
  unfold TableStore.isKnown MemoryStore.isKnown
  cases digest.isOrigin with
  | true => rfl
  | false => exact congrArg Except.ok listed

/-- A known digest has the state of the digest; an unknown one has none. -/
theorem snapshot_eq_ite (memory : MemoryStore) (digest : Digest) :
    memory.snapshot digest =
      if memory.isKnown digest then some (stateOf memory.digests digest) else none := by
  unfold MemoryStore.snapshot MemoryStore.isKnown stateOf SortedMap.contains
  cases memory.digests.find? digest <;> cases digest.isOrigin <;> rfl

theorem Reflects.snapshot_eq (reflects : Reflects rows memory) (digest : Digest) :
    rows.toStore.snapshot digest = .ok (memory.snapshot digest) := by
  have read := reflects.states.ofEntries_eq digest
  simp only [TableStore.snapshot, reflects.isKnown_eq, snapshot_eq_ite]
  cases memory.isKnown digest with
  | false => rfl
  | true =>
    cases parsed : parseEntries ((stateRows rows.states digest).map
        fun row => (row.device, row.seq)) with
    | error fault =>
      rw [parsed] at read
      cases read
    | ok entries =>
      rw [parsed] at read
      simp only [Rows.toStore, rowsOf, bind, Except.bind, pure, Except.pure, if_true, parsed]
      exact congrArg (fun state => Except.ok (some state)) (Except.ok.inj read)

theorem Reflects.findDifferences_eq (reflects : Reflects rows memory) (old new : Digest)
    (includeOld : Bool) :
    rows.toStore.findDifferences old new includeOld =
      memory.findDifferences old new includeOld := by
  have read := reflects.states.toRecords_differences reflects.devices old new includeOld
  simp only [TableStore.findDifferences, MemoryStore.findDifferences, reflects.isKnown_eq,
    snapshot_eq_ite]
  cases memory.isKnown old with
  | false => rfl
  | true =>
    cases memory.isKnown new with
    | false => rfl
    | true =>
      simp only [Rows.toStore, rowsOf, bind, Except.bind, pure, Except.pure, if_true]
      cases told : toRecords includeOld (differences rows.devices (stateRows rows.states old)
          (stateRows rows.states new)) with
      | error fault =>
        rw [told] at read
        cases read
      | ok records =>
        rw [told] at read
        exact read

/-! ## Tasks -/

theorem Refines.hasTask_eq (refines : Refines rows memory now) (own : key.IsProper) :
    rows.toStore.hasTask key = .ok (memory.hasTask key) :=
  congrArg Except.ok (refines.tasks.any_eq own)

theorem Refines.saveTask_eq (refines : Refines rows memory now) (own : task.key.IsProper) :
    ∃ tasks, rows.toStore.saveTask task now =
        .ok ((memory.saveTask task).1, { rows with tasks }.toStore) ∧
      Refines { rows with tasks } (memory.saveTask task).2 now := by
  simp only [TableStore.saveTask, MemoryStore.saveTask, refines.hasTask_eq own]
  cases taken : memory.hasTask task.key with
  | true => exact ⟨rows.tasks, rfl, refines⟩
  | false =>
    have free : memory.task? task.key = none := by
      simpa [MemoryStore.hasTask] using taken
    exact ⟨rows.tasks ++ [rowOfTask task now], rfl,
      { refines with tasks := refines.tasks.add own free }⟩

theorem Refines.mergeTask_eq (refines : Refines rows memory now) (own : task.key.IsProper) :
    ∃ tasks, rows.toStore.mergeTask task now =
        .ok ((memory.mergeTask task).1, { rows with tasks }.toStore) ∧
      Refines { rows with tasks } (memory.mergeTask task).2 now := by
  cases found : memory.task? task.key with
  | none =>
    have absent : (rows.tasks.find? fun row =>
        hasKey row task.producer.render task.baseName.render) = none :=
      refines.tasks.find?_eq_none own found
    refine ⟨rows.tasks ++ [rowOfTask task now], ?_, ?_⟩
    · simp only [TableStore.mergeTask, MemoryStore.mergeTask, found, Rows.toStore, rowsOf, bind,
        Except.bind, absent]
      rfl
    · simp only [MemoryStore.mergeTask, found]
      exact { refines with tasks := refines.tasks.add own found }
  | some stored =>
    have same : stored.key = task.key := MemoryStore.key_of_task? found
    have proper : stored.key.IsProper := same ▸ own
    obtain ⟨createdAt, row⟩ : ∃ createdAt, (rows.tasks.find? fun row =>
        hasKey row task.producer.render task.baseName.render) = some (rowOfTask stored createdAt) :=
      refines.tasks.find?_eq_some own found
    simp only [TableStore.mergeTask, MemoryStore.mergeTask, found, Rows.toStore, rowsOf, bind,
      Except.bind, row, taskOfRow_rowOfTask proper]
    by_cases reached : stored.widen task = stored
    · refine ⟨rows.tasks, ?_, ?_⟩
      · rw [if_pos reached, reached]
        rfl
      · have kept := replace_widened_eq refines.tasks.isKeyed found reached
        refine { refines with tasks := ?_ }
        rw [kept]
        exact refines.tasks
    · refine ⟨overwriteTask rows.tasks (stored.widen task), ?_, ?_⟩
      · rw [if_neg reached]
        rfl
      · have widened : (stored.widen task).key = task.key := same
        have proper : (stored.widen task).key.IsProper := widened ▸ own
        have written := refines.tasks.overwrite proper
        rw [widened] at written
        exact { refines with tasks := written }

theorem Refines.deleteTask_eq (refines : Refines rows memory now) (own : key.IsProper) :
    ∃ tasks, rows.toStore.deleteTask key =
        .ok ((memory.deleteTask key).1, { rows with tasks }.toStore) ∧
      Refines { rows with tasks } (memory.deleteTask key).2 now := by
  refine ⟨rows.tasks.filter fun row => !hasKey row key.producer.render key.baseName.render, ?_,
    { refines with tasks := refines.tasks.remove own }⟩
  simp only [TableStore.deleteTask, refines.hasTask_eq own]
  rfl

theorem Refines.listTasks_eq (refines : Refines rows memory now) :
    rows.toStore.listTasks = .ok memory.listTasks :=
  refines.tasks.toTasks_eq

/-! ## Calls -/

/-- The tables answer as the memory store does, and are left with rows that stand for the
memory store that is left. -/
def Matches (now : Nat) (answered : Except StoreFault (StoreAnswer × TableStore))
    (expected : Except StoreFault (StoreAnswer × MemoryStore)) : Prop :=
  (∃ fault, answered = .error fault ∧ expected = .error fault) ∨
    ∃ answer rows memory, answered = .ok (answer, Rows.toStore rows) ∧
      expected = .ok (answer, memory) ∧ Refines rows memory now

theorem Matches.answer {answer : StoreAnswer} {left : MemoryStore}
    {answered : Except StoreFault (StoreAnswer × TableStore)}
    {expected : Except StoreFault (StoreAnswer × MemoryStore)} (refines : Refines rows left now)
    (here : answered = .ok (answer, rows.toStore)) (there : expected = .ok (answer, left)) :
    Matches now answered expected :=
  Or.inr ⟨answer, rows, left, here, there, refines⟩

/-- A call with proper names is answered alike. -/
theorem Refines.take_matches (refines : Refines rows memory now) {call : StoreCall}
    (proper : call.IsProper) : Matches now (rows.toStore.take now call) (memory.take call) := by
  cases call with
  | deviceSeq device =>
    refine .answer refines ?_ rfl
    simp only [TableStore.take, refines.deviceSeq_eq proper]
    rfl
  | updateDeviceSeq device seq =>
    obtain ⟨devices, answered, kept⟩ := refines.updateDeviceSeq_eq proper seq
    refine .answer { kept with tasks := refines.tasks } ?_ rfl
    simp only [TableStore.take, answered]
    rfl
  | locator device =>
    refine .answer refines ?_ rfl
    simp only [TableStore.take, refines.locator_eq proper]
    rfl
  | updateLocator device locator =>
    obtain ⟨devices, answered, kept⟩ := refines.updateLocator_eq proper.1 proper.2
    refine .answer { kept with tasks := refines.tasks } ?_ rfl
    simp only [TableStore.take, answered]
    rfl
  | currentState =>
    refine .answer refines ?_ rfl
    simp only [TableStore.take, refines.currentState_eq]
    rfl
  | rememberState =>
    obtain ⟨digests, states, answered, kept⟩ := refines.rememberState_eq
    refine .answer { kept with tasks := refines.tasks } ?_ rfl
    simp only [TableStore.take, answered]
    rfl
  | isKnown digest =>
    refine .answer refines ?_ rfl
    simp only [TableStore.take, refines.isKnown_eq]
    rfl
  | snapshot digest =>
    refine .answer refines ?_ rfl
    simp only [TableStore.take, refines.snapshot_eq]
    rfl
  | findDifferences old new includeOld =>
    simp only [TableStore.take, MemoryStore.take, refines.findDifferences_eq]
    cases memory.findDifferences old new includeOld with
    | error fault => exact Or.inl ⟨fault, rfl, rfl⟩
    | ok records => exact .answer refines rfl rfl
  | saveTask task =>
    obtain ⟨tasks, answered, kept⟩ := refines.saveTask_eq proper
    refine .answer kept ?_ rfl
    simp only [TableStore.take, answered]
    rfl
  | mergeTask task =>
    obtain ⟨tasks, answered, kept⟩ := refines.mergeTask_eq proper
    refine .answer kept ?_ rfl
    simp only [TableStore.take, answered]
    rfl
  | deleteTask key =>
    obtain ⟨tasks, answered, kept⟩ := refines.deleteTask_eq proper
    refine .answer kept ?_ rfl
    simp only [TableStore.take, answered]
    rfl
  | hasTask key =>
    refine .answer refines ?_ rfl
    simp only [TableStore.take, refines.hasTask_eq proper]
    rfl
  | listTasks =>
    refine .answer refines ?_ rfl
    simp only [TableStore.take, refines.listTasks_eq]
    rfl

end TableStore

/-! ## Openings -/

/-- The database has been brought to a version that the store works with. -/
def Catalog.IsCurrent (catalog : Catalog) : Prop :=
  ∃ versions, catalog.versions = some versions ∧ currentVersion ≤ version versions ∧
    version versions < UInt32.size

theorem Catalog.migrate_of_isCurrent {catalog : Catalog} (current : catalog.IsCurrent) :
    catalog.migrate = (.ok (), catalog) := by
  obtain ⟨versions, held, atLeast, below⟩ := current
  have opened : ({ catalog with versions := some versions } : Catalog) = catalog := by
    rw [← held]
  simp only [migrate, held, Option.isNone_some, Bool.false_and, Option.getD_some, opened,
    if_neg (Nat.not_le.mpr below), if_pos atLeast]
  rfl

namespace Database

/-- Opening a database that is up to date changes nothing. -/
theorem connect_of_isCurrent {database : Database} (current : database.catalog.IsCurrent) :
    database.connect = .ok database := by
  simp only [connect, Catalog.migrate_of_isCurrent current, if_true]

/-- The first opening of a database adds the tables without rows. -/
theorem connect_blank :
    ∃ database, blank.connect = .ok database ∧ database.catalog.IsCurrent ∧
      database.store = .empty := by
  have migrated : blank.catalog.migrate = (.ok (), ⟨Catalog.storeTables, some [1]⟩) := rfl
  have added : ¬Catalog.storeTables = blank.catalog.tables := by decide
  refine ⟨⟨⟨Catalog.storeTables, some [1]⟩, .empty⟩, ?_, ⟨[1], rfl, by decide, by decide⟩, rfl⟩
  simp only [connect, migrated, if_neg added]

/-- From rows that stand for a memory store on, the answers are those of this store. -/
theorem answersTo_eq_of_refines {steps : List StoreStep} {catalog : Catalog}
    {rows : TableStore.Rows} {memory : MemoryStore} {now : Nat} (current : catalog.IsCurrent)
    (refines : TableStore.Refines rows memory now) (proper : ∀ step ∈ steps, step.IsProper)
    (forward : (now :: steps.filterMap StoreStep.time?).Pairwise (· ≤ ·)) :
    answersTo ⟨catalog, rows.toStore⟩ steps = memory.answersTo steps := by
  induction steps generalizing rows memory now with
  | nil => rfl
  | cons step rest ih =>
    obtain ⟨here, later⟩ := List.forall_mem_cons.mp proper
    cases step with
    | reopen =>
      have opened : connect ⟨catalog, rows.toStore⟩ = .ok ⟨catalog, rows.toStore⟩ :=
        connect_of_isCurrent current
      simp only [answersTo, MemoryStore.answersTo, opened]
      exact ih refines later forward
    | call time call =>
      obtain ⟨after, times⟩ := List.pairwise_cons.mp forward
      have refines := refines.later (after time List.mem_cons_self)
      rcases refines.take_matches here with ⟨fault, answered, expected⟩ |
        ⟨answer, left, kept, answered, expected, same⟩
      · simp only [answersTo, MemoryStore.answersTo, answered, expected]
        exact congrArg _ (ih refines later times)
      · simp only [answersTo, MemoryStore.answersTo, answered, expected]
        exact congrArg _ (ih same later times)

/-- A database that was never opened can be opened, and then answers every call as a
memory store does that knows nothing, no matter when it is closed and opened again. -/
theorem answersTo_eq_memory (steps : List StoreStep) (proper : ∀ step ∈ steps, step.IsProper)
    (forward : (steps.filterMap StoreStep.time?).Pairwise (· ≤ ·)) :
    ∃ database, blank.connect = .ok database ∧
      database.answersTo steps = MemoryStore.empty.answersTo steps := by
  obtain ⟨⟨catalog, store⟩, opened, current, rfl⟩ := connect_blank
  refine ⟨_, opened, ?_⟩
  exact answersTo_eq_of_refines current (TableStore.refines_empty 0) proper
    (List.pairwise_cons.mpr ⟨fun time _ => time.zero_le, forward⟩)

/-- A device with the highest number, whose name needs escapes, and two tasks are written;
what is read after another opening includes a state and an unknown digest. -/
def reopened : List StoreStep :=
  let device : DeviceId := ⟨.ofTexts ["a/b", "%"]⟩
  let task : FetchTask := ⟨device, .empty, 3, 0x8000000000000000, .normal⟩
  [.call 1 (.updateLocator device (.ofTexts ["home"])), .call 1 (.updateDeviceSeq device (-1)),
    .call 1 .rememberState, .call 2 (.mergeTask task), .reopen,
    .call 2 (.saveTask { task with baseName := .ofTexts [" "] }),
    .call 3 (.mergeTask { task with minSeq := 1, priority := .high }),
    .call 4 (.findDifferences Snapshot.empty.digest (.fill 7) true), .call 4 .listTasks,
    .call 5 .currentState, .call 5 (.locator device), .call 6 (.deleteTask task.key),
    .call 7 (.hasTask task.key), .call 7 (.deviceSeq device)]

/-- The answers to these calls are alike, and the last one is the highest number. -/
theorem answersTo_eq_memory_reopened :
    ∃ database, blank.connect = .ok database ∧
      database.answersTo reopened = MemoryStore.empty.answersTo reopened ∧
      (database.answersTo reopened).getLast?.bind Except.toOption = some (.seq (some (-1))) := by
  have proper : ∀ step ∈ reopened, step.IsProper := by decide +kernel
  have forward : (reopened.filterMap StoreStep.time?).Pairwise (· ≤ ·) := by decide
  obtain ⟨database, opened, same⟩ := answersTo_eq_memory reopened proper forward
  refine ⟨database, opened, same, ?_⟩
  rw [same]
  decide +kernel

end Database

end DigestSync
