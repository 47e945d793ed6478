import DigestSync.Proofs.Data.Concat
import DigestSync.Proofs.Store.TaskRows
import DigestSync.Store.Recording

set_option autoImplicit false

/-! # Merging tasks one after the other

The tasks of a key that has no row yet are merged into one row behind all others.  After
each call the row holds the hull of the tasks merged so far, so the order in which they come
and how often they come do not matter.

The tables list their rows by the times at which they were first written, and a time is
what the clock tells, which may be less than it was.  The row is listed last just if no other
row has a later time, as is the case while the clock never goes back.  Where it is listed
otherwise, the others keep their order.
-/

namespace DigestSync

open scoped SeqOrder

/-! ## Memory -/

namespace MemoryStore

variable {store : MemoryStore} {task stored : FetchTask}

/-- The store with one task more. -/
def withTask (store : MemoryStore) (task : FetchTask) : MemoryStore :=
  { store with tasks := store.tasks ++ [task] }

theorem mergeTask_of_free (free : store.hasTask task.key = false) :
    store.mergeTask task = (task, store.withTask task) := by
  have absent : store.task? task.key = none := by simpa [hasTask] using free
  rw [mergeTask, absent]
  rfl

/-- The task of the key is widened, and it is the last one. -/
theorem mergeTask_withTask (free : store.hasTask task.key = false) (same : stored.key = task.key) :
    (store.withTask stored).mergeTask task =
      (stored.widen task, store.withTask (stored.widen task)) := by
  have away : ∀ other ∈ store.tasks, ¬other.key = task.key := by
    simpa [hasTask, task?] using free
  have found : (store.withTask stored).task? task.key = some stored :=
    find?_concat (fun other member => decide_eq_false (away other member)) (decide_eq_true same)
  rw [mergeTask, found]
  simp only [withTask, map_ite_concat away same]

end MemoryStore

/-! ## Tables -/

namespace TableStore

variable {store : TableStore} {task stored : FetchTask} {now written : Nat}

/-- The tables with one task row more, written at a time. -/
def withTask (store : TableStore) (task : FetchTask) (written : Nat) : TableStore :=
  { store with tasks := store.tasks.map fun rows => rows ++ [rowOfTask task written] }

/-- Where a key is known to be free, the table of tasks is there and no row has the key. -/
theorem exists_rows_of_free (free : store.hasTask task.key = .ok false) :
    ∃ rows, store.tasks = some rows ∧
      ∀ row ∈ rows, hasKey row task.producer.render task.baseName.render = false := by
  obtain ⟨rows, there, none⟩ := exists_of_bind_eq_ok free
  have absent : (rows.any fun row => hasKey row task.producer.render task.baseName.render) =
      false := Except.ok.inj none
  exact ⟨rows, rowsOf_eq_ok_iff.mp there, by simpa using absent⟩

theorem mergeTask_of_free (free : store.hasTask task.key = .ok false) :
    store.mergeTask task now = .ok (task, store.withTask task now) := by
  obtain ⟨rows, there, away⟩ := exists_rows_of_free free
  have absent : (rows.find? fun row =>
      hasKey row task.producer.render task.baseName.render) = none := by
    simpa using away
  simp only [mergeTask, withTask, there, rowsOf, bind, Except.bind, absent, pure, Except.pure,
    Option.map_some]

/-- The task of the key is read back from its row, and the row is written anew with what it
is widened to. -/
theorem mergeTask_withTask (proper : task.key.IsProper) (free : store.hasTask task.key = .ok false)
    (same : stored.key = task.key) :
    (store.withTask stored written).mergeTask task now =
      .ok (stored.widen task, store.withTask (stored.widen task) written) := by
  obtain ⟨rows, there, away⟩ := exists_rows_of_free free
  obtain ⟨producer, baseName⟩ := TaskKey.mk.inj same
  have here : hasKey (rowOfTask stored written) task.producer.render task.baseName.render =
      true := by
    simp [hasKey, rowOfTask, producer, baseName]
  have found := find?_concat away here
  have read : taskOfRow (rowOfTask stored written) = .ok stored :=
    taskOfRow_rowOfTask (same ▸ proper) written
  have rewritten : overwriteTask (rows ++ [rowOfTask stored written]) (stored.widen task) =
      rows ++ [rowOfTask (stored.widen task) written] := by
    rw [← producer, ← baseName] at here away
    exact map_ite_concat (fun row member => by simp [away row member, FetchTask.widen]) here
  simp only [mergeTask, withTask, there, Option.map_some, rowsOf, bind, Except.bind, found, read]
  by_cases within : stored.widen task = stored
  · rw [if_pos within, within]
    rfl
  · rw [if_neg within, rewritten]
    rfl

/-! ### Listing -/

/-- Rows are read one after the other, and the first bad one is reported. -/
theorem toTasks_append (front back : List TaskRow) :
    toTasks (front ++ back) = do return (← toTasks front) ++ (← toTasks back) := by
  induction front with
  | nil =>
    rw [List.nil_append]
    cases toTasks back <;> rfl
  | cons row rest ih =>
    rw [List.cons_append, toTasks, toTasks, ih]
    cases taskOfRow row with
    | error => rfl
    | ok task =>
      cases toTasks rest with
      | error => rfl
      | ok tasks => cases toTasks back <;> rfl

/-- As many tasks are read as there are rows. -/
theorem toTasks_eq_nil_iff {rows : List TaskRow} {tasks : List FetchTask}
    (read : toTasks rows = .ok tasks) : tasks = [] ↔ rows = [] := by
  cases rows with
  | nil =>
    cases read
    simp
  | cons row rest =>
    obtain ⟨first, -, read⟩ := exists_of_bind_eq_ok read
    obtain ⟨others, -, read⟩ := exists_of_bind_eq_ok read
    cases read
    simp

/-- No task row was first written after a time. -/
def WrittenBy (store : TableStore) (time : Nat) : Prop :=
  ∀ rows, store.tasks = some rows → ∀ row ∈ rows, row.createdAt ≤ time

/-- A row that is added is listed somewhere between the others, which keep their order.  It is the
last one just if none of them was written later. -/
theorem listTasks_withTask (proper : task.key.IsProper) (there : store.tasks.isSome)
    (written : Nat) :
    ∃ front back : List TaskRow,
      (store.listTasks = do return (← toTasks front) ++ (← toTasks back)) ∧
      ((store.withTask task written).listTasks = do
        return (← toTasks front) ++ task :: (← toTasks back)) ∧
      (back = [] ↔ store.WrittenBy written) := by
  obtain ⟨rows, there⟩ := Option.isSome_iff_exists.mp there
  have trans (first second third : TaskRow) : decide (first.createdAt ≤ second.createdAt) = true →
      decide (second.createdAt ≤ third.createdAt) = true →
        decide (first.createdAt ≤ third.createdAt) = true := by
    simpa using le_trans
  have total (left right : TaskRow) : (decide (left.createdAt ≤ right.createdAt) ||
      decide (right.createdAt ≤ left.createdAt)) = true := by
    simpa using le_total left.createdAt right.createdAt
  obtain ⟨front, back, sorted, others, later⟩ :=
    mergeSort_concat trans total rows (rowOfTask task written)
  have inside : ∀ row, row ∈ rows ↔ row ∈ front ++ back := by
    intro row
    rw [← others, List.mem_mergeSort]
  refine ⟨front, back, ?_, ?_, ?_, ?_⟩
  · rw [listTasks, there, rowsOf, ← toTasks_append, ← others]
    rfl
  · rw [listTasks, withTask, there, Option.map_some, rowsOf]
    change toTasks ((rows ++ [rowOfTask task written]).mergeSort _) = _
    rw [sorted, toTasks_append, toTasks, taskOfRow_rowOfTask proper]
    cases toTasks front with
    | error fault => rfl
    | ok => cases toTasks back <;> rfl
  · rintro rfl known same row member
    have ordered := List.pairwise_mergeSort trans total (rows ++ [rowOfTask task written])
    rw [sorted, List.pairwise_append] at ordered
    rw [there, Option.some.injEq] at same
    have before : row ∈ front := by
      rw [← same, inside, List.append_nil] at member
      exact member
    exact of_decide_eq_true (ordered.2.2 row before _ List.mem_cons_self)
  · intro past
    rw [List.eq_nil_iff_forall_not_mem]
    intro row member
    have known : row ∈ rows := (inside row).mpr (List.mem_append_right front member)
    exact of_decide_eq_false (later row member) (past rows there row known)

/-! ### Times of rows -/

section

variable {left : TableStore} {time : Nat} (past : store.WrittenBy time)

include past

theorem WrittenBy.of_rewrites (late : now ≤ time) (rewrites : store.Rewrites now left) :
    left.WrittenBy time := by
  obtain ⟨before, tasks, there, rfl, stamped⟩ := rewrites
  rintro _ ⟨⟩
  intro row member
  rcases stamped row member with own | ⟨old, known, same⟩
  · exact own ▸ late
  · exact same ▸ past before there old known

/-- A call writes no row with a time but its own. -/
theorem WrittenBy.take (late : now ≤ time) {call : StoreCall} {answer : StoreAnswer}
    (taken : store.take now call = .ok (answer, left)) : left.WrittenBy time := by
  cases call with
  | deviceSeq | locator | currentState | isKnown | snapshot | findDifferences | hasTask
    | listTasks =>
    obtain ⟨_, -, same⟩ := exists_of_bind_eq_ok taken
    cases same
    exact past
  | updateDeviceSeq | updateLocator =>
    obtain ⟨_, changed, same⟩ := exists_of_bind_eq_ok taken
    obtain ⟨_, -, written⟩ := exists_of_bind_eq_ok changed
    cases written
    cases same
    exact past
  | rememberState =>
    obtain ⟨_, changed, same⟩ := exists_of_bind_eq_ok taken
    obtain ⟨_, -, changed⟩ := exists_of_bind_eq_ok changed
    obtain ⟨_, -, changed⟩ := exists_of_bind_eq_ok changed
    obtain ⟨_, -, written⟩ := exists_of_bind_eq_ok changed
    cases written
    cases same
    exact past
  | saveTask =>
    obtain ⟨_, changed, same⟩ := exists_of_bind_eq_ok taken
    cases same
    exact past.of_rewrites late (rewrites_saveTask changed)
  | mergeTask =>
    obtain ⟨_, changed, same⟩ := exists_of_bind_eq_ok taken
    cases same
    exact past.of_rewrites late (rewrites_mergeTask changed)
  | deleteTask =>
    obtain ⟨_, changed, same⟩ := exists_of_bind_eq_ok taken
    cases same
    exact past.of_rewrites late (rewrites_deleteTask now changed)

theorem WrittenBy.next (late : now ≤ time) (call : StoreCall) :
    (store.next now call).WrittenBy time := by
  unfold TableStore.next
  cases taken : store.take now call with
  | error fault => exact past
  | ok result => exact past.take late taken

end

end TableStore

/-! ## Stores of either kind -/

namespace AnyStore

/-- A task is stored under the key. -/
def hasTask (store : AnyStore) (key : TaskKey) : Except StoreFault Bool :=
  match store with
  | .memory store => .ok (store.hasTask key)
  | .tables store _ => store.hasTask key

/-- Widen the task stored under the same key, or store the task at some time, and
return what is then stored. -/
def mergeTask (store : AnyStore) (now : Nat) (task : FetchTask) :
    Except StoreFault (FetchTask × AnyStore) :=
  match store with
  | .memory store => .ok ((store.mergeTask task).1, .memory (store.mergeTask task).2)
  | .tables store isKept => do
    let (stored, store) ← store.mergeTask task now
    return (stored, .tables store isKept)

/-- Merge tasks one after the other, each at its time, until a call fails. -/
def mergeEach (store : AnyStore) :
    List (Nat × FetchTask) → Except StoreFault (List FetchTask × AnyStore)
  | [] => .ok ([], store)
  | (now, task) :: rest => do
    let (answer, store) ← store.mergeTask now task
    let (answers, store) ← store.mergeEach rest
    return (answer :: answers, store)

/-- The stored tasks in the order in which they are listed. -/
def listTasks : AnyStore → Except StoreFault (List FetchTask)
  | .memory store => .ok store.listTasks
  | .tables store _ => store.listTasks

/-- The store with one task more behind the others, first written at a time. -/
def withTask (store : AnyStore) (written : Nat) (task : FetchTask) : AnyStore :=
  match store with
  | .memory store => .memory (store.withTask task)
  | .tables store isKept => .tables (store.withTask task written) isKept

/-- The store tells the key from others, as tables do if its names are read back from their
written forms. -/
def Spells (store : AnyStore) (key : TaskKey) : Prop :=
  match store with
  | .memory _ => True
  | .tables .. => key.IsProper

instance : (store : AnyStore) → (key : TaskKey) → Decidable (store.Spells key)
  | .memory _, _ => .isTrue trivial
  | .tables .., key => inferInstanceAs (Decidable key.IsProper)

/-- No task was first written after a time.  A memory store keeps no times. -/
def WrittenBy (store : AnyStore) (time : Nat) : Prop :=
  match store with
  | .memory _ => True
  | .tables store _ => store.WrittenBy time

variable {store : AnyStore} {key : TaskKey} {task stored : FetchTask} {now written : Nat}

/-- Merging is what the call of this name does. -/
theorem takeAt_mergeTask (store : AnyStore) (now : Nat) (task : FetchTask) :
    store.takeAt now (.mergeTask task) = do
      let (stored, store) ← store.mergeTask now task
      return (.task stored, store) := by
  cases store with
  | memory => rfl
  | tables store isKept =>
    simp only [takeAt, TableStore.take, mergeTask]
    cases store.mergeTask task now <;> rfl

/-- Merging tasks one after the other is a run of such calls. -/
theorem run_of_mergeEach {merges : List (Nat × FetchTask)} {answers : List FetchTask}
    {next : AnyStore} (done : store.mergeEach merges = .ok (answers, next)) :
    store.run (merges.map fun merge => (merge.1, .mergeTask merge.2)) = next := by
  induction merges generalizing store answers with
  | nil =>
    cases done
    rfl
  | cons merge rest ih =>
    obtain ⟨⟨answer, left⟩, here, done⟩ := TableStore.exists_of_bind_eq_ok done
    obtain ⟨⟨others, last⟩, later, done⟩ := TableStore.exists_of_bind_eq_ok done
    cases done
    have step : store.after (merge.1, .mergeTask merge.2) = left := by
      simp only [after, takeAt_mergeTask, here, bind, Except.bind, pure, Except.pure]
    have onwards := ih later
    rw [← step] at onwards
    exact onwards

theorem mergeTask_of_free (free : store.hasTask task.key = .ok false) (now : Nat) :
    store.mergeTask now task = .ok (task, store.withTask now task) := by
  cases store with
  | memory store => rw [mergeTask, MemoryStore.mergeTask_of_free (Except.ok.inj free), withTask]
  | tables store isKept =>
    rw [mergeTask, TableStore.mergeTask_of_free free]
    rfl

/-- One more task of the key widens the row that was added. -/
theorem mergeTask_withTask (named : store.Spells key) (free : store.hasTask key = .ok false)
    (same : stored.key = key) (own : task.key = key) :
    (store.withTask written stored).mergeTask now task =
      .ok (stored.widen task, store.withTask written (stored.widen task)) := by
  subst own
  cases store with
  | memory store =>
    have step := MemoryStore.mergeTask_withTask (Except.ok.inj free) same
    simp only [withTask, mergeTask, step]
  | tables store isKept =>
    have step : (store.withTask stored written).mergeTask task now = _ :=
      TableStore.mergeTask_withTask named free same
    simp only [withTask, mergeTask, step]
    rfl

/-- The row that was added is widened by every task, and each call answers with it. -/
theorem mergeEach_withTask (named : store.Spells key) (free : store.hasTask key = .ok false)
    (written : Nat) (same : stored.key = key) {rest : List (Nat × FetchTask)}
    (own : ∀ merge ∈ rest, merge.2.key = key) :
    ∃ answers, stored :: answers = (rest.map (·.2)).scanl FetchTask.widen stored ∧
      (store.withTask written stored).mergeEach rest =
        .ok (answers, store.withTask written ((rest.map (·.2)).foldl FetchTask.widen stored)) := by
  induction rest generalizing stored with
  | nil => exact ⟨[], rfl, rfl⟩
  | cons merge rest ih =>
    obtain ⟨here, later⟩ := List.forall_mem_cons.mp own
    have kept : (stored.widen merge.2).key = key := same
    obtain ⟨answers, rows, run⟩ := ih kept later
    refine ⟨stored.widen merge.2 :: answers, ?_, ?_⟩
    · rw [rows, List.map_cons, List.scanl_cons]
    · simp only [mergeEach, mergeTask_withTask named free same here, bind, Except.bind, run]
      rfl

/-- Merging tasks of a key that is free adds one row, which holds the first task and is
widened by all others. -/
theorem mergeEach_of_free (named : store.Spells key) (free : store.hasTask key = .ok false)
    {first : Nat × FetchTask} {rest : List (Nat × FetchTask)}
    (own : ∀ merge ∈ first :: rest, merge.2.key = key) :
    store.mergeEach (first :: rest) =
      .ok ((rest.map (·.2)).scanl FetchTask.widen first.2,
        store.withTask first.1 ((rest.map (·.2)).foldl FetchTask.widen first.2)) := by
  obtain ⟨here, later⟩ := List.forall_mem_cons.mp own
  obtain ⟨answers, rows, run⟩ := mergeEach_withTask named free first.1 here later
  have start := mergeTask_of_free (here.symm ▸ free) first.1
  simp only [mergeEach, start, bind, Except.bind, run, ← rows]
  rfl

/-- The task that was added is listed somewhere between the others, which keep their order, and
is the last one just if none of them was written later.  What could not be listed before cannot be
listed with it. -/
theorem listTasks_withTask (named : store.Spells task.key)
    (free : store.hasTask task.key = .ok false) (written : Nat) :
    (∀ listed, store.listTasks = .ok listed →
      ∃ front back, listed = front ++ back ∧
        (store.withTask written task).listTasks = .ok (front ++ task :: back) ∧
        (back = [] ↔ store.WrittenBy written)) ∧
    ∀ fault, store.listTasks = .error fault →
      (store.withTask written task).listTasks = .error fault := by
  cases store with
  | memory store =>
    refine ⟨fun listed before => ⟨store.tasks, [], ?_, rfl, fun _ => trivial, fun _ => rfl⟩, nofun⟩
    rw [List.append_nil]
    exact (Except.ok.inj before).symm
  | tables store isKept =>
    obtain ⟨rows, there, -⟩ := TableStore.exists_rows_of_free free
    have proper : task.key.IsProper := named
    obtain ⟨front, back, before, after, last⟩ :=
      TableStore.listTasks_withTask proper (Option.isSome_iff_exists.mpr ⟨rows, there⟩) written
    simp only [listTasks, withTask, WrittenBy, before, after]
    cases TableStore.toTasks front with
    | error fault => exact ⟨nofun, fun other same => same⟩
    | ok tasks =>
      cases others : TableStore.toTasks back with
      | error fault => exact ⟨nofun, fun other same => same⟩
      | ok more =>
        refine ⟨fun listed same => ⟨tasks, more, (Except.ok.inj same).symm, rfl, ?_⟩, nofun⟩
        exact (TableStore.toTasks_eq_nil_iff others).trans last

/-! ### Clocks that never go back -/

theorem IsFresh.writtenBy (fresh : store.IsFresh) (time : Nat) : store.WrittenBy time := by
  cases store with
  | memory => trivial
  | tables =>
    subst fresh
    rintro _ ⟨⟩
    exact nofun

theorem WrittenBy.after {time : Nat} (past : store.WrittenBy time) {call : Nat × StoreCall}
    (late : call.1 ≤ time) : (store.after call).WrittenBy time := by
  cases store with
  | memory memory =>
    rw [after_memory]
    trivial
  | tables tables isKept =>
    rw [after_tables]
    exact TableStore.WrittenBy.next past late call.2

/-- Calls write no task row later than they are made. -/
theorem writtenBy_run {time : Nat} (past : store.WrittenBy time) {calls : List (Nat × StoreCall)}
    (late : ∀ call ∈ calls, call.1 ≤ time) : (store.run calls).WrittenBy time := by
  induction calls generalizing store with
  | nil => exact past
  | cons call rest ih =>
    obtain ⟨here, later⟩ := List.forall_mem_cons.mp late
    exact ih (past.after here) later

/-! ## The hull -/

/-- What it comes to when tasks of one key are merged into a store. -/
structure MergesTo (store : AnyStore) (first : Nat × FetchTask) (rest : List (Nat × FetchTask))
    (answers : List FetchTask) (hull : FetchTask) : Prop where
  /-- All calls succeed, and the store has one row more and no other change. -/
  merged : store.mergeEach (first :: rest) = .ok (answers, store.withTask first.1 hull)
  /-- This is what the calls of this name come to. -/
  run_eq : store.run ((first :: rest).map fun merge => (merge.1, .mergeTask merge.2)) =
    store.withTask first.1 hull
  key_eq : hull.key = first.2.key
  /-- The row reaches from the least number to the greatest, and is as urgent as any task. -/
  isHull : hull.IsHull ((first :: rest).map (·.2))
  length_eq : answers.length = (first :: rest).length
  /-- Each call answers with the row as it then is, which holds what any task so far holds. -/
  answered : ∀ (n : Nat) (inside : n < answers.length),
    store.mergeEach ((first :: rest).take (n + 1)) =
        .ok (answers.take (n + 1), store.withTask first.1 answers[n]) ∧
      answers[n].IsHull (((first :: rest).take (n + 1)).map (·.2)) ∧
      ∀ merge ∈ (first :: rest).take (n + 1), ∀ seq,
        merge.2.contains seq = true → answers[n].contains seq = true
  /-- The same tasks in another order, and however often, come to the same row. -/
  reordered : ∀ (head : Nat × FetchTask) (others : List (Nat × FetchTask)),
    (∀ task, task ∈ (head :: others).map (·.2) ↔ task ∈ (first :: rest).map (·.2)) →
      ∃ again, store.mergeEach (head :: others) = .ok (again, store.withTask head.1 hull)
  /-- To merge any of the tasks once more changes nothing. -/
  repeated : ∀ merge ∈ first :: rest, ∀ now,
    (store.withTask first.1 hull).mergeTask now merge.2 = .ok (hull, store.withTask first.1 hull)
  /-- The tasks stored before are listed in their order, and the row behind them just if none of
  them was first written later. -/
  listed : ∀ listed, store.listTasks = .ok listed →
    ∃ front back, listed = front ++ back ∧
      (store.withTask first.1 hull).listTasks = .ok (front ++ hull :: back) ∧
      (back = [] ↔ store.WrittenBy first.1)
  /-- So it is listed last in a store that was filled by calls none of which was made later. -/
  behind : ∀ (fresh : AnyStore) (calls : List (Nat × StoreCall)), fresh.IsFresh →
    store = fresh.run calls → (∀ call ∈ calls, call.1 ≤ first.1) →
      ∀ listed, store.listTasks = .ok listed →
        (store.withTask first.1 hull).listTasks = .ok (listed ++ [hull])
  /-- A bad row among them is reported as before. -/
  unlisted : ∀ fault, store.listTasks = .error fault →
    (store.withTask first.1 hull).listTasks = .error fault

section

variable (named : store.Spells key) (free : store.hasTask key = .ok false)
  {first : Nat × FetchTask} {rest : List (Nat × FetchTask)}
  (own : ∀ merge ∈ first :: rest, merge.2.key = key)

include named free own

/-- After some of the calls the row is what the last of them answered, the hull of the tasks
merged so far. -/
theorem mergeEach_take (n : Nat)
    (inside : n < ((rest.map (·.2)).scanl FetchTask.widen first.2).length) :
    store.mergeEach ((first :: rest).take (n + 1)) =
        .ok (((rest.map (·.2)).scanl FetchTask.widen first.2).take (n + 1),
          store.withTask first.1 ((rest.map (·.2)).scanl FetchTask.widen first.2)[n]) ∧
      ((rest.map (·.2)).scanl FetchTask.widen first.2)[n].IsHull
        (((first :: rest).take (n + 1)).map (·.2)) := by
  have early : ∀ merge ∈ first :: rest.take n, merge.2.key = key :=
    fun merge member => own merge (List.mem_of_mem_take (i := n + 1) member)
  rw [List.take_succ_cons, mergeEach_of_free named free early, List.take_scanl, List.getElem_scanl,
    List.map_take, List.map_cons, List.map_take]
  exact ⟨rfl, FetchTask.isHull_foldl first.2 _⟩

/-- **Merging tasks of a key that is free gives their hull**, in whatever order they come. -/
theorem merges_to_hull : ∃ answers hull, store.MergesTo first rest answers hull := by
  let hull := (rest.map (·.2)).foldl FetchTask.widen first.2
  have whole : hull.IsHull ((first :: rest).map (·.2)) := FetchTask.isHull_foldl first.2 _
  have same : hull.key = first.2.key := FetchTask.key_foldl_widen first.2 _
  have keyed : hull.key = key := same.trans (own first List.mem_cons_self)
  have merged := mergeEach_of_free named free own
  obtain ⟨listed, unlisted⟩ := listTasks_withTask (keyed.symm ▸ named) (keyed.symm ▸ free) first.1
  refine ⟨_, hull, merged, run_of_mergeEach merged, same, whole, ?_, ?_, ?_, ?_, listed, ?_,
    unlisted⟩
  · rw [List.length_scanl, List.length_map, List.length_cons]
  · intro n inside
    obtain ⟨calls, sofar⟩ := mergeEach_take named free own n inside
    refine ⟨calls, sofar, ?_⟩
    intro merge member seq
    exact sofar.contains (List.mem_map_of_mem member)
  · intro head others members
    have theirs : ∀ merge ∈ head :: others, merge.2.key = key := by
      intro merge member
      obtain ⟨kept, inside, equal⟩ :=
        List.mem_map.mp ((members merge.2).mp (List.mem_map_of_mem member))
      rw [← equal]
      exact own kept inside
    have equal : (others.map (·.2)).foldl FetchTask.widen head.2 = hull := by
      refine whole.unique (FetchTask.isHull_foldl head.2 _) members ?_
      rw [FetchTask.key_foldl_widen, keyed, theirs head List.mem_cons_self]
    rw [mergeEach_of_free named free theirs, equal]
    exact ⟨_, rfl⟩
  · intro merge member now
    rw [mergeTask_withTask named free keyed (own merge member),
      whole.widen_eq_self (List.mem_map_of_mem member)]
  · intro fresh calls blank filled late known before
    obtain ⟨front, back, rfl, after, last⟩ := listed known before
    have past : store.WrittenBy first.1 := filled ▸ writtenBy_run (blank.writtenBy first.1) late
    rw [after, last.mpr past, List.append_nil]

end

/-- Tables in which a task of another key is stored that ends with the highest number. -/
def occupied : AnyStore :=
  let row := TableStore.rowOfTask ⟨⟨.ofTexts ["a"]⟩, .ofTexts ["x"], 5, -1, .normal⟩ 1
  .tables { TableStore.empty with tasks := some [row] } true

/-- Three tasks of another key are merged, one of them empty and one in the upper half of the
numbers. -/
theorem merges_to_hull_occupied :
    let task : FetchTask := ⟨⟨.ofTexts ["b", "/"]⟩, .ofTexts ["x"], 7, 9, .normal⟩
    let rest : List (Nat × FetchTask) :=
      [(3, { task with minSeq := 0x8000000000000000, maxSeq := -1, priority := .high }),
        (2, { task with minSeq := 2, maxSeq := 1 })]
    occupied.Spells task.key ∧ occupied.hasTask task.key = .ok false ∧
      (∀ merge ∈ (1, task) :: rest, merge.2.key = task.key) ∧
      ∃ answers, occupied.MergesTo (1, task) rest answers
        { task with minSeq := 2, maxSeq := -1, priority := .high } := by
  intro task rest
  have named : occupied.Spells task.key := by decide +kernel
  have free : occupied.hasTask task.key = .ok false := by decide +kernel
  have own : ∀ merge ∈ (1, task) :: rest, merge.2.key = task.key := by decide +kernel
  refine ⟨named, free, own, ?_⟩
  obtain ⟨answers, hull, merges⟩ := merges_to_hull named free own
  have whole : FetchTask.IsHull { task with minSeq := 2, maxSeq := -1, priority := .high }
      (((1, task) :: rest).map (·.2)) :=
    ⟨by decide, by decide, by decide, by decide, by decide⟩
  have equal := whole.unique merges.isHull (fun _ => Iff.rfl) merges.key_eq
  exact ⟨answers, equal ▸ merges⟩

/-- The clock is set back before a second task is merged, which is then listed first. -/
theorem clock_back_lists_newer_first :
    let other : FetchTask := ⟨⟨.ofTexts ["a"]⟩, .ofTexts ["x"], 1, 5, .normal⟩
    let task : FetchTask := ⟨⟨.ofTexts ["b"]⟩, .ofTexts ["x"], 7, 9, .normal⟩
    let store := (tables .empty true).run [(1, .mergeTask other)]
    store.Spells task.key ∧ store.hasTask task.key = .ok false ∧
      store.listTasks = .ok [other] ∧
      ∃ next, store.mergeEach [(0, task)] = .ok ([task], next) ∧
        next.listTasks = .ok [task, other] := by
  intro other task store
  have first : (tables .empty true).mergeEach [(1, other)] =
      .ok ([other], (tables .empty true).withTask 1 other) :=
    mergeEach_of_free (show (tables .empty true).Spells other.key by decide +kernel)
      (by decide +kernel) (List.forall_mem_singleton.mpr rfl)
  have filled : store = (tables .empty true).withTask 1 other := run_of_mergeEach first
  have named : store.Spells task.key := by decide +kernel
  have free : store.hasTask task.key = .ok false := by decide +kernel
  have before : store.listTasks = .ok [other] := by decide +kernel
  have merged : store.mergeEach [(0, task)] = .ok ([task], store.withTask 0 task) :=
    mergeEach_of_free named free (List.forall_mem_singleton.mpr rfl)
  refine ⟨named, free, before, _, merged, ?_⟩
  obtain ⟨front, back, split, after, last⟩ := (listTasks_withTask named free 0).1 _ before
  have later : ¬store.WrittenBy 0 := by
    rw [filled]
    intro past
    exact absurd (past _ rfl (TableStore.rowOfTask other 1) List.mem_cons_self) (by decide)
  -- Only one task is there to stand in front or behind.
  cases front with
  | nil =>
    rw [List.nil_append] at split after
    rw [after, ← split]
  | cons head others =>
    have none : back = [] := by
      simpa using (List.append_eq_nil_iff.mp (List.cons.inj split).2.symm).2
    exact absurd (last.mp none) later

end AnyStore

end DigestSync
