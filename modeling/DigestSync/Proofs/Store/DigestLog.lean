import DigestSync.Proofs.Store.MemoryLog
import DigestSync.Proofs.Store.Refinement
import DigestSync.Store.Recording

set_option autoImplicit false

/-! # The digest log over a run

Of a memory store it is shown what each call does to the log: recording adds the current
state under its digest, and everything else leaves the log and lets the current state
rise at most.  So a state is found for just those digests that were returned for one, and
what is found was recorded under the digest.  Tables tell what a memory store knows of
devices and states all along, which carries this over to them.  The times of the calls do
not matter: only task rows have times.
-/

namespace DigestSync

namespace MemoryStore

variable {store : MemoryStore} {log : List (Digest × Snapshot)}

/-- The state that a call records, under its digest. -/
def recordedBy (store : MemoryStore) (call : StoreCall) : List (Digest × Snapshot) :=
  if call = .rememberState then [(store.currentState.digest, store.currentState)] else []

/-! ## One call -/

/-- Unless it records the state, a call leaves the log and lets the state rise at most. -/
theorem next_of_ne (store : MemoryStore) {call : StoreCall} (other : call ≠ .rememberState) :
    (store.next call).digests = store.digests ∧
      store.currentState ≤ (store.next call).currentState := by
  cases call with
  | rememberState => exact absurd rfl other
  | updateDeviceSeq device seq =>
    have rising : store.currentState ≤ (store.updateDeviceSeq device seq).2.currentState := by
      rw [currentState_updateDeviceSeq]
      exact Snapshot.le_merge _ device seq
    exact ⟨rfl, rising⟩
  | updateLocator device locator =>
    have same := currentState_updateLocator store device locator
    exact ⟨rfl, same.ge⟩
  | findDifferences old new includeOld =>
    unfold next take
    dsimp only
    cases store.findDifferences old new includeOld <;> exact ⟨rfl, le_refl _⟩
  | saveTask task =>
    unfold next take saveTask
    dsimp only
    split <;> exact ⟨rfl, le_refl _⟩
  | mergeTask task =>
    unfold next take mergeTask
    dsimp only
    split <;> exact ⟨rfl, le_refl _⟩
  | deviceSeq | locator | currentState | isKnown | snapshot | deleteTask | hasTask | listTasks =>
    exact ⟨rfl, le_refl _⟩

/-- No call makes a log unsound. -/
theorem LogSound.next (sound : store.LogSound) (call : StoreCall) : (store.next call).LogSound := by
  by_cases recording : call = .rememberState
  · subst recording
    exact sound.remember
  · obtain ⟨same, rising⟩ := next_of_ne store recording
    exact sound.rise same rising

/-- What is recorded under some digest stays recorded, or another state takes its place. -/
theorem exists_find?_next {digest : Digest} (call : StoreCall)
    (found : ∃ state, store.digests.find? digest = some state) :
    ∃ state, (store.next call).digests.find? digest = some state := by
  by_cases recording : call = .rememberState
  · subst recording
    change ∃ state, store.rememberState.2.digests.find? digest = some state
    rw [find?_rememberState]
    split
    · exact ⟨_, rfl⟩
    · exact found
  · rw [(next_of_ne store recording).1]
    exact found

/-- A log is sound after any calls. -/
theorem logSound_foldl_next (calls : List StoreCall) :
    (calls.foldl MemoryStore.next .empty).LogSound := by
  induction calls using List.reverseRecOn with
  | nil => exact logSound_empty
  | append_singleton calls call ih =>
    rw [List.foldl_append]
    exact ih.next call

/-- The log of the store is sound, and has a state, one of those recorded, for just the digests
under which states were recorded. -/
structure Logs (store : MemoryStore) (log : List (Digest × Snapshot)) : Prop where
  sound : store.LogSound
  recorded : ∀ digest state, store.digests.find? digest = some state → (digest, state) ∈ log
  kept : ∀ entry ∈ log, ∃ state, store.digests.find? entry.1 = some state

theorem logs_empty : MemoryStore.empty.Logs [] where
  sound := logSound_empty
  recorded := fun _ _ found => nomatch found
  kept := fun _ member => absurd member List.not_mem_nil

/-- A call keeps the log, to which it adds what it records. -/
theorem Logs.next (logs : store.Logs log) (call : StoreCall) :
    (store.next call).Logs (log ++ store.recordedBy call) := by
  unfold recordedBy
  by_cases recording : call = .rememberState
  · subst recording
    rw [if_pos rfl]
    refine ⟨logs.sound.next .rememberState, ?_, ?_⟩
    · intro digest state found
      rw [List.mem_append, List.mem_singleton]
      change store.rememberState.2.digests.find? digest = some state at found
      rw [find?_rememberState] at found
      split at found
      · rename_i here
        cases found
        exact Or.inr (Prod.ext here rfl)
      · exact Or.inl (logs.recorded digest state found)
    · intro entry member
      rcases List.mem_append.mp member with old | new
      · exact exists_find?_next .rememberState (logs.kept entry old)
      · rw [List.mem_singleton.mp new]
        change ∃ state, store.rememberState.2.digests.find? store.currentState.digest = some state
        rw [find?_rememberState]
        exact ⟨_, if_pos rfl⟩
  · rw [if_neg recording, List.append_nil]
    refine ⟨logs.sound.next call, ?_, ?_⟩
    · rw [(next_of_ne store recording).1]
      exact logs.recorded
    · exact fun entry member => exists_find?_next call (logs.kept entry member)

/-! ## Reading the log -/

/-- A digest is known if it is the origin or was returned for a recorded state. -/
theorem Logs.isSome_snapshot (logs : store.Logs log) (digest : Digest) :
    (store.snapshot digest).isSome = true ↔
      digest = Digest.origin ∨ ∃ state, (digest, state) ∈ log := by
  rw [← isKnown_eq_isSome]
  unfold isKnown SortedMap.contains Digest.isOrigin
  rw [Bool.or_eq_true, beq_iff_eq, Option.isSome_iff_exists]
  refine or_congr_right ⟨?_, ?_⟩
  · rintro ⟨state, found⟩
    exact ⟨state, logs.recorded digest state found⟩
  · rintro ⟨state, member⟩
    exact logs.kept _ member

/-- What is found for a digest was recorded under it, if the empty state counts as recorded. -/
theorem Logs.mem_of_snapshot (logs : store.Logs log) {digest : Digest} {state : Snapshot}
    (found : store.snapshot digest = some state) :
    (digest, state) ∈ (Digest.origin, Snapshot.empty) :: log := by
  unfold snapshot at found
  split at found
  · rename_i recorded inside
    cases found
    exact List.mem_cons_of_mem _ (logs.recorded digest state inside)
  · split at found
    · rename_i origin
      cases found
      rw [eq_of_beq origin]
      exact List.mem_cons_self
    · cases found

/-- What is found for a digest stays the same while the log grows, as long as no other state is
recorded under the digest. -/
theorem Logs.snapshot_eq {last : MemoryStore} {more : List (Digest × Snapshot)}
    (logs : store.Logs log) (grown : last.Logs (log ++ more)) {digest : Digest} {state : Snapshot}
    (found : store.snapshot digest = some state)
    (unambiguous : ∀ first second,
      (digest, first) ∈ (Digest.origin, Snapshot.empty) :: log ++ more →
        (digest, second) ∈ (Digest.origin, Snapshot.empty) :: log ++ more → first = second) :
    last.snapshot digest = some state := by
  have known : (last.snapshot digest).isSome = true := by
    have before : (store.snapshot digest).isSome = true := Option.isSome_of_eq_some found
    rw [logs.isSome_snapshot] at before
    rw [grown.isSome_snapshot]
    exact before.imp id fun ⟨state, member⟩ => ⟨state, List.mem_append_left _ member⟩
  obtain ⟨later, there⟩ := Option.isSome_iff_exists.mp known
  have first : (digest, state) ∈ (Digest.origin, Snapshot.empty) :: log ++ more :=
    List.mem_append_left _ (logs.mem_of_snapshot found)
  rw [there, unambiguous state later first (grown.mem_of_snapshot there)]

end MemoryStore

/-! ## Calls on tasks -/

namespace MemoryStore

theorem exists_tasks_saveTask (store : MemoryStore) (task : FetchTask) :
    ∃ tasks, (store.saveTask task).2 = { store with tasks } := by
  unfold saveTask
  split
  · exact ⟨_, rfl⟩
  · exact ⟨_, rfl⟩

theorem exists_tasks_mergeTask (store : MemoryStore) (task : FetchTask) :
    ∃ tasks, (store.mergeTask task).2 = { store with tasks } := by
  unfold mergeTask
  split
  · exact ⟨_, rfl⟩
  · exact ⟨_, rfl⟩

end MemoryStore

namespace TableStore

variable {rows : Rows} {memory : MemoryStore} {now : Nat} {call : StoreCall}

/-- What is told of devices and states does not change with the tasks. -/
theorem Reflects.of_rewrites (reflects : Reflects rows memory) {next : TableStore}
    (rewrites : rows.toStore.Rewrites now next) (others : List FetchTask) :
    ∃ left, next = Rows.toStore left ∧ Reflects left { memory with tasks := others } := by
  obtain ⟨before, tasks, -, rfl, -⟩ := rewrites
  exact ⟨{ rows with tasks }, rfl, reflects.devices, reflects.states⟩

/-- A call with proper names is followed by the memory store, whenever it is made. -/
theorem Reflects.next (reflects : Reflects rows memory) (now : Nat) (proper : call.IsProper) :
    ∃ left, rows.toStore.next now call = left.toStore ∧ Reflects left (memory.next call) := by
  cases call with
  | deviceSeq device =>
    refine ⟨rows, ?_, reflects⟩
    simp only [TableStore.next, take, reflects.deviceSeq_eq proper]
    rfl
  | updateDeviceSeq device seq =>
    obtain ⟨devices, answered, kept⟩ := reflects.updateDeviceSeq_eq proper seq
    refine ⟨_, ?_, kept⟩
    simp only [TableStore.next, take, answered]
    rfl
  | locator device =>
    refine ⟨rows, ?_, reflects⟩
    simp only [TableStore.next, take, reflects.locator_eq proper]
    rfl
  | updateLocator device locator =>
    obtain ⟨devices, answered, kept⟩ := reflects.updateLocator_eq proper.1 proper.2
    refine ⟨_, ?_, kept⟩
    simp only [TableStore.next, take, answered]
    rfl
  | currentState =>
    refine ⟨rows, ?_, reflects⟩
    simp only [TableStore.next, take, reflects.currentState_eq]
    rfl
  | rememberState =>
    obtain ⟨digests, states, answered, kept⟩ := reflects.rememberState_eq
    refine ⟨_, ?_, kept⟩
    simp only [TableStore.next, take, answered]
    rfl
  | isKnown digest =>
    refine ⟨rows, ?_, reflects⟩
    simp only [TableStore.next, take, reflects.isKnown_eq]
    rfl
  | snapshot digest =>
    refine ⟨rows, ?_, reflects⟩
    simp only [TableStore.next, take, reflects.snapshot_eq]
    rfl
  | findDifferences old new includeOld =>
    refine ⟨rows, ?_, ?_⟩
    · simp only [TableStore.next, take, reflects.findDifferences_eq]
      cases memory.findDifferences old new includeOld <;> rfl
    · rw [MemoryStore.next, MemoryStore.take]
      cases memory.findDifferences old new includeOld <;> exact reflects
  | saveTask task =>
    obtain ⟨others, same⟩ := memory.exists_tasks_saveTask task
    have kept : memory.next (.saveTask task) = { memory with tasks := others } := same
    simp only [kept, TableStore.next, take]
    cases done : rows.toStore.saveTask task now with
    | error fault => exact ⟨rows, rfl, reflects.devices, reflects.states⟩
    | ok result => exact reflects.of_rewrites (rewrites_saveTask done) others
  | mergeTask task =>
    obtain ⟨others, same⟩ := memory.exists_tasks_mergeTask task
    have kept : memory.next (.mergeTask task) = { memory with tasks := others } := same
    simp only [kept, TableStore.next, take]
    cases done : rows.toStore.mergeTask task now with
    | error fault => exact ⟨rows, rfl, reflects.devices, reflects.states⟩
    | ok result => exact reflects.of_rewrites (rewrites_mergeTask done) others
  | deleteTask key =>
    simp only [TableStore.next, take]
    cases done : rows.toStore.deleteTask key with
    | error fault => exact ⟨rows, rfl, reflects.devices, reflects.states⟩
    | ok result => exact reflects.of_rewrites (rewrites_deleteTask now done) _
  | hasTask key => exact ⟨rows, rfl, reflects⟩
  | listTasks =>
    refine ⟨rows, ?_, reflects⟩
    simp only [TableStore.next, take]
    cases rows.toStore.listTasks <;> rfl

end TableStore

namespace AnyStore

/-! ## Stores of either kind -/

/-- The store can keep the names of a call: memory keeps all of them, and tables those that are
read back from their written forms. -/
def Admits : AnyStore → StoreCall → Prop
  | .memory _, _ => True
  | .tables _ _, call => call.IsProper

/-- The store knows what a memory store knows of devices and states, which it is or of which its
tables tell. -/
def StandsFor : AnyStore → MemoryStore → Prop
  | .memory store, twin => store = twin
  | .tables store _, twin =>
    ∃ rows, store = TableStore.Rows.toStore rows ∧ TableStore.Reflects rows twin

variable {store : AnyStore} {twin : MemoryStore} {now : Nat} {call : StoreCall}

theorem IsFresh.standsFor (fresh : store.IsFresh) : store.StandsFor .empty := by
  cases store with
  | memory store => exact fresh
  | tables store isKept => exact ⟨⟨[], [], [], []⟩, fresh, TableStore.reflects_empty⟩

theorem StandsFor.currentState_eq (stands : store.StandsFor twin) :
    store.currentState = .ok twin.currentState := by
  cases store with
  | memory store =>
    cases stands
    rfl
  | tables store isKept =>
    obtain ⟨rows, rfl, reflects⟩ := stands
    exact reflects.currentState_eq

theorem StandsFor.isKnown_eq (stands : store.StandsFor twin) (digest : Digest) :
    store.isKnown digest = .ok (twin.isKnown digest) := by
  cases store with
  | memory store =>
    cases stands
    rfl
  | tables store isKept =>
    obtain ⟨rows, rfl, reflects⟩ := stands
    exact reflects.isKnown_eq digest

theorem StandsFor.snapshot_eq (stands : store.StandsFor twin) (digest : Digest) :
    store.snapshot digest = .ok (twin.snapshot digest) := by
  cases store with
  | memory store =>
    cases stands
    rfl
  | tables store isKept =>
    obtain ⟨rows, rfl, reflects⟩ := stands
    exact reflects.snapshot_eq digest

/-- The memory store follows each call, whenever it is made. -/
theorem StandsFor.after (stands : store.StandsFor twin) (now : Nat) (admits : store.Admits call) :
    (store.after (now, call)).StandsFor (twin.next call) ∧
      (store.after (now, call)).Admits = store.Admits := by
  cases store with
  | memory memory =>
    cases stands
    rw [after_memory]
    exact ⟨rfl, rfl⟩
  | tables tables isKept =>
    obtain ⟨rows, rfl, reflects⟩ := stands
    obtain ⟨left, moved, kept⟩ := reflects.next now admits
    rw [after_tables]
    exact ⟨⟨left, moved, kept⟩, rfl⟩

theorem admits_rememberState : store.Admits .rememberState := by
  cases store <;> trivial

/-- The current state is recorded under its digest. -/
theorem StandsFor.takeAt_rememberState (stands : store.StandsFor twin) (now : Nat) :
    store.takeAt now .rememberState =
      .ok (.digest twin.currentState.digest, store.after (now, .rememberState)) := by
  cases store with
  | memory memory =>
    cases stands
    rfl
  | tables tables isKept =>
    obtain ⟨rows, rfl, reflects⟩ := stands
    obtain ⟨digests, states, answered, -⟩ := reflects.rememberState_eq
    simp only [AnyStore.after, takeAt, TableStore.take, answered, bind, Except.bind, pure,
      Except.pure]
    rfl

/-- Right after it was recorded, the current state is found under its digest. -/
theorem StandsFor.rememberState (stands : store.StandsFor twin) (now : Nat) :
    (store.after (now, .rememberState)).currentState = .ok twin.currentState ∧
      (store.after (now, .rememberState)).snapshot twin.currentState.digest =
        .ok (some twin.currentState) := by
  have kept : (store.after (now, .rememberState)).StandsFor twin.rememberState.2 :=
    (stands.after now admits_rememberState).1
  have found : twin.rememberState.2.digests.find? twin.currentState.digest =
      some twin.currentState := by
    rw [MemoryStore.find?_rememberState, if_pos rfl]
  rw [kept.currentState_eq, kept.snapshot_eq, MemoryStore.snapshot_of_find? found]
  exact ⟨rfl, rfl⟩

theorem StandsFor.recordedBy_eq (stands : store.StandsFor twin) (now : Nat) (call : StoreCall) :
    store.recordedBy (now, call) = twin.recordedBy call := by
  cases call with
  | rememberState =>
    unfold AnyStore.recordedBy
    dsimp only
    rw [stands.takeAt_rememberState, stands.currentState_eq]
    rfl
  | _ => rfl

/-! ## Runs -/

/-- A run keeps the log, to which it adds what is recorded over its calls. -/
theorem StandsFor.run {log : List (Digest × Snapshot)} (stands : store.StandsFor twin)
    (logs : twin.Logs log) {calls : List (Nat × StoreCall)}
    (admits : ∀ call ∈ calls, store.Admits call.2) :
    ∃ last, (store.run calls).StandsFor last ∧ last.Logs (log ++ store.recorded calls) ∧
      (store.run calls).Admits = store.Admits := by
  induction calls generalizing store twin log with
  | nil =>
    rw [recorded, List.append_nil]
    exact ⟨twin, stands, logs, rfl⟩
  | cons call rest ih =>
    obtain ⟨here, later⟩ := List.forall_mem_cons.mp admits
    obtain ⟨kept, same⟩ := stands.after call.1 here
    obtain ⟨last, stays, whole, admitted⟩ := ih kept (logs.next call.2) (same ▸ later)
    rw [List.append_assoc, ← stands.recordedBy_eq call.1 call.2] at whole
    exact ⟨last, stays, whole, admitted.trans same⟩

/-- Of a store that was fresh before some calls, a state is found for just those digests that
are known, which are the origin and those returned for recorded states.  What is found has
the digest and lies below the current state; right after the state was recorded it is the
current state itself, and it stays the same whatever is called later, as long as no other
state is recorded under the digest.  The empty state counts as recorded from the start.
Each call is made at any time, as the clock may be set. -/
theorem finds_what_was_recorded (store : AnyStore) (fresh : store.IsFresh)
    {calls : List (Nat × StoreCall)} (admits : ∀ call ∈ calls, store.Admits call.2) :
    ∃ current, (store.run calls).currentState = .ok current ∧
      (∀ digest, ∃ found, (store.run calls).snapshot digest = .ok found ∧
        (store.run calls).isKnown digest = .ok found.isSome ∧
        (found.isSome = true ↔
          digest = Digest.origin ∨ digest ∈ (store.recorded calls).map Prod.fst) ∧
        ∀ state ∈ found, state.digest = digest ∧ (∀ entry ∈ state.entries, entry.2 ≠ 0) ∧
          ∀ device, state.seqOf device ≤ current.seqOf device) ∧
      (∃ digest, ∀ now,
        (store.run calls).takeAt now .rememberState =
          .ok (.digest digest, store.run (calls ++ [(now, .rememberState)])) ∧
        (store.run (calls ++ [(now, .rememberState)])).currentState = .ok current ∧
        (store.run (calls ++ [(now, .rememberState)])).snapshot digest = .ok (some current)) ∧
      ∀ later : List (Nat × StoreCall), (∀ call ∈ later, store.Admits call.2) → ∀ digest state,
        (store.run calls).snapshot digest = .ok (some state) →
        (∀ first second,
          (digest, first) ∈ (Digest.origin, Snapshot.empty) :: store.recorded (calls ++ later) →
          (digest, second) ∈ (Digest.origin, Snapshot.empty) :: store.recorded (calls ++ later) →
          first = second) →
        (store.run (calls ++ later)).snapshot digest = .ok (some state) := by
  obtain ⟨twin, stands, logs, admitted⟩ := fresh.standsFor.run MemoryStore.logs_empty admits
  rw [List.nil_append] at logs
  refine ⟨twin.currentState, stands.currentState_eq, ?_, ?_, ?_⟩
  · intro digest
    refine ⟨twin.snapshot digest, stands.snapshot_eq digest, ?_, ?_, ?_⟩
    · rw [stands.isKnown_eq, MemoryStore.isKnown_eq_isSome]
    · rw [logs.isSome_snapshot, List.mem_map]
      refine or_congr_right ⟨?_, ?_⟩
      · rintro ⟨state, member⟩
        exact ⟨_, member, rfl⟩
      · rintro ⟨⟨other, state⟩, member, rfl⟩
        exact ⟨state, member⟩
    · intro state found
      exact ⟨logs.sound.digest_of_snapshot found, state.nonzero,
        logs.sound.below_of_snapshot found⟩
  · refine ⟨twin.currentState.digest, fun now => ?_⟩
    have next : store.run (calls ++ [(now, .rememberState)]) =
        (store.run calls).after (now, .rememberState) := by
      rw [run_append]
      rfl
    rw [next]
    exact ⟨stands.takeAt_rememberState now, stands.rememberState now⟩
  · intro later admitsLater digest state found unambiguous
    obtain ⟨last, stays, grown, -⟩ := stands.run logs (admitted ▸ admitsLater)
    rw [stands.snapshot_eq, Except.ok.injEq] at found
    rw [recorded_append] at unambiguous
    rw [run_append, stays.snapshot_eq, logs.snapshot_eq grown found unambiguous]

/-- A number is recorded, then a lower one comes in, which changes nothing. -/
def raising : List (Nat × StoreCall) :=
  let device : DeviceId := ⟨.ofTexts ["a/b"]⟩
  [(3, .updateDeviceSeq device 5), (3, .rememberState), (2, .updateDeviceSeq device 3)]

/-- A higher number is recorded, and the empty state is asked for. -/
def raisingMore : List (Nat × StoreCall) :=
  let device : DeviceId := ⟨.ofTexts ["a/b"]⟩
  [(0, .updateDeviceSeq device 0xFFFFFFFFFFFFFFFF), (1, .rememberState),
    (1, .snapshot Digest.origin)]

/-- In tables, the first of two recorded states is still found after the second one. -/
theorem finds_what_was_recorded_raising :
    let store : AnyStore := .tables .empty false
    let state := Snapshot.empty.merge ⟨.ofTexts ["a/b"]⟩ 5
    (store.recorded (raising ++ raisingMore)).length = 2 ∧
      (store.run raising).snapshot state.digest = .ok (some state) ∧
      (store.run (raising ++ raisingMore)).snapshot state.digest = .ok (some state) := by
  intro store state
  have admits : ∀ call ∈ raising, store.Admits call.2 := by
    change ∀ call ∈ raising, call.2.IsProper
    decide +kernel
  have admitsMore : ∀ call ∈ raisingMore, store.Admits call.2 := by
    change ∀ call ∈ raisingMore, call.2.IsProper
    decide +kernel
  have once : (((Digest.origin, Snapshot.empty) ::
      store.recorded (raising ++ raisingMore)).map Prod.fst).Nodup := by decide +kernel
  obtain ⟨-, -, -, -, stays⟩ := finds_what_was_recorded store rfl admits
  have found : (store.run raising).snapshot state.digest = .ok (some state) := by decide +kernel
  refine ⟨by decide +kernel, found, stays raisingMore admitsMore _ _ found ?_⟩
  intro first second here there
  exact congrArg Prod.snd (List.inj_on_of_nodup_map once here there rfl)

end AnyStore

end DigestSync
