import DigestSync.Fetch.Arena
import DigestSync.Proofs.Data.SortedMap
import DigestSync.Proofs.Fetch.Order

set_option autoImplicit false

/-! # An arena stands for a list of entries

The queue, the arena and the count of a worklist are changed one after another.  After each
operation they again agree with the list of the entries in their order, and the operation has done
to this list what it does to a worklist that is kept as one.
-/

namespace DigestSync

namespace Arena

/-- The parts agree with a list of entries. -/
structure Represents (arena : Arena) (list : Worklist) : Prop where
  queue : arena.queue = list.order
  found : ∀ id slot, arena.slots.find? id = some slot ↔ slot ∈ list.slots ∧ slot.id = id
  active : arena.active = list.active
  nextId : arena.nextId = list.nextId
  stopped : arena.stopped = list.stopped

theorem represents_empty : empty.Represents .empty where
  queue := rfl
  found := by simp [empty, Worklist.empty]
  active := rfl
  nextId := rfl
  stopped := rfl

namespace Represents

variable {arena : Arena} {list : Worklist}

theorem find?_of_mem (agrees : arena.Represents list) {slot : Slot} (member : slot ∈ list.slots) :
    arena.slots.find? slot.id = some slot := (agrees.found slot.id slot).mpr ⟨member, rfl⟩

theorem mem_entries_iff (agrees : arena.Represents list) {id : FetcherId} {slot : Slot} :
    (id, slot) ∈ arena.slots.entries ↔ slot ∈ list.slots ∧ slot.id = id :=
  SortedMap.find?_eq_some_iff.symm.trans (agrees.found id slot)

theorem keys_eq (agrees : arena.Represents list) :
    arena.slots.keys = arena.slots.values.map (·.id) := by
  simp only [SortedMap.keys, SortedMap.values, List.map_map]
  refine List.map_congr_left ?_
  rintro ⟨id, slot⟩ member
  exact (agrees.mem_entries_iff.mp member).2.symm

/-- The arena holds the entries of the list, in another order. -/
theorem values_perm (agrees : arena.Represents list) (tidy : list.Tidy) :
    arena.slots.values.Perm list.slots := by
  have apart : arena.slots.values.Nodup := by
    refine List.Nodup.of_map (·.id) ?_
    rw [← agrees.keys_eq]
    exact arena.slots.ordered.nodup
  refine (List.perm_ext_iff_of_nodup apart tidy.numbered.of_map).mpr ?_
  intro slot
  rw [SortedMap.values, List.mem_map]
  constructor
  · rintro ⟨⟨id, other⟩, member, rfl⟩
    exact (agrees.mem_entries_iff.mp member).1
  · intro member
    exact ⟨(slot.id, slot), agrees.mem_entries_iff.mpr ⟨member, rfl⟩, rfl⟩

theorem keys_perm (agrees : arena.Represents list) (tidy : list.Tidy) :
    arena.slots.keys.Perm arena.queue := by
  rw [agrees.keys_eq, agrees.queue]
  exact (agrees.values_perm tidy).map (·.id)

/-! ## What is read off the parts -/

theorem covers (agrees : arena.Represents list) (tidy : list.Tidy) (task : FetchTask) :
    arena.covers task = list.covers task := (agrees.values_perm tidy).any_eq

/-- Along the queue all entries are met in their order. -/
theorem met_eq (agrees : arena.Represents list) :
    arena.queue.filterMap arena.slots.find? = list.slots := by
  rw [agrees.queue, Worklist.order, List.filterMap_map]
  refine (List.filterMap_congr fun slot member => ?_).trans List.filterMap_some
  exact agrees.find?_of_mem member

theorem liveSpan (agrees : arena.Represents list) (key : TaskKey) :
    arena.liveSpan key = list.liveSpan key := by
  simp only [Arena.liveSpan, agrees.met_eq]
  rfl

theorem isActive (agrees : arena.Represents list) (tidy : list.Tidy) (id : FetcherId) :
    arena.isActive id = list.isActive id := by
  rw [Bool.eq_iff_iff, Worklist.isActive, List.any_eq_true]
  unfold Arena.isActive
  split
  · rename_i slot found
    obtain ⟨member, rfl⟩ := (agrees.found id slot).mp found
    constructor
    · intro active
      exact ⟨slot, member, by simpa using active⟩
    · rintro ⟨other, inside, facts⟩
      simp only [Bool.and_eq_true, decide_eq_true_eq] at facts
      rw [tidy.eq_of_id member inside facts.1.symm]
      exact facts.2
  · rename_i none
    refine iff_of_false (by simp) ?_
    rintro ⟨other, inside, facts⟩
    simp only [Bool.and_eq_true, decide_eq_true_eq] at facts
    have found := agrees.find?_of_mem inside
    rw [facts.1, none] at found
    cases found

/-! ## Entries -/

theorem insert (agrees : arena.Represents list) (tidy : list.Tidy) (task : FetchTask)
    (fetcher : Fetcher) : (arena.insert task fetcher).Represents (list.insert task fetcher) where
  queue := by
    cases urgent : task.priority <;>
      simp [Arena.insert, Worklist.insert, Worklist.order, urgent, agrees.queue, agrees.nextId]
  found := by
    intro id slot
    rw [Worklist.mem_insert]
    simp only [Arena.insert, SortedMap.find?_insert, agrees.nextId]
    split
    · rename_i new
      subst new
      constructor
      · rintro ⟨⟩
        exact ⟨Or.inl rfl, rfl⟩
      · rintro ⟨rfl | old, same⟩
        · rfl
        · exact absurd same (Nat.ne_of_lt (tidy.counted slot old))
    · rename_i other
      rw [agrees.found]
      refine ⟨fun old => ⟨Or.inr old.1, old.2⟩, ?_⟩
      rintro ⟨rfl | old, same⟩
      · exact absurd same.symm other
      · exact ⟨old, same⟩
  active := agrees.active
  nextId := congrArg (· + 1) agrees.nextId
  stopped := agrees.stopped

/-- Moving an entry to another state changes what is found under its number. -/
theorem setState (agrees : arena.Represents list) (id : FetcherId) (state : SlotState) :
    (arena.setState id state).Represents (list.setState id state) := by
  have order : (list.setState id state).order = list.order := Worklist.order_release list id state
  unfold Arena.setState
  split
  · rename_i old found
    obtain ⟨inside, here⟩ := (agrees.found id old).mp found
    refine ⟨agrees.queue.trans order.symm, ?_, agrees.active, agrees.nextId, agrees.stopped⟩
    intro other slot
    rw [SortedMap.find?_insert, Worklist.mem_setState]
    split
    · rename_i same
      subst same
      constructor
      · rintro ⟨⟩
        exact ⟨Or.inl ⟨old, inside, here, rfl⟩, here⟩
      · rintro ⟨⟨one, member, number, rfl⟩ | ⟨-, away⟩, same⟩
        · have again := agrees.find?_of_mem member
          rw [number, found] at again
          cases again
          rfl
        · exact absurd same away
    · rename_i away
      rw [agrees.found]
      constructor
      · rintro ⟨member, rfl⟩
        exact ⟨Or.inr ⟨member, away⟩, rfl⟩
      · rintro ⟨⟨one, -, number, rfl⟩ | ⟨member, -⟩, rfl⟩
        · exact absurd number away
        · exact ⟨member, rfl⟩
  · rename_i none
    -- No entry has the number, so the list stays as it is too.
    have absent : ∀ slot ∈ list.slots, slot.id ≠ id := by
      rintro slot member rfl
      rw [agrees.find?_of_mem member] at none
      cases none
    refine ⟨agrees.queue.trans order.symm, ?_, agrees.active, agrees.nextId, agrees.stopped⟩
    intro other slot
    rw [agrees.found, Worklist.mem_setState]
    constructor
    · rintro ⟨member, same⟩
      exact ⟨Or.inr ⟨member, absent slot member⟩, same⟩
    · rintro ⟨⟨one, member, number, -⟩ | ⟨member, -⟩, same⟩
      · exact absurd number (absent one member)
      · exact ⟨member, same⟩

theorem release (agrees : arena.Represents list) (id : FetcherId) (state : SlotState) :
    ((arena.setState id state).release).Represents (list.release id state) where
  queue := (agrees.setState id state).queue
  found := (agrees.setState id state).found
  active := congrArg (· - 1) (agrees.setState id state).active
  nextId := (agrees.setState id state).nextId
  stopped := (agrees.setState id state).stopped

/-! ## Removal -/

theorem mem_idsWhere (agrees : arena.Represents list) {wanted : Slot → Bool} {id : FetcherId} :
    id ∈ arena.idsWhere wanted ↔ ∃ slot ∈ list.slots, wanted slot = true ∧ slot.id = id := by
  simp only [idsWhere, List.mem_map, List.mem_filter]
  constructor
  · rintro ⟨⟨key, slot⟩, ⟨member, fits⟩, rfl⟩
    obtain ⟨inside, same⟩ := agrees.mem_entries_iff.mp member
    exact ⟨slot, inside, fits, same⟩
  · rintro ⟨slot, inside, fits, rfl⟩
    exact ⟨(slot.id, slot), ⟨agrees.mem_entries_iff.mpr ⟨inside, rfl⟩, fits⟩, rfl⟩

theorem mem_idsWhere_id (agrees : arena.Represents list) (tidy : list.Tidy)
    {wanted : Slot → Bool} {slot : Slot} (member : slot ∈ list.slots) :
    slot.id ∈ arena.idsWhere wanted ↔ wanted slot = true := by
  rw [agrees.mem_idsWhere]
  constructor
  · rintro ⟨other, inside, fits, same⟩
    rw [← tidy.eq_of_id inside member same]
    exact fits
  · intro fits
    exact ⟨slot, member, fits, rfl⟩

theorem nodup_idsWhere (arena : Arena) (wanted : Slot → Bool) : (arena.idsWhere wanted).Nodup :=
  arena.slots.ordered.nodup.sublist (List.filter_sublist.map _)

/-- Taking the numbers of some entries off the queue, and these entries out of the arena, removes
them from the list. -/
theorem remove (agrees : arena.Represents list) (tidy : list.Tidy) (wanted : Slot → Bool)
    {busy busy' : Nat} (same : busy = busy') :
    Represents
      { arena with
        slots := (arena.idsWhere wanted).foldl SortedMap.erase arena.slots
        queue := arena.queue.filter fun id => !(arena.idsWhere wanted).contains id
        active := busy }
      { list with
        slots := list.slots.filter fun slot => !wanted slot
        active := busy' } where
  queue := by
    simp only [agrees.queue, Worklist.order, List.filter_map]
    congr 1
    refine List.filter_congr fun slot member => ?_
    simp only [Function.comp_apply]
    rw [Bool.not_inj_iff, Bool.eq_iff_iff, List.contains_iff_mem,
      agrees.mem_idsWhere_id tidy member]
  found := by
    intro id slot
    rw [SortedMap.find?_foldl_erase, List.mem_filter]
    split
    · rename_i gone
      refine iff_of_false (by simp) ?_
      rintro ⟨⟨member, spared⟩, rfl⟩
      rw [(agrees.mem_idsWhere_id tidy member).mp gone] at spared
      cases spared
    · rename_i spared
      rw [agrees.found]
      constructor
      · rintro ⟨member, rfl⟩
        rw [agrees.mem_idsWhere_id tidy member, Bool.not_eq_true] at spared
        exact ⟨⟨member, by rw [spared]; rfl⟩, rfl⟩
      · rintro ⟨⟨member, -⟩, same⟩
        exact ⟨member, same⟩
  active := same
  nextId := agrees.nextId
  stopped := agrees.stopped

theorem purge (agrees : arena.Represents list) (tidy : list.Tidy) (now : Instant) :
    (arena.purge now).Represents (list.purge now) :=
  agrees.remove tidy (fun slot => slot.isExpired now) agrees.active

end Represents

theorem isActive_discard {arena : Arena} {id other : FetcherId} (away : other ≠ id) :
    (arena.discard id).isActive other = arena.isActive other := by
  have same : (arena.discard id).slots = arena.slots.erase id := by
    simp only [discard, release]
    split <;> rfl
  simp only [isActive, same, SortedMap.find?_erase, if_neg away]

theorem active_discard (arena : Arena) (id : FetcherId) :
    (arena.discard id).active = arena.active - [id].countP arena.isActive := by
  simp only [discard, release]
  split <;> rename_i active <;> simp [active]

/-- Discarding entries one after another lowers the count for each attempt that ends. -/
theorem foldl_discard {ids : List FetcherId} (apart : ids.Nodup) (arena : Arena) :
    ids.foldl discard arena =
      { arena with
        slots := ids.foldl SortedMap.erase arena.slots
        active := arena.active - ids.countP arena.isActive } := by
  induction ids generalizing arena with
  | nil => rfl
  | cons id rest ih =>
    obtain ⟨fresh, later⟩ := List.nodup_cons.mp apart
    have same : rest.countP (arena.discard id).isActive = rest.countP arena.isActive := by
      refine List.countP_congr fun other member => ?_
      rw [isActive_discard fun (here : other = id) => fresh (here ▸ member)]
    rw [List.foldl_cons, ih later, same, active_discard, Nat.sub_sub, ← List.countP_append]
    simp only [discard, release]
    split <;> rfl

namespace Represents

variable {arena : Arena} {list : Worklist}

theorem countP_idsWhere (agrees : arena.Represents list) (tidy : list.Tidy)
    (wanted : Slot → Bool) :
    (arena.idsWhere wanted).countP arena.isActive =
      list.slots.countP fun slot => wanted slot && slot.isActive := by
  rw [← (agrees.values_perm tidy).countP_eq, SortedMap.values, idsWhere, List.countP_map,
    List.countP_map, List.countP_filter]
  refine List.countP_congr ?_
  rintro ⟨id, slot⟩ member
  have active : arena.isActive id = slot.isActive := by
    simp only [Arena.isActive, SortedMap.find?_eq_some_iff.mpr member]
  simp [active, and_comm]

theorem removeKey (agrees : arena.Represents list) (tidy : list.Tidy) (key : TaskKey) :
    (arena.removeKey key).Represents (list.removeKey key) := by
  have count := agrees.countP_idsWhere tidy fun slot => decide (slot.task.key = key)
  have whole := agrees.remove tidy (fun slot => decide (slot.task.key = key))
    (congrArg₂ (· - ·) agrees.active count)
  simp only [Arena.removeKey, idsOf, foldl_discard (nodup_idsWhere arena _), unqueue,
    Worklist.removeKey, ne_eq, decide_not]
  exact whole

theorem isEmpty_idsOf (agrees : arena.Represents list) (key : TaskKey) :
    (arena.idsOf key).isEmpty =
      (list.slots.filter fun slot => slot.task.key = key).isEmpty := by
  rw [Bool.eq_iff_iff, List.isEmpty_iff, List.isEmpty_iff, List.filter_eq_nil_iff]
  constructor
  · intro none slot member same
    have found : slot.id ∈ arena.idsOf key := agrees.mem_idsWhere.mpr ⟨slot, member, same, rfl⟩
    rw [none] at found
    cases found
  · intro none
    refine List.eq_nil_iff_forall_not_mem.mpr fun id member => ?_
    obtain ⟨slot, inside, fits, -⟩ := agrees.mem_idsWhere.mp member
    exact none slot inside fits

/-! ## Scheduling -/

/-- Coming to an entry takes it up if it is due and there is room, and otherwise notes its time. -/
theorem visit_cases {pass : Pass} (config : FetchConfig) (now : Instant) {id : FetcherId}
    {slot : Slot} (found : pass.arena.slots.find? id = some slot) :
    (∃ fetcher, slot.due? now = some fetcher ∧ slot.wake? now = none ∧
      pass.arena.active < config.maxParallel ∧
      pass.visit config now id =
        { pass with
          arena := { pass.arena.setState id .active with active := pass.arena.active + 1 }
          started := pass.started ++ [(id, fetcher)] }) ∨
    (config.maxParallel - pass.arena.active = 0 ∨ slot.due? now = none) ∧
      pass.visit config now id =
        { pass with wakeAt := (slot.wake? now).elim pass.wakeAt (min pass.wakeAt) } := by
  unfold Pass.visit
  rw [found]
  cases stands : slot.state with
  | finished expiry => simp [Slot.due?, Slot.wake?, stands]
  | active => simp [Slot.due?, Slot.wake?, stands]
  | idle fetcher =>
    by_cases early : now < fetcher.nextRetry
    · simp [Slot.due?, Slot.wake?, stands, early, not_le.mpr early]
    · by_cases room : pass.arena.active < config.maxParallel
      · simp [Slot.due?, Slot.wake?, stands, early, room, not_lt.mp early]
      · simp [Slot.due?, Slot.wake?, stands, early, room, not_lt.mp early, not_lt.mp room]

/-- Taking up an entry in the midst of the list. -/
theorem activate {done rest : List Slot} {slot : Slot} {list : Worklist}
    (agrees : arena.Represents { list with slots := done ++ slot :: rest })
    (apart : ((done ++ slot :: rest).map (·.id)).Nodup) :
    Represents { arena.setState slot.id .active with active := arena.active + 1 }
      { list with
        slots := (done ++ [{ slot with state := .active }]) ++ rest
        active := list.active + 1 } := by
  have moved := agrees.setState slot.id .active
  have numbered : Worklist.order { list with slots := done ++ slot :: rest } |>.Nodup := apart
  have slots := Worklist.slots_setState numbered rfl .active
  refine ⟨?_, ?_, congrArg (· + 1) agrees.active, moved.nextId, moved.stopped⟩
  · rw [moved.queue, Worklist.order, slots, List.append_cons]
    rfl
  · intro id other
    rw [moved.found, slots, List.append_cons]

/-- Going along the rest of the queue does to the rest of the list what a look does. -/
theorem foldl_visit (config : FetchConfig) (now : Instant) (done rest : List Slot)
    (list : Worklist) (pass : Pass)
    (agrees : pass.arena.Represents { list with slots := done ++ rest })
    (apart : ((done ++ rest).map (·.id)).Nodup) :
    let taken := Worklist.startDue now (config.maxParallel - list.active) rest
    let last := (rest.map (·.id)).foldl (Pass.visit config now) pass
    last.arena.Represents
        { list with slots := done ++ taken.1, active := list.active + taken.2.length } ∧
      last.started = pass.started ++ taken.2 ∧
      last.wakeAt = (rest.filterMap (·.wake? now)).foldl min pass.wakeAt := by
  induction rest generalizing done list pass with
  | nil => exact ⟨agrees, (List.append_nil _).symm, rfl⟩
  | cons slot rest ih =>
    have found : pass.arena.slots.find? slot.id = some slot :=
      agrees.find?_of_mem (List.mem_append_right _ List.mem_cons_self)
    have active : pass.arena.active = list.active := agrees.active
    simp only [List.map_cons, List.foldl_cons]
    rcases visit_cases config now found with ⟨fetcher, due, still, free, next⟩ | ⟨stays, next⟩
    · obtain ⟨room, fits⟩ : ∃ room, config.maxParallel - list.active = room + 1 :=
        ⟨config.maxParallel - list.active - 1, by omega⟩
      have less : config.maxParallel - (list.active + 1) = room := by omega
      obtain ⟨later, started, wakeAt⟩ := ih (done ++ [{ slot with state := .active }])
        { list with active := list.active + 1 }
        { pass with
          arena := { pass.arena.setState slot.id .active with active := pass.arena.active + 1 }
          started := pass.started ++ [(slot.id, fetcher)] }
        (agrees.activate apart) (by simpa using apart)
      rw [less] at later started
      rw [next, fits, Worklist.startDue_of_due due]
      refine ⟨?_, started.trans (List.append_assoc _ _ _), ?_⟩
      · rw [List.append_cons done, List.length_cons, ← Nat.add_assoc, Nat.add_right_comm list.active]
        exact later
      · rw [wakeAt, List.filterMap_cons]
        simp only [still]
    · rw [active] at stays
      rw [next, Worklist.startDue_of_not_due stays]
      obtain ⟨later, started, wakeAt⟩ := ih (done ++ [slot]) list
        { pass with wakeAt := (slot.wake? now).elim pass.wakeAt (min pass.wakeAt) }
        (List.append_cons done slot rest ▸ agrees) (by simpa using apart)
      refine ⟨?_, started, wakeAt.trans ?_⟩
      · rw [List.append_cons]
        exact later
      · cases wake : slot.wake? now <;> simp [wake]

/-- A look along the queue does what a look at the list does. -/
theorem schedule (agrees : arena.Represents list) (tidy : list.Tidy) (config : FetchConfig)
    (now : Instant) :
    (arena.schedule config now).arena.Represents (list.schedule config now).1 ∧
      (arena.schedule config now).started = (list.schedule config now).2.1 ∧
      (arena.schedule config now).wakeAt = (list.schedule config now).2.2 := by
  have purged := agrees.purge tidy now
  have apart : ((list.purge now).slots.map (·.id)).Nodup :=
    tidy.numbered.sublist (List.filter_sublist.map _)
  have along := foldl_visit config now [] (list.purge now).slots (list.purge now)
    ⟨arena.purge now, [], now + config.maxIdle⟩ purged apart
  simp only [Arena.schedule, purged.queue]
  exact along

end Represents

end Arena

/-! ## A manager over an arena -/

namespace ArenaScene

/-- A manager over an arena is where one over a list of entries is. -/
structure Follows (here : ArenaScene) (there : ManagerScene) : Prop where
  config : here.config = there.manager.config
  arena : here.arena.Represents there.manager.worklist
  step : here.step = there.manager.step
  volume : here.volume = there.volume
  underWay : here.underWay = there.underWay

theorem follows_start (config : FetchConfig) (store : MemoryStore) :
    (start config store).Follows (.start config store) where
  config := rfl
  arena := Arena.represents_empty
  step := rfl
  volume := rfl
  underWay := rfl

namespace Follows

variable {here : ArenaScene} {there : ManagerScene}

theorem perform (follows : here.Follows there) (tidy : there.manager.worklist.Tidy)
    (now : Instant) (step : PersistStep) :
    (here.perform now step).Follows
      { there with
        manager := (there.manager.perform there.volume now step).1
        volume := (there.manager.perform there.volume now step).2.1 } := by
  obtain ⟨config, arena, same, volume, underWay⟩ := follows
  cases step with
  | storing task hint =>
    simp only [ArenaScene.perform, FetchManager.perform, volume]
    cases there.volume.mergeTask task with
    | error fault => exact ⟨config, arena, rfl, volume, underWay⟩
    | ok merged => exact ⟨config, arena, rfl, rfl, underWay⟩
  | inserting task hint =>
    simp only [ArenaScene.perform, FetchManager.perform, arena.stopped, config]
    cases there.manager.worklist.stopped with
    | true => exact ⟨config, arena, rfl, volume, underWay⟩
    | false => exact ⟨config, arena.insert tidy task _, rfl, volume, underWay⟩
  | clearing key removed =>
    simp only [ArenaScene.perform, FetchManager.perform, volume]
    cases there.volume.deleteTask key with
    | error fault => exact ⟨config, arena, rfl, volume, underWay⟩
    | ok deleted => exact ⟨config, arena, rfl, rfl, underWay⟩
  | dropping key left =>
    simp only [ArenaScene.perform, FetchManager.perform, volume]
    cases left with
    | none => exact ⟨config, arena, rfl, rfl, underWay⟩
    | some left => exact ⟨config, arena, rfl, rfl, underWay⟩
  | respanning left =>
    simp only [ArenaScene.perform, FetchManager.perform, volume]
    cases there.volume.mergeTask left with
    | error fault => exact ⟨config, arena, rfl, volume, underWay⟩
    | ok merged => exact ⟨config, arena, rfl, rfl, underWay⟩

theorem isTaken (follows : here.Follows there) : here.step.isSome = there.isTaken :=
  congrArg Option.isSome follows.step

theorem isUnderWay (follows : here.Follows there) (id : FetcherId) (fetcher : Fetcher) :
    here.isUnderWay id fetcher = there.isUnderWay id fetcher := by
  rw [ArenaScene.isUnderWay, follows.underWay, ManagerScene.isUnderWay]

theorem conclude (follows : here.Follows there) (id : FetcherId) :
    (here.conclude id).Follows { there with underWay := there.without id } where
  config := follows.config
  arena := follows.arena
  step := follows.step
  volume := follows.volume
  underWay := by rw [ArenaScene.conclude, follows.underWay, ManagerScene.without]

theorem enterComplete (follows : here.Follows there) (tidy : there.manager.worklist.Tidy)
    (now : Instant) (id : FetcherId) (key : TaskKey) :
    (here.enterComplete now id key).Follows
      { there with manager := there.manager.enterComplete now id key } := by
  have ⟨config, arena, step, volume, underWay⟩ := follows
  have released := arena.release id (.finished (now + there.manager.config.timedWait))
  unfold ArenaScene.enterComplete FetchManager.enterComplete
  rw [arena.isActive tidy, config]
  cases there.manager.worklist.isActive id with
  | true =>
    refine ⟨rfl, released, ?_, volume, underWay⟩
    exact congrArg (fun left => some (PersistStep.dropping key left)) (released.liveSpan key)
  | false => exact follows

theorem fail (follows : here.Follows there) (tidy : there.manager.worklist.Tidy) (now : Instant)
    (resolve : DeviceId → Name) (id : FetcherId) (fetcher : Fetcher) :
    (here.fail now resolve id fetcher).Follows
      { there with manager := there.manager.fail now resolve id fetcher } := by
  have ⟨config, arena, step, volume, underWay⟩ := follows
  unfold ArenaScene.fail FetchManager.fail
  rw [arena.isActive tidy]
  cases there.manager.worklist.isActive id with
  | true => exact ⟨config, arena.release id _, step, volume, underWay⟩
  | false => exact follows

/-- Every event does the same to both. -/
theorem react (follows : here.Follows there) (tidy : there.manager.worklist.Tidy) (now : Instant)
    (event : ManagerEvent) : (here.react now event).Follows (there.react now event) := by
  have ⟨config, arena, step, volume, underWay⟩ := follows
  cases event with
  | enqueue resolve task =>
    simp only [ArenaScene.react, ManagerScene.react, enterEnqueue, FetchManager.enterEnqueue]
    rw [follows.isTaken, arena.stopped, arena.covers tidy]
    cases there.isTaken with
    | true => exact follows
    | false =>
      cases task.isEmpty with
      | true => exact follows
      | false =>
        cases there.manager.worklist.stopped with
        | true => exact follows
        | false =>
          cases there.manager.worklist.covers task with
          | true => exact follows
          | false => exact ⟨config, arena, rfl, volume, underWay⟩
  | cancel key =>
    simp only [ArenaScene.react, ManagerScene.react]
    rw [follows.isTaken]
    cases there.isTaken with
    | true => exact follows
    | false =>
      refine ⟨config, arena.removeKey tidy key, ?_, volume, underWay⟩
      simp only [enterCancel, arena.isEmpty_idsOf]
      rfl
  | advance =>
    simp only [ArenaScene.react, ManagerScene.react, FetchManager.advance, step]
    cases there.manager.step with
    | none => exact follows
    | some step => exact follows.perform tidy now step
  | look =>
    simp only [ArenaScene.react, ManagerScene.react]
    rw [arena.stopped, config]
    cases there.manager.worklist.stopped with
    | true => exact follows
    | false =>
      obtain ⟨after, started, -⟩ := arena.schedule tidy there.manager.config now
      exact ⟨rfl, after, step, volume, congrArg₂ (· ++ ·) underWay started⟩
  | complete id fetcher =>
    simp only [ArenaScene.react, ManagerScene.react]
    rw [follows.isTaken, follows.isUnderWay]
    cases there.isTaken || !there.isUnderWay id fetcher with
    | true => exact follows
    | false => exact (follows.conclude id).enterComplete tidy now id fetcher.task.key
  | fail resolve id fetcher =>
    simp only [ArenaScene.react, ManagerScene.react]
    rw [follows.isUnderWay]
    cases there.isUnderWay id fetcher with
    | true => exact (follows.conclude id).fail tidy now resolve id fetcher
    | false => exact follows
  | medium fault =>
    exact ⟨config, arena, step, congrArg (fun volume => { volume with fault }) volume, underWay⟩

/-- Every run does the same to both, and keeps the order and the count of the entries. -/
theorem run {config : FetchConfig} (follows : here.Follows there) (orderly : there.Orderly config)
    (events : List (Instant × ManagerEvent)) :
    (here.run events).Follows (there.run events) ∧ (there.run events).Orderly config := by
  induction events generalizing here there with
  | nil => exact ⟨follows, orderly⟩
  | cons event rest ih =>
    exact ih (follows.react orderly.tidy event.1 event.2) (orderly.react event.1 event.2)

end Follows

end ArenaScene

/-! ## Every run -/

/-- The queue, the arena and the count of a worklist say the same, and the queue has its order. -/
structure Arena.Agrees (arena : Arena) (maxParallel : Nat) : Prop where
  numbered : arena.queue.Nodup
  queued : ∀ id, id ∈ arena.queue ↔ id ∈ arena.slots.keys
  used : ∀ id ∈ arena.queue, id < arena.nextId
  counted : arena.active = arena.slots.values.countP Slot.isActive
  bounded : arena.active ≤ maxParallel
  ranked : ∃ urgent plain : List FetcherId, arena.queue = urgent ++ plain ∧
    (∀ id ∈ urgent, (arena.slots.find? id).map (·.task.priority) = some .high) ∧
    (∀ id ∈ plain, (arena.slots.find? id).map (·.task.priority) = some .normal) ∧
    urgent.Pairwise (· > ·) ∧ plain.Pairwise (· < ·)

/-- Priorities found in the arena are those in the ranks of the list. -/
theorem Arena.Represents.priority_of_rank {arena : Arena} {list : Worklist}
    (agrees : arena.Represents list) {entry : FetcherId × Priority}
    (member : entry ∈ list.slots.map Worklist.rank) :
    (arena.slots.find? entry.1).map (·.task.priority) = some entry.2 := by
  obtain ⟨slot, inside, rfl⟩ := List.mem_map.mp member
  exact congrArg (Option.map (·.task.priority)) (agrees.find?_of_mem inside)

theorem ManagerScene.Orderly.agrees {config : FetchConfig} {scene : ManagerScene}
    (orderly : scene.Orderly config) {arena : Arena}
    (agrees : arena.Represents scene.manager.worklist) : arena.Agrees config.maxParallel where
  numbered := agrees.queue ▸ orderly.tidy.numbered
  queued := fun id => (agrees.keys_perm orderly.tidy).symm.mem_iff
  used := by
    intro id member
    rw [agrees.queue] at member
    obtain ⟨slot, inside, rfl⟩ := List.mem_map.mp member
    rw [agrees.nextId]
    exact orderly.tidy.counted slot inside
  counted := by
    rw [agrees.active, orderly.counted.active]
    exact (agrees.values_perm orderly.tidy).countP_eq _ |>.symm
  bounded := agrees.active ▸ orderly.counted.bounded
  ranked := by
    obtain ⟨urgent, plain, ranks, high, normal, falling, rising⟩ :=
      Worklist.split_of_pairwise_precedes orderly.ranked
    have priority : ∀ entry ∈ urgent ++ plain,
        (arena.slots.find? entry.1).map (·.task.priority) = some entry.2 := by
      rw [← ranks]
      exact fun entry member => agrees.priority_of_rank member
    refine ⟨urgent.map (·.1), plain.map (·.1), ?_, ?_, ?_, ?_, ?_⟩
    · rw [agrees.queue, ← List.map_append, ← ranks, List.map_map]
      rfl
    · intro id member
      obtain ⟨entry, inside, rfl⟩ := List.mem_map.mp member
      rw [priority entry (List.mem_append_left _ inside), high entry inside]
    · intro id member
      obtain ⟨entry, inside, rfl⟩ := List.mem_map.mp member
      rw [priority entry (List.mem_append_right _ inside), normal entry inside]
    · exact List.pairwise_map.mpr falling
    · exact List.pairwise_map.mpr rising

/-- In every run of a manager before a shutdown, whatever its medium does: no number is queued
twice, exactly the numbers of the entries in the arena are queued, all of them are used up, the
count is that of the entries with an attempt under way and within its bound, and the queue lists
the urgent entries, the latest first, and then the others in order of arrival.  The entries along
the queue are those of the manager that keeps them as one list. -/
theorem worklist_parts_agree (config : FetchConfig) (store : MemoryStore)
    (events : List (Instant × ManagerEvent)) :
    let arena := ((ArenaScene.start config store).run events).arena
    arena.Agrees config.maxParallel ∧
      arena.Represents ((ManagerScene.start config store).run events).manager.worklist := by
  intro arena
  obtain ⟨follows, orderly⟩ := (ArenaScene.follows_start config store).run
    (ManagerScene.orderly_start config store) events
  exact ⟨orderly.agrees follows.arena, follows.arena⟩

end DigestSync
