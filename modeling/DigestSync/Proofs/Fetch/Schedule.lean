import DigestSync.Proofs.Fetch.Arena
import Mathlib.Order.Bounds.Basic

set_option autoImplicit false

/-! # What a look at the worklist does

A look goes along the queue once.  It changes the arena as it goes, and each entry is judged by
what is found of it by then.  Since no number is queued twice, this is what was found before the
look.  So it starts the first entries that are due, as many as there is room for, and leaves the
others as they are; what it notes of these is when they next need attention.
-/

namespace DigestSync

namespace Arena

/-! ## What is found of an entry -/

/-- The entry is finished, and its time has come. -/
def isExpired (arena : Arena) (now : Instant) (id : FetcherId) : Bool :=
  (arena.slots.find? id).any fun slot => slot.isExpired now

/-- The fetcher of an entry whose next attempt may start. -/
def due? (arena : Arena) (now : Instant) (id : FetcherId) : Option Fetcher :=
  (arena.slots.find? id).bind fun slot => slot.due? now

/-- When the entry next needs attention by itself. -/
def wake? (arena : Arena) (now : Instant) (id : FetcherId) : Option Instant :=
  (arena.slots.find? id).bind fun slot => slot.wake? now

/-- Of some entries, those whose next attempts may start. -/
def due (arena : Arena) (now : Instant) (ids : List FetcherId) : List FetcherId :=
  ids.filter fun id => (arena.due? now id).isSome

/-- The first of some entries whose next attempts may start, as many as there is room for. -/
def startable (arena : Arena) (config : FetchConfig) (now : Instant) (ids : List FetcherId) :
    List FetcherId := (arena.due now ids).take (config.maxParallel - arena.active)

/-- The next attempts of some entries. -/
def attempts (arena : Arena) (now : Instant) (ids : List FetcherId) : List (FetcherId × Fetcher) :=
  ids.filterMap fun id => (arena.due? now id).map fun fetcher => (id, fetcher)

/-- What is found of an entry once the attempts of some entries have started. -/
def slotAfter? (arena : Arena) (taken : List FetcherId) (id : FetcherId) : Option Slot :=
  if id ∈ taken then (arena.slots.find? id).map fun slot => { slot with state := .active }
  else arena.slots.find? id

variable {arena later : Arena} {config : FetchConfig} {now : Instant} {id : FetcherId}
  {ids : List FetcherId} {slot : Slot}

theorem mem_of_mem_startable (member : id ∈ arena.startable config now ids) : id ∈ ids :=
  (List.mem_filter.mp (List.mem_of_mem_take member)).1

theorem find?_setState (found : arena.slots.find? id = some slot) (state : SlotState)
    (other : FetcherId) :
    (arena.setState id state).slots.find? other =
      if other = id then some { slot with state } else arena.slots.find? other := by
  simp only [setState, found, SortedMap.find?_insert]

/-- Only what is found of the entries decides which of them may start. -/
theorem due_congr (same : ∀ id ∈ ids, later.slots.find? id = arena.slots.find? id) :
    later.due now ids = arena.due now ids := by
  refine List.filter_congr fun id member => ?_
  rw [due?, same id member, due?]

theorem attempts_congr (same : ∀ id ∈ ids, later.slots.find? id = arena.slots.find? id) :
    later.attempts now ids = arena.attempts now ids := by
  refine List.filterMap_congr fun id member => ?_
  rw [due?, same id member, due?]

theorem wakes_congr (same : ∀ id ∈ ids, later.slots.find? id = arena.slots.find? id) :
    ids.filterMap (later.wake? now) = ids.filterMap (arena.wake? now) := by
  refine List.filterMap_congr fun id member => ?_
  rw [wake?, same id member, wake?]

/-! ## Along the queue -/

/-- What going along some numbers makes of a look. -/
structure Looks (config : FetchConfig) (now : Instant) (ids : List FetcherId)
    (before after : Pass) : Prop where
  queue : after.arena.queue = before.arena.queue
  nextId : after.arena.nextId = before.arena.nextId
  stopped : after.arena.stopped = before.arena.stopped
  slots : ∀ id, after.arena.slots.find? id =
    before.arena.slotAfter? (before.arena.startable config now ids) id
  active : after.arena.active =
    before.arena.active + (before.arena.startable config now ids).length
  started : after.started =
    before.started ++ before.arena.attempts now (before.arena.startable config now ids)
  wakeAt : after.wakeAt = (ids.filterMap (before.arena.wake? now)).foldl min before.wakeAt

/-- The look comes to an entry whose attempt it starts. -/
theorem Looks.start {pass last : Pass} {fetcher : Fetcher} (fresh : id ∉ ids)
    (found : pass.arena.slots.find? id = some slot) (due : slot.due? now = some fetcher)
    (still : slot.wake? now = none) (room : pass.arena.active < config.maxParallel)
    (rest : Looks config now ids
      { pass with
        arena := { pass.arena.setState id .active with active := pass.arena.active + 1 }
        started := pass.started ++ [(id, fetcher)] } last) :
    Looks config now (id :: ids) pass last := by
  have foundAfter := find?_setState found .active
  have same : ∀ other ∈ ids,
      (pass.arena.setState id .active).slots.find? other = pass.arena.slots.find? other := by
    intro other member
    rw [foundAfter, if_neg fun (here : other = id) => fresh (here ▸ member)]
  have isDue : pass.arena.due? now id = some fetcher := by rw [due?, found, Option.bind_some, due]
  -- The rest of the queue is as it was, with room for one attempt less.
  obtain ⟨taken, restTaken⟩ : ∃ taken,
      (pass.arena.due now ids).take (config.maxParallel - (pass.arena.active + 1)) = taken :=
    ⟨_, rfl⟩
  have later : startable { pass.arena.setState id .active with active := pass.arena.active + 1 }
      config now ids = taken := (congrArg _ (due_congr same)).trans restTaken
  have first : pass.arena.startable config now (id :: ids) = id :: taken := by
    have fits : config.maxParallel - pass.arena.active =
        config.maxParallel - (pass.arena.active + 1) + 1 := by omega
    rw [startable, Arena.due, List.filter_cons_of_pos (by rw [isDue]; rfl), fits,
      List.take_succ_cons, ← restTaken]
    rfl
  have among : ∀ other ∈ taken, other ∈ ids := fun other member =>
    mem_of_mem_startable (later ▸ member)
  obtain ⟨queue, nextId, stopped, slots, active, started, wakeAt⟩ := rest
  rw [later] at slots active started
  constructor
  case queue => exact queue.trans (by simp only [setState, found])
  case nextId => exact nextId.trans (by simp only [setState, found])
  case stopped => exact stopped.trans (by simp only [setState, found])
  case slots =>
    intro other
    rw [slots, first, slotAfter?, slotAfter?, foundAfter]
    by_cases here : other = id
    · subst here
      have away : other ∉ taken := fun member => fresh (among other member)
      simp [away, found]
    · simp [here]
  case active =>
    rw [active, first, List.length_cons, Nat.add_assoc, Nat.add_comm 1]
  case started =>
    have more : attempts { pass.arena.setState id .active with active := pass.arena.active + 1 }
        now taken = pass.arena.attempts now taken :=
      attempts_congr fun other member => same other (among other member)
    rw [started, first, more, List.append_assoc]
    simp only [attempts, List.filterMap_cons, isDue, Option.map_some, List.singleton_append]
  case wakeAt =>
    have quiet : pass.arena.wake? now id = none := by rw [wake?, found, Option.bind_some, still]
    rw [wakeAt, List.filterMap_cons, quiet]
    exact congrArg (List.foldl min pass.wakeAt) (wakes_congr same)

/-- The look comes to an entry that it leaves as it is. -/
theorem Looks.pass {pass last : Pass} (found : pass.arena.slots.find? id = some slot)
    (stays : config.maxParallel - pass.arena.active = 0 ∨ slot.due? now = none)
    (rest : Looks config now ids
      { pass with wakeAt := (slot.wake? now).elim pass.wakeAt (min pass.wakeAt) } last) :
    Looks config now (id :: ids) pass last := by
  have first : pass.arena.startable config now (id :: ids) = pass.arena.startable config now ids := by
    rcases stays with full | idle
    · rw [startable, startable, full, List.take_zero, List.take_zero]
    · have notDue : pass.arena.due? now id = none := by rw [due?, found, Option.bind_some, idle]
      rw [startable, Arena.due, List.filter_cons_of_neg (by simp [notDue])]
      rfl
  obtain ⟨queue, nextId, stopped, slots, active, started, wakeAt⟩ := rest
  constructor
  case queue => exact queue
  case nextId => exact nextId
  case stopped => exact stopped
  case slots => rwa [first]
  case active => rwa [first]
  case started => rwa [first]
  case wakeAt =>
    have noted : pass.arena.wake? now id = slot.wake? now := by rw [wake?, found, Option.bind_some]
    rw [wakeAt, List.filterMap_cons, noted]
    cases slot.wake? now <;> rfl

end Arena

namespace Arena

variable {arena : Arena} {config : FetchConfig} {now : Instant}

end Arena

namespace ArenaScene

/-- One attempt at a time. -/
def narrow : FetchConfig := { FetchConfig.standard with maxParallel := 1 }

/-- The task of one record of a producer. -/
def errand (producer : String) (priority : Priority) : FetchTask :=
  ⟨⟨.ofTexts [producer]⟩, .ofTexts ["a"], 1, 1, priority⟩

/-- A call adds a task, and nothing comes in between. -/
def adding (now : Instant) (task : FetchTask) : List (Instant × ManagerEvent) :=
  [(now, .enqueue (fun _ => Name.empty) task), (now, .advance), (now, .advance)]

/-- The attempt for a task begins and fails. -/
def failing (begun ended : Instant) (id : FetcherId) (task : FetchTask) :
    List (Instant × ManagerEvent) :=
  [(begun, .look), (ended, .fail (fun _ => Name.empty) id (.start task .broadcast 0 0))]

end ArenaScene

namespace Arena

end Arena

end DigestSync
