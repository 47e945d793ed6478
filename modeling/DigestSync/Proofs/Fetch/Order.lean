import DigestSync.Proofs.Fetch.Moves

set_option autoImplicit false

/-! # The order of a worklist and its count

The urgent entries come first, the latest of them in front, and then the others as they arrived.
The count of a worklist is that of the entries whose attempts are under way, and never more than
the manager may have at once.
-/

namespace DigestSync

namespace Worklist

/-! ## Order -/

/-- What an entry's place depends on. -/
def rank (slot : Slot) : FetcherId × Priority := (slot.id, slot.task.priority)

/-- One rank comes before another one. -/
def Precedes (first second : FetcherId × Priority) : Prop :=
  match first.2, second.2 with
  | .high, .high => second.1 < first.1
  | .high, .normal => True
  | .normal, .high => False
  | .normal, .normal => first.1 < second.1

/-- The entries stand in the order of their ranks. -/
def Ranked (list : Worklist) : Prop := (list.slots.map rank).Pairwise Precedes

theorem Ranked.sublist {before after : Worklist} (ranked : before.Ranked)
    (fewer : (after.slots.map rank).Sublist (before.slots.map rank)) : after.Ranked :=
  List.Pairwise.sublist fewer ranked

theorem ranked_insert {list : Worklist} (ranked : list.Ranked)
    (counted : ∀ slot ∈ list.slots, slot.id < list.nextId) (task : FetchTask)
    (fetcher : Fetcher) : (list.insert task fetcher).Ranked := by
  cases urgent : task.priority with
  | high =>
    have front : (list.insert task fetcher).slots.map rank =
        (list.nextId, .high) :: list.slots.map rank := by
      simp [insert, urgent, rank]
    rw [Ranked, front, List.pairwise_cons]
    refine ⟨?_, ranked⟩
    intro other member
    obtain ⟨slot, inside, rfl⟩ := List.mem_map.mp member
    have old : slot.id < list.nextId := counted slot inside
    cases kind : slot.task.priority <;> simp [Precedes, rank, kind, old]
  | normal =>
    have back : (list.insert task fetcher).slots.map rank =
        list.slots.map rank ++ [(list.nextId, .normal)] := by
      simp [insert, urgent, rank]
    rw [Ranked, back, List.pairwise_append]
    refine ⟨ranked, List.pairwise_singleton _ _, ?_⟩
    intro other member last here
    obtain rfl := List.mem_singleton.mp here
    obtain ⟨slot, inside, rfl⟩ := List.mem_map.mp member
    have old : slot.id < list.nextId := counted slot inside
    cases kind : slot.task.priority <;> simp [Precedes, rank, kind, old]

theorem rank_release (list : Worklist) (id : FetcherId) (state : SlotState) :
    (list.release id state).slots.map rank = list.slots.map rank := by
  simp only [release, setState, List.map_map]
  refine List.map_congr_left ?_
  intro slot _
  by_cases here : slot.id = id <;> simp [rank, here]

theorem rank_schedule (list : Worklist) (config : FetchConfig) (now : Instant) :
    (list.schedule config now).1.slots.map rank = (list.purge now).slots.map rank :=
  map_startDue (fun _ _ starts => by rw [rank, starts.id, starts.task, rank]) _ _

/-- The numbers of the urgent entries fall, and then those of the others rise. -/
theorem split_of_pairwise_precedes {ranks : List (FetcherId × Priority)}
    (ordered : ranks.Pairwise Precedes) :
    ∃ urgent plain : List (FetcherId × Priority), ranks = urgent ++ plain ∧
      (∀ entry ∈ urgent, entry.2 = .high) ∧ (∀ entry ∈ plain, entry.2 = .normal) ∧
      urgent.Pairwise (fun first second => second.1 < first.1) ∧
      plain.Pairwise (fun first second => first.1 < second.1) := by
  induction ranks with
  | nil => exact ⟨[], [], by simp⟩
  | cons first rest ih =>
    obtain ⟨before, tail⟩ := List.pairwise_cons.mp ordered
    obtain ⟨urgent, plain, rfl, high, normal, falling, rising⟩ := ih tail
    cases kind : first.2 with
    | high =>
      refine ⟨first :: urgent, plain, rfl, ?_, normal, ?_, rising⟩
      · exact List.forall_mem_cons.mpr ⟨kind, high⟩
      · refine List.pairwise_cons.mpr ⟨?_, falling⟩
        intro other member
        simpa [Precedes, kind, high other member] using
          before other (List.mem_append_left _ member)
    | normal =>
      -- Nothing urgent comes after one that is not.
      have none : urgent = [] := by
        refine List.eq_nil_iff_forall_not_mem.mpr ?_
        intro other member
        simpa [Precedes, kind, high other member] using
          before other (List.mem_append_left _ member)
      subst none
      refine ⟨[], first :: plain, rfl, by simp, ?_, List.Pairwise.nil, ?_⟩
      · exact List.forall_mem_cons.mpr ⟨kind, normal⟩
      · refine List.pairwise_cons.mpr ⟨?_, rising⟩
        intro other member
        simpa [Precedes, kind, normal other member] using before other member

/-! ## The count -/

/-- How many attempts are under way by the states of the entries. -/
def busy (slots : List Slot) : Nat := slots.countP Slot.isActive

theorem isActive_of_due {slot : Slot} {now : Instant} {fetcher : Fetcher}
    (due : slot.due? now = some fetcher) : slot.isActive = false := by
  simp [Slot.isActive, Slot.state_of_due due]

theorem busy_insert (list : Worklist) (task : FetchTask) (fetcher : Fetcher) :
    busy (list.insert task fetcher).slots = busy list.slots := by
  cases urgent : task.priority <;> simp [busy, insert, urgent, Slot.isActive]

/-- One attempt less is under way after one has ended. -/
theorem busy_release {list : Worklist} (tidy : list.Tidy) {id : FetcherId} {state : SlotState}
    (active : list.isActive id = true) (ended : state ≠ .active) :
    busy (list.release id state).slots + 1 = busy list.slots := by
  obtain ⟨found, inside, rfl, stands⟩ := active_of_isActive active
  obtain ⟨front, back, split⟩ := List.append_of_mem inside
  have moved : (list.release found.id state).slots = front ++ { found with state } :: back :=
    slots_setState tidy.numbered split state
  have idle : Slot.isActive { found with state } = false := by
    cases state with
    | active => exact absurd rfl ended
    | idle | finished => rfl
  have under : found.isActive = true := by simp [Slot.isActive, stands]
  rw [busy, busy, moved, split, List.countP_append, List.countP_append,
    List.countP_cons_of_pos under, List.countP_cons_of_neg (by simp [idle]), Nat.add_assoc]

theorem busy_removeKey (list : Worklist) (key : TaskKey) :
    busy (list.removeKey key).slots +
      list.slots.countP (fun slot => slot.task.key = key && slot.isActive) = busy list.slots := by
  rw [busy, busy, List.countP_eq_countP_filter_add list.slots Slot.isActive
    (fun slot => slot.task.key ≠ key)]
  congr 1
  rw [List.countP_filter]
  refine List.countP_congr fun slot _ => ?_
  simp [and_comm]

theorem busy_purge (list : Worklist) (now : Instant) :
    busy (list.purge now).slots = busy list.slots := by
  simp only [busy, purge, List.countP_filter]
  refine List.countP_congr fun slot _ => ?_
  cases stands : slot.state <;> simp [Slot.isActive, Slot.isExpired, stands]

theorem length_startDue_le (now : Instant) (room : Nat) (slots : List Slot) :
    (startDue now room slots).2.length ≤ room := by
  induction slots generalizing room with
  | nil => exact Nat.zero_le _
  | cons slot rest ih =>
    unfold startDue
    split
    · exact Nat.succ_le_succ (ih _)
    · exact ih _

/-- A look takes up as many attempts as it tells. -/
theorem busy_startDue (now : Instant) (room : Nat) (slots : List Slot) :
    busy (startDue now room slots).1 = busy slots + (startDue now room slots).2.length := by
  induction slots generalizing room with
  | nil => rfl
  | cons slot rest ih =>
    unfold startDue
    split
    · rename_i left fetcher due
      have taken : Slot.isActive { slot with state := .active } = true := rfl
      have later := ih left
      simp only [busy, List.countP_cons, isActive_of_due due, taken, List.length_cons] at later ⊢
      simp only [later, if_true, Bool.false_eq_true, if_false]
      omega
    · rename_i left _ _ _
      have later := ih left
      simp only [busy, List.countP_cons] at later ⊢
      omega

/-- The count is that of the attempts under way, of which there are not too many. -/
structure Counted (maxParallel : Nat) (list : Worklist) : Prop where
  active : list.active = busy list.slots
  bounded : list.active ≤ maxParallel

namespace Moves

variable {config : FetchConfig} {now : Instant} {before after : Worklist}
  {underWay later : List (FetcherId × Fetcher)}

theorem ranked (moves : Moves config now before underWay after later) (tidy : before.Tidy)
    (ranked : before.Ranked) : after.Ranked := by
  cases moves with
  | keep => exact ranked
  | insert task fetcher => exact ranked_insert ranked tidy.counted task fetcher
  | removeKey key => exact ranked.sublist (List.filter_sublist.map rank)
  | schedule =>
    refine ranked.sublist ?_
    rw [rank_schedule]
    exact List.filter_sublist.map rank
  | release attempt state =>
    refine ranked.sublist ?_
    rw [rank_release]

theorem counted (moves : Moves config now before underWay after later) (tidy : before.Tidy)
    (counted : before.Counted config.maxParallel) : after.Counted config.maxParallel := by
  obtain ⟨active, bounded⟩ := counted
  cases moves with
  | keep => exact ⟨active, bounded⟩
  | insert task fetcher => exact ⟨active.trans (busy_insert before task fetcher).symm, bounded⟩
  | removeKey key =>
    have gone := busy_removeKey before key
    refine ⟨?_, (Nat.sub_le _ _).trans bounded⟩
    exact Nat.sub_eq_of_eq_add (active.trans gone.symm)
  | schedule =>
    have same : busy (before.purge now).slots = before.active :=
      (busy_purge before now).trans active.symm
    have taken := busy_startDue now (config.maxParallel - before.active) (before.purge now).slots
    have few := length_startDue_le now (config.maxParallel - before.active)
      (before.purge now).slots
    constructor
    · rw [same] at taken
      exact taken.symm
    · exact (Nat.add_le_add_left few _).trans (Nat.add_sub_of_le bounded).le
  | release attempt state begun running ended =>
    have one := busy_release tidy running ended
    refine ⟨?_, (Nat.sub_le _ _).trans bounded⟩
    exact Nat.sub_eq_of_eq_add (active.trans one.symm)

end Moves

end Worklist

namespace ManagerScene

/-- What every event keeps about the order and the count of the entries. -/
structure Orderly (config : FetchConfig) (scene : ManagerScene) : Prop extends Steady scene where
  configured : scene.manager.config = config
  ranked : scene.manager.worklist.Ranked
  counted : scene.manager.worklist.Counted config.maxParallel

theorem orderly_start (config : FetchConfig) (store : MemoryStore) :
    (start config store).Orderly config where
  toSteady := steady_start config store
  configured := rfl
  ranked := List.Pairwise.nil
  counted := ⟨rfl, Nat.zero_le _⟩

theorem Orderly.react {config : FetchConfig} {scene : ManagerScene}
    (orderly : scene.Orderly config) (now : Instant) (event : ManagerEvent) :
    (scene.react now event).Orderly config where
  toSteady := orderly.toSteady.react now event
  configured := (scene.config_react now event).trans orderly.configured
  ranked := (scene.moves_react now event).ranked orderly.tidy orderly.ranked
  counted := by
    have moves := scene.moves_react now event
    rw [orderly.configured] at moves
    exact moves.counted orderly.tidy orderly.counted

theorem orderly_run {config : FetchConfig} {scene : ManagerScene} (orderly : scene.Orderly config)
    (events : List (Instant × ManagerEvent)) : (scene.run events).Orderly config :=
  run_induction (fun event _ _ orderly => orderly.react event.1 event.2) orderly

end ManagerScene

end DigestSync
