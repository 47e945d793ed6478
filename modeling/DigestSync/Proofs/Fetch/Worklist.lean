import DigestSync.Fetch.Worklist
import DigestSync.Proofs.Task
import Mathlib.Data.List.Forall2
import Mathlib.Data.List.Induction
import Mathlib.Data.List.Nodup

set_option autoImplicit false

/-! # What the operations of a worklist keep

The tasks of the unfinished entries with a key are read off what each entry shows of
itself under this key.  Looking at the worklist, and an attempt that fails, leave
that as it is; a new entry, a finished one and a cancelled key change it in the
expected way.
-/

namespace DigestSync

namespace Worklist

/-! ## Spans -/

theorem foldl_widen (first second : FetchTask) (rest : List FetchTask) :
    rest.foldl FetchTask.widen (first.widen second) =
      first.widen (rest.foldl FetchTask.widen second) := by
  induction rest generalizing second with
  | nil => rfl
  | cons third rest ih => rw [List.foldl_cons, FetchTask.widen_assoc, ih, List.foldl_cons]

theorem span_cons (task : FetchTask) (rest : List FetchTask) :
    span (task :: rest) = some (((span rest).map task.widen).getD task) := by
  cases rest with
  | nil => rfl
  | cons second rest => simp only [span, List.foldl_cons, foldl_widen, Option.map_some,
      Option.getD_some]

theorem span_concat (tasks : List FetchTask) (task : FetchTask) :
    span (tasks ++ [task]) = some (((span tasks).map (·.widen task)).getD task) := by
  cases tasks with
  | nil => rfl
  | cons first rest => simp [span]

theorem key_of_span {tasks : List FetchTask} {key : TaskKey} {hull : FetchTask}
    (whole : span tasks = some hull) (same : ∀ task ∈ tasks, task.key = key) :
    hull.key = key := by
  induction tasks using List.reverseRecOn generalizing hull with
  | nil => cases whole
  | append_singleton tasks task ih =>
    rw [span_concat] at whole
    cases spanned : span tasks with
    | none =>
      rw [spanned] at whole
      cases whole
      exact same task (by simp)
    | some early =>
      rw [spanned] at whole
      cases whole
      have shared : early.key = key :=
        ih spanned fun other member => same other (List.mem_append_left _ member)
      exact shared

/-- Where a task of the same key stands among others does not matter. -/
theorem span_cons_eq_span_concat {task : FetchTask} {tasks : List FetchTask}
    (same : ∀ other ∈ tasks, other.key = task.key) :
    span (task :: tasks) = span (tasks ++ [task]) := by
  rw [span_cons, span_concat]
  cases spanned : span tasks with
  | none => rfl
  | some hull =>
    have key : hull.key = task.key := key_of_span spanned same
    simp only [Option.map_some, Option.getD_some, FetchTask.widen_comm key]

/-- The span of some tasks is their hull. -/
theorem isHull_span {tasks : List FetchTask} {hull : FetchTask}
    (whole : span tasks = some hull) : FetchTask.IsHull hull tasks := by
  induction tasks using List.reverseRecOn generalizing hull with
  | nil => cases whole
  | append_singleton tasks task ih =>
    rw [span_concat] at whole
    cases spanned : span tasks with
    | none =>
      rw [spanned] at whole
      cases whole
      cases tasks with
      | nil => exact FetchTask.isHull_singleton _
      | cons first rest => cases spanned
    | some early =>
      rw [spanned] at whole
      cases whole
      exact (ih spanned).widen task

theorem span_eq_none_iff (tasks : List FetchTask) : span tasks = none ↔ tasks = [] := by
  cases tasks <;> simp [span]

/-! ## The tasks of unfinished entries -/

theorem mem_liveTasks {list : Worklist} {key : TaskKey} {task : FetchTask} :
    task ∈ list.liveTasks key ↔
      ∃ slot ∈ list.slots, (slot.isLive = true ∧ slot.task.key = key) ∧ slot.task = task := by
  simp [liveTasks, and_assoc]

theorem key_of_mem_liveTasks {list : Worklist} {key : TaskKey} {task : FetchTask}
    (member : task ∈ list.liveTasks key) : task.key = key := by
  obtain ⟨slot, -, ⟨-, same⟩, rfl⟩ := mem_liveTasks.mp member
  exact same

theorem key_of_liveSpan {list : Worklist} {key : TaskKey} {hull : FetchTask}
    (whole : list.liveSpan key = some hull) : hull.key = key :=
  key_of_span whole fun _ => key_of_mem_liveTasks

/-- What an entry shows of itself under a key: its task, and whether it counts. -/
def view (key : TaskKey) (slot : Slot) : FetchTask × Bool :=
  (slot.task, slot.isLive && slot.task.key = key)

theorem liveTasks_eq_view (list : Worklist) (key : TaskKey) :
    list.liveTasks key = ((list.slots.map (view key)).filter (·.2)).map (·.1) := by
  simp only [liveTasks, List.filter_map, List.map_map]
  rfl

theorem liveTasks_congr {before after : Worklist} {key : TaskKey}
    (same : after.slots.map (view key) = before.slots.map (view key)) :
    after.liveTasks key = before.liveTasks key := by
  rw [liveTasks_eq_view, liveTasks_eq_view, same]

/-- A new entry counts under its key, and for the span as if it came last. -/
theorem liveSpan_insert (list : Worklist) (task : FetchTask) (fetcher : Fetcher)
    (key : TaskKey) :
    (list.insert task fetcher).liveSpan key =
      span (list.liveTasks key ++ [task].filter (·.key = key)) := by
  by_cases same : task.key = key
  · have alike : ∀ other ∈ list.liveTasks key, other.key = task.key :=
      fun other member => (key_of_mem_liveTasks member).trans same.symm
    cases urgent : task.priority with
    | high =>
      have front : (list.insert task fetcher).liveTasks key = task :: list.liveTasks key := by
        simp [liveTasks, insert, urgent, Slot.isLive, same]
      rw [liveSpan, front, span_cons_eq_span_concat alike]
      simp [same]
    | normal =>
      have back : (list.insert task fetcher).liveTasks key = list.liveTasks key ++ [task] := by
        simp [liveTasks, insert, urgent, Slot.isLive, same]
      rw [liveSpan, back]
      simp [same]
  · have away : (list.insert task fetcher).liveTasks key = list.liveTasks key := by
      cases urgent : task.priority <;> simp [liveTasks, insert, urgent, same]
    rw [liveSpan, away]
    simp [same]

/-- Moving an entry to a state in which it counts as before changes nothing. -/
theorem liveTasks_release {list : Worklist} {id : FetcherId} {state : SlotState}
    {key : TaskKey}
    (kept : ∀ slot ∈ list.slots, slot.id = id →
      view key { slot with state } = view key slot) :
    (list.release id state).liveTasks key = list.liveTasks key := by
  apply liveTasks_congr
  rw [show (list.release id state).slots =
    list.slots.map fun slot => if slot.id = id then { slot with state } else slot from rfl,
    List.map_map]
  refine List.map_congr_left ?_
  intro slot member
  by_cases here : slot.id = id
  · simpa [here] using kept slot member here
  · simp [here]

theorem liveTasks_removeKey_self (list : Worklist) (key : TaskKey) :
    (list.removeKey key).liveTasks key = [] := by
  simp only [liveTasks, removeKey, List.map_eq_nil_iff, List.filter_filter,
    List.filter_eq_nil_iff]
  simp

theorem liveTasks_removeKey_of_ne {list : Worklist} {gone key : TaskKey} (other : key ≠ gone) :
    (list.removeKey gone).liveTasks key = list.liveTasks key := by
  simp only [liveTasks, removeKey, List.filter_filter]
  congr 1
  refine List.filter_congr ?_
  intro slot _
  by_cases same : slot.task.key = key
  · simp [same, other]
  · simp [same]

/-! ## Scheduling -/

theorem liveTasks_purge (list : Worklist) (now : Instant) (key : TaskKey) :
    (list.purge now).liveTasks key = list.liveTasks key := by
  simp only [liveTasks, purge, List.filter_filter]
  congr 1
  refine List.filter_congr ?_
  intro slot _
  cases stands : slot.state <;> simp [Slot.isExpired, Slot.isLive, stands]

end Worklist

namespace Slot

/-- An entry after a look at the worklist: as before, or taken up because it was
due. -/
def MayStart (now : Instant) (before after : Slot) : Prop :=
  after = before ∨
    ∃ fetcher, before.due? now = some fetcher ∧ after = { before with state := .active }

theorem state_of_due {slot : Slot} {now : Instant} {fetcher : Fetcher}
    (due : slot.due? now = some fetcher) : slot.state = .idle fetcher := by
  unfold due? at due
  split at due
  · rename_i waiting stands
    split at due <;> cases due
    exact stands
  · cases due

theorem MayStart.id {now : Instant} {before after : Slot} (starts : MayStart now before after) :
    after.id = before.id := by
  rcases starts with rfl | ⟨fetcher, -, rfl⟩ <;> rfl

theorem MayStart.task {now : Instant} {before after : Slot}
    (starts : MayStart now before after) : after.task = before.task := by
  rcases starts with rfl | ⟨fetcher, -, rfl⟩ <;> rfl

theorem MayStart.view {now : Instant} {before after : Slot}
    (starts : MayStart now before after) (key : TaskKey) :
    Worklist.view key after = Worklist.view key before := by
  rcases starts with rfl | ⟨fetcher, due, rfl⟩
  · rfl
  · simp [Worklist.view, isLive, state_of_due due]

end Slot

namespace Worklist

theorem mayStart_startDue (now : Instant) (room : Nat) (slots : List Slot) :
    List.Forall₂ (Slot.MayStart now) slots (startDue now room slots).1 := by
  induction slots generalizing room with
  | nil =>
    unfold startDue
    exact List.Forall₂.nil
  | cons slot rest ih =>
    unfold startDue
    split
    · rename_i room fetcher due
      exact List.Forall₂.cons (Or.inr ⟨fetcher, due, rfl⟩) (ih room)
    · exact List.Forall₂.cons (Or.inl rfl) (ih _)

theorem startDue_of_due {now : Instant} {slot : Slot} {fetcher : Fetcher}
    (due : slot.due? now = some fetcher) (room : Nat) (rest : List Slot) :
    startDue now (room + 1) (slot :: rest) =
      ({ slot with state := .active } :: (startDue now room rest).1,
        (slot.id, fetcher) :: (startDue now room rest).2) := by
  simp only [startDue, due]

theorem startDue_of_not_due {now : Instant} {slot : Slot} {room : Nat}
    (stays : room = 0 ∨ slot.due? now = none) (rest : List Slot) :
    startDue now room (slot :: rest) =
      (slot :: (startDue now room rest).1, (startDue now room rest).2) := by
  rcases stays with rfl | idle
  · simp only [startDue]
  · simp only [startDue, idle]

/-- Every attempt to be started is that of an entry that was due. -/
theorem due_of_mem_startDue {now : Instant} {room : Nat} {slots : List Slot}
    {attempt : FetcherId × Fetcher} (member : attempt ∈ (startDue now room slots).2) :
    ∃ slot ∈ slots, slot.id = attempt.1 ∧ slot.due? now = some attempt.2 := by
  induction slots generalizing room with
  | nil =>
    unfold startDue at member
    cases member
  | cons slot rest ih =>
    unfold startDue at member
    split at member
    · rename_i room fetcher due
      rcases List.mem_cons.mp member with here | later
      · exact ⟨slot, List.mem_cons_self, by rw [here], by rw [here, due]⟩
      · obtain ⟨found, inside, facts⟩ := ih later
        exact ⟨found, List.mem_cons_of_mem _ inside, facts⟩
    · obtain ⟨found, inside, facts⟩ := ih member
      exact ⟨found, List.mem_cons_of_mem _ inside, facts⟩

/-- What all entries show of themselves is the same before and after a look, if it is
the same for each. -/
theorem map_startDue {β : Type} {show? : Slot → β} {now : Instant}
    (same : ∀ before after, Slot.MayStart now before after → show? after = show? before)
    (room : Nat) (slots : List Slot) :
    (startDue now room slots).1.map show? = slots.map show? := by
  have pairs := mayStart_startDue now room slots
  generalize (startDue now room slots).1 = after at pairs
  induction pairs with
  | nil => rfl
  | cons starts _ ih => rw [List.map_cons, List.map_cons, same _ _ starts, ih]

/-- Looking at the worklist leaves what is to be fetched as it is. -/
theorem liveTasks_schedule (list : Worklist) (config : FetchConfig) (now : Instant)
    (key : TaskKey) : (list.schedule config now).1.liveTasks key = list.liveTasks key := by
  have same : (list.schedule config now).1.slots.map (view key) =
      (list.purge now).slots.map (view key) :=
    map_startDue (fun _ _ starts => starts.view key) _ _
  rw [liveTasks_congr same, liveTasks_purge]

/-! ## Numbers and tasks of entries -/

/-- Numbers tell the entries apart, all of them are used up, and a waiting entry's
fetcher is for its task. -/
structure Tidy (list : Worklist) : Prop where
  numbered : list.order.Nodup
  counted : ∀ slot ∈ list.slots, slot.id < list.nextId
  own : ∀ slot ∈ list.slots, ∀ fetcher, slot.state = .idle fetcher → fetcher.task = slot.task

/-- A worklist arises from another one without a new entry: each entry was there
before, with its number and its task, and in the same order. -/
structure Narrows (after before : Worklist) : Prop where
  order : after.order.Sublist before.order
  nextId : after.nextId = before.nextId
  slots : ∀ slot ∈ after.slots, ∃ other ∈ before.slots, other.id = slot.id ∧ other.task = slot.task

theorem tidy_empty : empty.Tidy := by
  constructor <;> simp [empty, order]

theorem Tidy.eq_of_id {list : Worklist} (tidy : list.Tidy) {left right : Slot}
    (here : left ∈ list.slots) (there : right ∈ list.slots) (same : left.id = right.id) :
    left = right := List.inj_on_of_nodup_map tidy.numbered here there same

theorem Tidy.narrow {before after : Worklist} (tidy : before.Tidy) (narrows : Narrows after before)
    (own : ∀ slot ∈ after.slots, ∀ fetcher, slot.state = .idle fetcher →
      fetcher.task = slot.task) : after.Tidy where
  numbered := tidy.numbered.sublist narrows.order
  counted := by
    intro slot member
    obtain ⟨other, inside, id, -⟩ := narrows.slots slot member
    rw [← id, narrows.nextId]
    exact tidy.counted other inside
  own := own

theorem mem_insert {list : Worklist} {task : FetchTask} {fetcher : Fetcher} {slot : Slot} :
    slot ∈ (list.insert task fetcher).slots ↔
      slot = ⟨list.nextId, task, .idle fetcher⟩ ∨ slot ∈ list.slots := by
  cases urgent : task.priority <;> simp [insert, urgent, or_comm]

theorem tidy_insert {list : Worklist} (tidy : list.Tidy) {task : FetchTask} {fetcher : Fetcher}
    (own : fetcher.task = task) : (list.insert task fetcher).Tidy where
  numbered := by
    have fresh : list.nextId ∉ list.order := by
      intro member
      obtain ⟨slot, inside, same⟩ := List.mem_map.mp member
      exact absurd (tidy.counted slot inside) (by rw [same]; exact Nat.lt_irrefl _)
    cases urgent : task.priority with
    | high =>
      have front : (list.insert task fetcher).order = list.nextId :: list.order := by
        simp [order, insert, urgent]
      rw [front]
      exact List.nodup_cons.mpr ⟨fresh, tidy.numbered⟩
    | normal =>
      have back : (list.insert task fetcher).order = list.order ++ [list.nextId] := by
        simp [order, insert, urgent]
      rw [back]
      exact List.Nodup.append tidy.numbered (List.nodup_singleton _) (by simpa using fresh)
  counted := by
    intro slot member
    rcases mem_insert.mp member with rfl | old
    · exact Nat.lt_succ_self _
    · exact Nat.lt_succ_of_lt (tidy.counted slot old)
  own := by
    intro slot member other stands
    rcases mem_insert.mp member with rfl | old
    · cases stands
      exact own
    · exact tidy.own slot old other stands

theorem mem_setState {list : Worklist} {id : FetcherId} {state : SlotState} {slot : Slot} :
    slot ∈ (list.setState id state).slots ↔
      (∃ other ∈ list.slots, other.id = id ∧ slot = { other with state }) ∨
        slot ∈ list.slots ∧ slot.id ≠ id := by
  simp only [setState, List.mem_map]
  constructor
  · rintro ⟨other, member, rfl⟩
    split
    · rename_i here
      exact Or.inl ⟨other, member, here, rfl⟩
    · rename_i away
      exact Or.inr ⟨member, away⟩
  · rintro (⟨other, member, here, rfl⟩ | ⟨member, away⟩)
    · exact ⟨other, member, if_pos here⟩
    · exact ⟨slot, member, if_neg away⟩

/-- Moving an entry to another state leaves the others as they are. -/
theorem slots_setState {list : Worklist} (numbered : list.order.Nodup) {front back : List Slot}
    {slot : Slot} (split : list.slots = front ++ slot :: back) (state : SlotState) :
    (list.setState slot.id state).slots = front ++ { slot with state } :: back := by
  rw [order, split, List.map_append, List.map_cons, List.nodup_append, List.nodup_cons] at numbered
  obtain ⟨-, ⟨behind, -⟩, apart⟩ := numbered
  have others : ∀ slots : List Slot, (∀ other ∈ slots, other.id ≠ slot.id) →
      slots.map (fun other => if other.id = slot.id then { other with state } else other) =
        slots := by
    intro slots away
    refine (List.map_congr_left fun other member => ?_).trans (List.map_id slots)
    rw [if_neg (away other member)]
    rfl
  have early : ∀ other ∈ front, other.id ≠ slot.id := fun other member =>
    apart _ (List.mem_map_of_mem member) _ List.mem_cons_self
  have late : ∀ other ∈ back, other.id ≠ slot.id := fun other member same =>
    behind (same ▸ List.mem_map_of_mem member)
  simp only [setState, split, List.map_append, List.map_cons, others front early,
    others back late, if_true]

theorem mem_release {list : Worklist} {id : FetcherId} {state : SlotState} {slot : Slot}
    (member : slot ∈ (list.release id state).slots) :
    ∃ other ∈ list.slots, other.id = slot.id ∧ other.task = slot.task ∧
      (slot.state = state ∧ slot.id = id ∨ slot = other) := by
  obtain ⟨other, inside, rfl⟩ := List.mem_map.mp member
  refine ⟨other, inside, ?_⟩
  by_cases here : other.id = id
  · simp [here]
  · simp [here]

theorem order_release (list : Worklist) (id : FetcherId) (state : SlotState) :
    (list.release id state).order = list.order := by
  simp only [order, release, setState, List.map_map]
  refine List.map_congr_left ?_
  intro slot _
  by_cases here : slot.id = id <;> simp [here]

theorem narrows_release (list : Worklist) (id : FetcherId) (state : SlotState) :
    Narrows (list.release id state) list where
  order := (order_release list id state) ▸ List.Sublist.refl _
  nextId := rfl
  slots := by
    intro slot member
    obtain ⟨other, inside, same, task, -⟩ := mem_release member
    exact ⟨other, inside, same, task⟩

theorem tidy_release {list : Worklist} (tidy : list.Tidy) {id : FetcherId} {state : SlotState}
    (own : ∀ fetcher, state = .idle fetcher →
      ∀ slot ∈ list.slots, slot.id = id → fetcher.task = slot.task) :
    (list.release id state).Tidy := by
  refine tidy.narrow (narrows_release list id state) ?_
  intro slot member fetcher stands
  obtain ⟨other, inside, same, task, ⟨moved, here⟩ | rfl⟩ := mem_release member
  · rw [← task]
    exact own fetcher (moved ▸ stands) other inside (same.trans here)
  · exact tidy.own slot inside fetcher stands

theorem narrows_removeKey (list : Worklist) (key : TaskKey) :
    Narrows (list.removeKey key) list where
  order := List.Sublist.map _ List.filter_sublist
  nextId := rfl
  slots := fun slot member => ⟨slot, (List.mem_filter.mp member).1, rfl, rfl⟩

theorem tidy_removeKey {list : Worklist} (tidy : list.Tidy) (key : TaskKey) :
    (list.removeKey key).Tidy :=
  tidy.narrow (narrows_removeKey list key) fun slot member =>
    tidy.own slot (List.mem_filter.mp member).1

/-- After a look, each entry was there before and is as it was or was taken up. -/
theorem mem_schedule {list : Worklist} {config : FetchConfig} {now : Instant} {slot : Slot}
    (member : slot ∈ (list.schedule config now).1.slots) :
    ∃ other ∈ list.slots, Slot.MayStart now other slot := by
  have pairs : List.Forall₂ (Slot.MayStart now) (list.purge now).slots
      (list.schedule config now).1.slots := mayStart_startDue now _ _
  obtain ⟨index, bound, rfl⟩ := List.getElem_of_mem member
  have inside : index < (list.purge now).slots.length := by
    rw [pairs.length_eq]
    exact bound
  exact ⟨(list.purge now).slots[index],
    (List.mem_filter.mp (List.getElem_mem inside)).1, pairs.get inside bound⟩

theorem order_schedule (list : Worklist) (config : FetchConfig) (now : Instant) :
    (list.schedule config now).1.order = (list.purge now).order :=
  map_startDue (fun _ _ starts => starts.id) _ _

theorem narrows_schedule (list : Worklist) (config : FetchConfig) (now : Instant) :
    Narrows (list.schedule config now).1 list where
  order := by
    rw [order_schedule]
    exact List.Sublist.map _ List.filter_sublist
  nextId := rfl
  slots := by
    intro slot member
    obtain ⟨other, inside, starts⟩ := mem_schedule member
    exact ⟨other, inside, starts.id.symm, starts.task.symm⟩

theorem tidy_schedule {list : Worklist} (tidy : list.Tidy) (config : FetchConfig)
    (now : Instant) : (list.schedule config now).1.Tidy := by
  refine tidy.narrow (narrows_schedule list config now) ?_
  intro slot member fetcher stands
  obtain ⟨other, inside, rfl | ⟨taken, -, rfl⟩⟩ := mem_schedule member
  · exact tidy.own slot inside fetcher stands
  · cases stands

/-- Every attempt that a look starts is that of an entry, with the fetcher it had. -/
theorem idle_of_mem_schedule {list : Worklist} {config : FetchConfig} {now : Instant}
    {attempt : FetcherId × Fetcher} (member : attempt ∈ (list.schedule config now).2.1) :
    ∃ slot ∈ list.slots, slot.id = attempt.1 ∧ slot.state = .idle attempt.2 := by
  obtain ⟨slot, inside, same, due⟩ := due_of_mem_startDue member
  exact ⟨slot, (List.mem_filter.mp inside).1, same, Slot.state_of_due due⟩

theorem active_of_isActive {list : Worklist} {id : FetcherId}
    (active : list.isActive id = true) :
    ∃ slot ∈ list.slots, slot.id = id ∧ slot.state = .active := by
  obtain ⟨slot, member, facts⟩ := List.any_eq_true.mp active
  simp only [Bool.and_eq_true, decide_eq_true_eq] at facts
  refine ⟨slot, member, facts.1, ?_⟩
  have under := facts.2
  unfold Slot.isActive at under
  split at under
  · assumption
  · cases under

/-- A new entry is unfinished, and all others stay. -/
theorem mem_liveTasks_insert {list : Worklist} {task other : FetchTask} {fetcher : Fetcher}
    {key : TaskKey} :
    other ∈ (list.insert task fetcher).liveTasks key ↔
      other = task ∧ task.key = key ∨ other ∈ list.liveTasks key := by
  simp only [mem_liveTasks, mem_insert]
  constructor
  · rintro ⟨slot, rfl | old, ⟨live, same⟩, rfl⟩
    · exact Or.inl ⟨rfl, same⟩
    · exact Or.inr ⟨slot, old, ⟨live, same⟩, rfl⟩
  · rintro (⟨rfl, same⟩ | ⟨slot, old, facts⟩)
    · exact ⟨_, Or.inl rfl, ⟨rfl, same⟩, rfl⟩
    · exact ⟨slot, Or.inr old, facts⟩

/-- An entry that waits again counts as it did while its attempt was under way. -/
theorem liveTasks_retry {list : Worklist} (tidy : list.Tidy) {id : FetcherId}
    (active : list.isActive id = true) (fetcher : Fetcher) (key : TaskKey) :
    (list.release id (.idle fetcher)).liveTasks key = list.liveTasks key := by
  obtain ⟨found, there, number, stands⟩ := active_of_isActive active
  apply liveTasks_release
  intro slot member same
  have one : slot = found := tidy.eq_of_id member there (same.trans number.symm)
  simp [view, Slot.isLive, one, stands]

end Worklist

end DigestSync
