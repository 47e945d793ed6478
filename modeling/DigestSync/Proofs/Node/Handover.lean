import DigestSync.Node.Mesh
import DigestSync.Proofs.Node.Applied
import DigestSync.Proofs.Sync.Locators

set_option autoImplicit false

/-! # Attempts hand over what they fetch

A fetcher is faithful if it asks by names under which its producer serves, and if the sink was
handed what has arrived by the fetcher's own account.  Every step of an attempt leaves its
fetcher faithful, and says that a range is complete only after the sink was handed all of it.
-/

namespace DigestSync

open FetchAction

variable {base : DeviceId → Name} {home : DeviceId → Name → Prop}

/-! ## Where to ask -/

/-- Requests go to everyone, or to no place at all, or to one of the producer's own. -/
def ForwardingHint.Leads (home : DeviceId → Name → Prop) (producer : DeviceId)
    (hint : ForwardingHint) : Prop :=
  ∀ place, hint = .direct place → place = Name.empty ∨ home producer place

/-- The table knows no device at a place that is not its own. -/
def LocatorTable.Located (home : DeviceId → Name → Prop) (table : LocatorTable) : Prop :=
  ∀ device place, table.find? device = some place → home device place

namespace LocatorTable.Located

variable {table : LocatorTable}

theorem leads (located : table.Located home) (producer : DeviceId) :
    (ForwardingHint.direct (table.resolve producer)).Leads home producer := by
  rintro place ⟨⟩
  unfold resolve
  cases found : table.find? producer with
  | none => exact Or.inl rfl
  | some place => exact Or.inr (located producer place found)

theorem insert (located : table.Located home) {device : DeviceId} {place : Name}
    (own : home device place) : LocatorTable.Located home (SortedMap.insert table device place) := by
  intro other found there
  rw [SortedMap.find?_insert] at there
  split at there
  · rename_i same
    cases there
    exact same ▸ own
  · exact located other found there

end LocatorTable.Located

/-- The other kind of hint leads to the producer as well. -/
theorem ForwardingHint.leads_alternate {table : LocatorTable} (located : table.Located home)
    (hint : ForwardingHint) (producer : DeviceId) :
    (hint.alternate table.resolve producer).Leads home producer := by
  cases hint with
  | broadcast => exact located.leads producer
  | direct place => exact nofun

/-- The task asks for records by the names that its producer gives them. -/
def FetchTask.IsNamed (base : DeviceId → Name) (task : FetchTask) : Prop :=
  task.baseName = base task.producer

instance (base : DeviceId → Name) (task : FetchTask) : Decidable (task.IsNamed base) :=
  inferInstanceAs (Decidable (_ = _))

/-! ## Calls on the sink -/

namespace SinkCall

variable {calls later : List SinkCall}

/-- The sink was handed the record. -/
def Hands (calls : List SinkCall) (producer : DeviceId) (seq : Seq) : Prop :=
  ∃ content, .apply producer seq content ∈ calls

theorem Hands.mono {producer : DeviceId} {seq : Seq} (hands : Hands calls producer seq)
    (grown : calls ⊆ later) : Hands later producer seq :=
  hands.imp fun _ there => grown there

/-- A range is said to be complete only after the sink was handed all of it. -/
def InOrder (calls : List SinkCall) : Prop :=
  ∀ early producer first last late, calls = early ++ .complete producer first last :: late →
    ∀ seq, first ≤ seq → seq ≤ last → Hands early producer seq

theorem inOrder_nil : InOrder [] := by
  intro early producer first last late split
  exact absurd split.symm (by simp)

/-- One more call leaves them in order if the range that it says is complete, if any, is. -/
theorem InOrder.concat (inOrder : InOrder calls) {call : SinkCall}
    (handed : ∀ producer first last, call = .complete producer first last →
      ∀ seq, first ≤ seq → seq ≤ last → Hands calls producer seq) :
    InOrder (calls ++ [call]) := by
  intro early producer first last late split seq above upto
  rcases late.eq_nil_or_concat with rfl | ⟨more, final, rfl⟩
  · obtain ⟨rfl, same⟩ := List.append_inj' split rfl
    cases same
    exact handed producer first last rfl seq above upto
  · have shifted : calls ++ [call] =
        (early ++ .complete producer first last :: more) ++ [final] := by
      rw [split]
      simp
    obtain ⟨before, -⟩ := List.append_inj' shifted rfl
    exact inOrder early producer first last more before seq above upto

/-- Handing records over leaves the calls in order. -/
theorem InOrder.append (inOrder : InOrder calls) {more : List SinkCall}
    (hands : ∀ call ∈ more, ∀ producer first last, call ≠ .complete producer first last) :
    InOrder (calls ++ more) := by
  induction more generalizing calls with
  | nil => rwa [List.append_nil]
  | cons call rest ih =>
    obtain ⟨here, there⟩ := List.forall_mem_cons.mp hands
    rw [List.append_cons]
    refine ih (inOrder.concat ?_) there
    intro producer first last same
    exact absurd same (here producer first last)

end SinkCall

open SinkCall

/-! ## Fetchers -/

variable {calls later : List SinkCall} {fetcher : Fetcher} {config : FetchConfig} {window : Window}

/-- The fetcher asks by names under which its producer serves, and the sink was handed what has
arrived by the fetcher's own account, which is right if the task ends below the highest
number. -/
structure Fetcher.Faithful (base : DeviceId → Name) (home : DeviceId → Name → Prop)
    (calls : List SinkCall) (fetcher : Fetcher) : Prop where
  named : fetcher.task.IsNamed base
  leads : fetcher.hint.Leads home fetcher.task.producer
  handed : fetcher.task.maxSeq.toNat + 1 < 2 ^ 64 →
    ∃ trace, Ledger fetcher.task fetcher.progress trace ∧
      ∀ seq ∈ delivered trace, Hands calls fetcher.task.producer seq

namespace Fetcher.Faithful

theorem start {task : FetchTask} {hint : ForwardingHint} (named : task.IsNamed base)
    (leads : hint.Leads home task.producer) (maxPause : Duration) (now : Instant) :
    (Fetcher.start task hint maxPause now).Faithful base home calls where
  named := named
  leads := leads
  handed _ := ⟨[], Ledger.start task, nofun⟩

theorem mono (faithful : fetcher.Faithful base home calls) (grown : calls ⊆ later) :
    fetcher.Faithful base home later := by
  refine { faithful with handed := fun low => ?_ }
  obtain ⟨trace, ledger, handed⟩ := faithful.handed low
  exact ⟨trace, ledger, fun seq member => (handed seq member).mono grown⟩

/-- Backing off changes only where the fetcher asks next. -/
theorem failAttempt (faithful : fetcher.Faithful base home calls) {table : LocatorTable}
    (located : table.Located home) (now : Instant) :
    (fetcher.failAttempt table.resolve now).Faithful base home calls where
  named := faithful.named
  leads := ForwardingHint.leads_alternate located fetcher.hint fetcher.task.producer
  handed := faithful.handed

end Fetcher.Faithful

/-- The fetcher is faithful, and its requests in flight are for records that have not arrived
by its own account. -/
structure Pipeline.Faithful (base : DeviceId → Name) (home : DeviceId → Name → Prop)
    (calls : List SinkCall) (pipeline : Pipeline) : Prop where
  fetcher : pipeline.fetcher.Faithful base home calls
  pending : pipeline.fetcher.task.maxSeq.toNat + 1 < 2 ^ 64 →
    ∀ window, pipeline.stage = .going window → pipeline.fetcher.Pending window

theorem Pipeline.Faithful.mono {pipeline : Pipeline}
    (faithful : pipeline.Faithful base home calls) (grown : calls ⊆ later) :
    pipeline.Faithful base home later := ⟨faithful.fetcher.mono grown, faithful.pending⟩

/-! ## Steps of an attempt -/

/-- The calls on the sink that the actions of a step make. -/
def FetchTurn.sinkCalls (turn : FetchTurn) : List SinkCall := turn.actions.filterMap sinkCall?

/-- What a step of a fetcher's attempt leaves to itself. -/
structure FetchTurn.Continues (fetcher : Fetcher) (turn : FetchTurn) : Prop where
  task : turn.fetcher.task = fetcher.task
  hint : turn.fetcher.hint = fetcher.hint
  own : ∀ task seq content, .deliver task seq content ∈ turn.actions → task = fetcher.task
  ends : ∀ task, .finish task ∈ turn.actions → turn.fetcher.isComplete = true

namespace Fetcher

/-- A task all of which has arrived ends below the highest number. -/
theorem low_of_isComplete (complete : fetcher.isComplete = true) :
    fetcher.task.maxSeq.toNat + 1 < 2 ^ 64 := by
  have beyond : fetcher.task.maxSeq < fetcher.progress.next := of_decide_eq_true complete
  have less := UInt64.lt_iff_toNat_lt.mp beyond
  have bound := fetcher.progress.next.toNat_lt
  omega

theorem not_mem_fill_of_finish {task : FetchTask} :
    .finish task ∉ (fetcher.fill config window).2 := by
  intro member
  obtain ⟨seq, same, -⟩ := missing_of_mem_fill member
  cases same

theorem continues_begin (fetcher : Fetcher) (config : FetchConfig) :
    FetchTurn.Continues fetcher (fetcher.begin config) := by
  have own : ∀ task seq content, .deliver task seq content ∈ (fetcher.begin config).actions →
      task = fetcher.task := fun _ _ _ member => task_of_deliver_begin member
  unfold begin at own ⊢
  dsimp only at own ⊢
  split at own
  · rename_i complete
    rw [if_pos complete]
    exact ⟨rfl, rfl, own, fun _ _ => complete⟩
  · rename_i unfinished
    rw [if_neg unfinished]
    exact ⟨rfl, rfl, own, fun _ member => absurd member not_mem_fill_of_finish⟩

theorem continues_receive (fetcher : Fetcher) (config : FetchConfig) (window : Window)
    (now : Instant) (seq : Seq) (answer : Option Bytes) :
    FetchTurn.Continues fetcher (fetcher.receive config window now seq answer) := by
  have own : ∀ task number content,
      .deliver task number content ∈ (fetcher.receive config window now seq answer).actions →
        task = fetcher.task := fun _ _ _ member => task_of_deliver_receive member
  unfold receive at own ⊢
  cases answer with
  | some content =>
    dsimp only at own ⊢
    split at own
    · rename_i complete
      rw [if_pos complete]
      exact ⟨rfl, rfl, own, fun _ _ => complete⟩
    · rename_i unfinished
      rw [if_neg unfinished]
      refine ⟨rfl, rfl, own, fun task member => ?_⟩
      rcases List.mem_append.mp member with here | there
      · cases List.mem_singleton.mp here
      · exact absurd there not_mem_fill_of_finish
  | none =>
    dsimp only at own ⊢
    split at own
    · rename_i active
      rw [if_pos active]
      refine ⟨rfl, rfl, own, fun task member => ?_⟩
      rcases List.mem_append.mp member with here | there
      · cases List.mem_singleton.mp here
      · exact absurd there not_mem_fill_of_finish
    · rename_i silent
      rw [if_neg silent]
      exact ⟨rfl, rfl, own, nofun⟩

end Fetcher

namespace FetchTurn

variable {turn : FetchTurn} {trace : List FetchAction}

/-- The sink is handed what the step delivers. -/
theorem hands_of_delivered {actions : List FetchAction} {task : FetchTask} {seq : Seq}
    (own : ∀ other number content, .deliver other number content ∈ actions → other = task)
    (member : seq ∈ delivered actions) : Hands (actions.filterMap sinkCall?) task.producer seq := by
  obtain ⟨other, content, there⟩ := mem_delivered member
  obtain rfl := own other seq content there
  exact ⟨content, List.mem_filterMap.mpr ⟨_, there, rfl⟩⟩

/-- No call says that a range is complete if no action does. -/
theorem ne_complete_of_unfinished {actions : List FetchAction}
    (unfinished : ∀ action ∈ actions, action.isFinish = false) :
    ∀ call ∈ actions.filterMap sinkCall?, ∀ producer first last,
      call ≠ .complete producer first last := by
  rintro call member producer first last rfl
  obtain ⟨action, inside, made⟩ := List.mem_filterMap.mp member
  have quiet := unfinished action inside
  cases action with
  | request seq interest => cases made
  | deliver task seq content => cases made
  | finish task => cases quiet

/-- A step leaves a faithful pipeline. -/
theorem Continues.faithful (continues : Continues fetcher turn)
    (faithful : fetcher.Faithful base home calls)
    (outcome : fetcher.task.maxSeq.toNat + 1 < 2 ^ 64 → ∀ trace,
      Ledger fetcher.task fetcher.progress trace → Outcome fetcher.task trace turn)
    (id : FetcherId) :
    Pipeline.Faithful base home (calls ++ turn.sinkCalls) ⟨id, turn.fetcher, .after turn⟩ := by
  have same := continues.task
  refine ⟨⟨same ▸ faithful.named, ?_, fun low => ?_⟩, fun low window stands => ?_⟩
  · show turn.fetcher.hint.Leads home turn.fetcher.task.producer
    rw [continues.hint, same]
    exact faithful.leads
  · have low : turn.fetcher.task.maxSeq.toNat + 1 < 2 ^ 64 := low
    rw [same] at low
    obtain ⟨trace, ledger, handed⟩ := faithful.handed low
    show ∃ trace, Ledger turn.fetcher.task turn.fetcher.progress trace ∧ _
    refine ⟨trace ++ turn.actions, same ▸ (outcome low trace ledger).ledger, ?_⟩
    rw [delivered_append]
    intro seq member
    show Hands _ turn.fetcher.task.producer seq
    rw [same]
    rcases List.mem_append.mp member with old | new
    · exact (handed seq old).mono (List.subset_append_left _ _)
    · exact (hands_of_delivered continues.own new).mono (List.subset_append_right _ _)
  · have low : turn.fetcher.task.maxSeq.toNat + 1 < 2 ^ 64 := low
    rw [same] at low
    obtain ⟨trace, ledger, -⟩ := faithful.handed low
    have stands : PipelineStage.after turn = .going window := stands
    unfold PipelineStage.after at stands
    split at stands
    · rename_i going
      cases stands
      exact (outcome low trace ledger).pending going
    · cases stands

/-- All of the range has arrived as an attempt completes, and whatever has arrived was
delivered. -/
theorem mem_delivered_of_completed {task : FetchTask} {body : List FetchAction}
    (ledger : Ledger turn.fetcher.task turn.fetcher.progress (trace ++ turn.actions))
    (whole : turn.fetcher.isComplete = true) (actions : turn.actions = body ++ [.finish task])
    {seq : Seq} (above : turn.fetcher.task.minSeq ≤ seq) (upto : seq ≤ turn.fetcher.task.maxSeq) :
    seq ∈ delivered trace ∨ seq ∈ delivered body := by
  have all := (ledger.arrived seq above).mp (Progress.isReceived_of_isComplete whole upto)
  rw [actions, ← List.append_assoc, delivered_append, delivered_append] at all
  simpa [delivered, delivered?] using all

/-- A step says that the range is complete only after the sink was handed all of it. -/
theorem Continues.inOrder (continues : Continues fetcher turn)
    (faithful : fetcher.Faithful base home calls)
    (outcome : fetcher.task.maxSeq.toNat + 1 < 2 ^ 64 → ∀ trace,
      Ledger fetcher.task fetcher.progress trace → Outcome fetcher.task trace turn)
    (inOrder : InOrder calls) : InOrder (calls ++ turn.sinkCalls) := by
  have same := continues.task
  by_cases ends : ∃ task, .finish task ∈ turn.actions
  · obtain ⟨task, member⟩ := ends
    have whole := continues.ends task member
    have low : fetcher.task.maxSeq.toNat + 1 < 2 ^ 64 := same ▸ Fetcher.low_of_isComplete whole
    obtain ⟨trace, ledger, handed⟩ := faithful.handed low
    have outcome := outcome low trace ledger
    have completed : turn.ending = some .completed := by
      by_contra going
      exact Bool.noConfusion (outcome.unfinished going _ member)
    obtain ⟨-, body, actions, quiet⟩ := outcome.completed completed
    have made : turn.sinkCalls = body.filterMap sinkCall? ++
        [.complete fetcher.task.producer fetcher.task.minSeq fetcher.task.maxSeq] := by
      unfold sinkCalls
      rw [actions, List.filterMap_append]
      rfl
    rw [made, ← List.append_assoc]
    refine (inOrder.append (ne_complete_of_unfinished quiet)).concat ?_
    rintro producer first last ⟨⟩ seq above upto
    rcases mem_delivered_of_completed (same.symm ▸ outcome.ledger) whole actions
      (same.symm ▸ above) (same.symm ▸ upto) with old | new
    · exact (handed seq old).mono (List.subset_append_left _ _)
    · have own : ∀ other number content, .deliver other number content ∈ body →
          other = fetcher.task := by
        intro other number content inside
        refine continues.own other number content ?_
        rw [actions]
        exact List.mem_append_left _ inside
      exact (hands_of_delivered own new).mono (List.subset_append_right _ _)
  · refine inOrder.append (ne_complete_of_unfinished ?_)
    intro action member
    cases action with
    | request seq interest => rfl
    | deliver task seq content => rfl
    | finish task => exact absurd ⟨task, member⟩ ends

end FetchTurn

/-! ## Steps of a node's attempts -/

/-- What is handed over is the answer that has arrived. -/
theorem Fetcher.of_deliver_receive {now : Instant} {number : Seq} {answer : Option Bytes}
    {task : FetchTask} {seq : Seq} {content : Bytes}
    (member : .deliver task seq content ∈
      (fetcher.receive config window now number answer).actions) :
    seq = number ∧ answer = some content := by
  unfold receive at member
  cases answer with
  | some record =>
    dsimp only at member
    split at member
    · rcases List.mem_cons.mp member with here | there
      · cases here
        exact ⟨rfl, rfl⟩
      · cases List.mem_singleton.mp there
    · cases List.mem_singleton.mp (mem_of_deliver_proceed member)
      exact ⟨rfl, rfl⟩
  | none =>
    dsimp only at member
    split at member
    · cases List.mem_singleton.mp (mem_of_deliver_proceed member)
    · cases member

namespace NodeScene

variable {scene : NodeScene} {now : Instant} {event : NodeEvent} {turn : FetchTurn}

/-- The event is a step of the attempt of a fetcher at a place. -/
inductive Strides (scene : NodeScene) (now : Instant) :
    NodeEvent → Nat → FetcherId → Fetcher → FetchTurn → Prop where
  | begin {place : Nat} {id : FetcherId} {fetcher : Fetcher}
      (there : scene.pipelines[place]? = some ⟨id, fetcher, .due⟩) :
      Strides scene now (.begin place) place id fetcher (fetcher.begin scene.node.fetch.config)
  | resolve {place : Nat} {id : FetcherId} {fetcher : Fetcher} {window : Window} {seq : Seq}
      {answer : Option Bytes}
      (there : scene.pipelines[place]? = some ⟨id, fetcher, .going window⟩)
      (waits : seq ∈ window.inFlight) :
      Strides scene now (.resolve place seq answer) place id fetcher
        (fetcher.receive scene.node.fetch.config window now seq answer)

theorem exists_strides (taken : scene.stride? now event = some turn) :
    ∃ place id fetcher, scene.Strides now event place id fetcher turn := by
  cases event with
  | begin place =>
    unfold stride? at taken
    dsimp only at taken
    split at taken
    · rename_i id fetcher there
      cases taken
      exact ⟨place, id, fetcher, .begin there⟩
    · cases taken
  | resolve place seq answer =>
    unfold stride? at taken
    dsimp only at taken
    split at taken
    · rename_i id fetcher window there
      split at taken
      · rename_i waits
        cases taken
        exact ⟨place, id, fetcher, .resolve there waits⟩
      · cases taken
    · cases taken
  | sync | dispatch | request | advance | look | conclude => cases taken

theorem Strides.react {place : Nat} {id : FetcherId} {fetcher : Fetcher}
    (strides : scene.Strides now event place id fetcher turn) :
    scene.react now event = scene.absorb place id turn := by
  cases strides with
  | begin there => simp only [NodeScene.react, NodeScene.begin, there]
  | resolve there waits => simp only [NodeScene.react, NodeScene.resolve, there, waits, if_true]

/-- An event that would be a step of an attempt and is none leaves all as it was. -/
theorem react_of_still (still : scene.stride? now event = none)
    (would : (∃ place, event = .begin place) ∨ ∃ place seq answer, event = .resolve place seq answer) :
    scene.react now event = scene := by
  rcases would with ⟨place, rfl⟩ | ⟨place, seq, answer, rfl⟩
  · unfold stride? at still
    simp only [NodeScene.react, NodeScene.begin]
    split
    · rename_i there
      simp only [there] at still
      cases still
    · rfl
  · unfold stride? at still
    simp only [NodeScene.react, NodeScene.resolve]
    split
    · rename_i there
      simp only [there] at still
      split
      · rename_i waits
        rw [if_pos waits] at still
        cases still
      · rfl
    · rfl

theorem sinkCalls_of_taken (taken : scene.stride? now event = some turn) :
    scene.sinkCalls now event = turn.sinkCalls := by
  unfold sinkCalls strides
  rw [taken]
  rfl

theorem sinkCalls_of_still (still : scene.stride? now event = none) :
    scene.sinkCalls now event = [] := by
  unfold sinkCalls strides
  rw [still]
  rfl

/-- The sink is handed the answer to a request of a fetcher for the producer. -/
theorem exists_resolve_of_apply {producer : DeviceId} {seq : Seq} {content : Bytes}
    (member : .apply producer seq content ∈ scene.sinkCalls now event) :
    ∃ place id fetcher window, event = .resolve place seq (some content) ∧
      scene.pipelines[place]? = some ⟨id, fetcher, .going window⟩ ∧
      fetcher.task.producer = producer := by
  cases taken : scene.stride? now event with
  | none =>
    rw [sinkCalls_of_still taken] at member
    cases member
  | some turn =>
    rw [sinkCalls_of_taken taken] at member
    obtain ⟨action, inside, made⟩ := List.mem_filterMap.mp member
    cases action with
    | request number interest => cases made
    | finish task => cases made
    | deliver task number record =>
      cases made
      obtain ⟨place, id, fetcher, strides⟩ := exists_strides taken
      cases strides with
      | begin there =>
        unfold Fetcher.begin at inside
        dsimp only at inside
        split at inside
        · cases List.mem_singleton.mp inside
        · cases Fetcher.mem_of_deliver_proceed inside
      | resolve there waits =>
        obtain ⟨rfl, rfl⟩ := Fetcher.of_deliver_receive inside
        obtain rfl := Fetcher.task_of_deliver_receive inside
        exact ⟨place, id, fetcher, _, rfl, there, rfl⟩

end NodeScene

end DigestSync
