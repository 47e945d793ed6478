import DigestSync.Proofs.Node.Entries
import DigestSync.Proofs.Sync.Reports

set_option autoImplicit false

/-! # What a node keeps track of

A node keeps track of every number of another device that its state has gained since the
start: the record is in the log, or is to be fetched by an unfinished entry, or is part of
the task that the dispatcher is bringing to the manager, or of a reported change that the
dispatcher has yet to come to.  The sync core adds new numbers to the last of these places,
and the dispatcher hands them on to the worklist.
-/

namespace DigestSync

open scoped SeqOrder

namespace DeltaRecord

/-- The numbers that a record says are missing are those of the range. -/
theorem mem_missing_iff {record : DeltaRecord} {seq : Seq} :
    seq.toNat ∈ record.missing ↔
      ∃ first last, record.missingRange = some (first, last) ∧ first ≤ seq ∧ seq ≤ last := by
  unfold missing
  cases found : record.missingRange with
  | none => simp
  | some range =>
    obtain ⟨first, last⟩ := range
    simp only [List.mem_range'_1, Option.some.injEq, Prod.mk.injEq]
    constructor
    · rintro ⟨above, upto⟩
      exact ⟨first, last, ⟨rfl, rfl⟩, UInt64.le_iff_toNat_le.mpr above,
        UInt64.le_iff_toNat_le.mpr (by omega)⟩
    · rintro ⟨_, _, ⟨rfl, rfl⟩, above, upto⟩
      have above := UInt64.le_iff_toNat_le.mp above
      have upto := UInt64.le_iff_toNat_le.mp upto
      omega

theorem last_of_missingRange {record : DeltaRecord} {first last : Seq}
    (found : record.missingRange = some (first, last)) : last = record.seq := by
  unfold missingRange at found
  split at found
  · split at found
    · cases found
      rfl
    · cases found
  · cases found

/-- Every number between the ends of a tiling is missing by one of its records. -/
theorem Tiles.exists_missing {records : List DeltaRecord} {first last seq : Seq}
    (tiles : Tiles first records last) (above : first < seq) (upto : seq ≤ last) :
    ∃ record ∈ records, seq.toNat ∈ record.missing := by
  have above := UInt64.lt_iff_toNat_lt.mp above
  have upto := UInt64.le_iff_toNat_le.mp upto
  have inside : seq.toNat ∈ records.flatMap missing := by
    rw [tiles.flatMap_missing, List.mem_range'_1]
    omega
  exact List.mem_flatMap.mp inside

end DeltaRecord

/-! ## Inputs of the sync core -/

namespace Node

variable {node : Node}

/-- Told of an input, a running node takes over the outcome of its sync core. -/
theorem hear_eq (running : node.stopped = false) (syncing : node.sync.running = true)
    (store : MemoryStore) (now : Instant) (input : PeerInput) :
    node.hear (.ofStore store) now input =
      node.ofSync (Peer.turn ⟨node.sync, store⟩ now input) := by
  cases input with
  | event event => rfl
  | publish seq =>
    unfold hear publish Peer.turn
    simp only [running, syncing, Bool.not_true, Bool.false_eq_true, if_false]
    generalize node.sync.publish (.ofStore store) now seq = outcome
    obtain ⟨answer, turn⟩ := outcome
    cases answer <;> rfl
  | noteChange => rfl

/-- All that is reported queues up. -/
theorem flatten_queue_ofSync (dispatching : node.dispatching = true) (turn : SyncTurn) :
    (node.ofSync turn).node.queue.flatten = node.queue.flatten ++ turn.reported := by
  unfold ofSync SyncTurn.reported
  simp only [dispatching, if_true, List.flatten_append, List.append_cancel_left_eq]
  induction turn.actions with
  | nil => rfl
  | cons action rest ih => cases action <;> simp [SyncAction.reported, ih]

/-- Learning where a device is changes nothing else. -/
theorem learnLocator_eq (node : Node) (record : DeltaRecord) :
    ∃ locators, node.learnLocator record = { node with locators } := by
  unfold learnLocator
  split
  · exact ⟨node.locators, rfl⟩
  · exact ⟨_, rfl⟩

end Node

/-- Every record that is reported tells the present number of its device. -/
theorem Peer.Advances.seq_of_reported {peer : Peer} {tiding? : Option Tiding} {turn : SyncTurn}
    (advances : peer.Advances tiding? turn) {record : DeltaRecord}
    (member : record ∈ turn.reported) :
    record.seq = turn.volume.store.currentState.seqOf record.device := by
  have rising : peer.store.currentState ≤ turn.volume.store.currentState := by
    rw [advances.state_eq]
    exact Snapshot.le_mergeAll _ _
  rcases advances.reported_eq with ⟨silent, -⟩ | told
  · rw [silent] at member
    cases member
  · rw [told] at member
    split at member
    · cases member
    · exact (MemoryStore.rising_of_mem_newsSince rising member).2.2.1

namespace NodeScene

/-! ## What a node keeps track of -/

variable {scene : NodeScene}

/-- The attempts of the pipelines. -/
def attempts (scene : NodeScene) : List (FetcherId × Fetcher) :=
  scene.pipelines.map fun pipeline => (pipeline.id, pipeline.fetcher)

/-- The reported records that the dispatcher has yet to come to. -/
def pending (scene : NodeScene) : List DeltaRecord :=
  scene.dispatcher.rest ++ scene.node.queue.flatten

/-- The task that the dispatcher is bringing to the manager. -/
def carried (scene : NodeScene) : Option FetchTask :=
  match scene.dispatcher with
  | .waiting task _ => some task
  | .entered _ => scene.node.fetch.adding
  | _ => none

/-- The records of a producer are fetched under this key. -/
def keyOf (scene : NodeScene) (producer : DeviceId) : TaskKey :=
  ⟨producer, scene.node.config.actionBase producer⟩

/-- The dispatcher owes the record of a producer with a number to the manager. -/
inductive Owes (scene : NodeScene) (producer : DeviceId) (seq : Seq) : Prop where
  | carried {task : FetchTask} (member : task ∈ scene.carried)
      (key : task.key = scene.keyOf producer) (inside : task.contains seq = true)
  | reported {record : DeltaRecord} (member : record ∈ scene.pending)
      (device : record.device = producer) (missing : seq.toNat ∈ record.missing)

/-- The record of a producer with a number is in the log, or on its way there. -/
inductive Tracks (scene : NodeScene) (producer : DeviceId) (seq : Seq) : Prop where
  | applied (inLog : scene.node.log.HasApplied producer seq)
  | listed {task : FetchTask}
      (member : task ∈ scene.node.fetch.worklist.liveTasks (scene.keyOf producer))
      (inside : task.contains seq = true)
  | owed (owes : scene.Owes producer seq)

/-- What every event keeps, for a node of a device that started from some state. -/
structure Sound (config : NodeConfig) (device : DeviceId) (first : Snapshot)
    (scene : NodeScene) : Prop where
  config_eq : scene.node.config = config
  own : scene.node.sync.device = device
  running : scene.node.stopped = false
  dispatching : scene.node.dispatching = true
  rooted : Peer.Rooted ⟨scene.node.sync, scene.volume.store⟩
  medium : scene.volume.fault = none
  fetch : scene.node.fetch.Honest scene.node.log
  linked : Linked scene.node.fetch.worklist scene.attempts
  pipelines : ∀ pipeline ∈ scene.pipelines, pipeline.Honest scene.node.log
  waiting : ∀ task rest, scene.dispatcher = .waiting task rest → task.maxSeq.toNat + 1 < 2 ^ 64
  pending : ∀ record ∈ scene.pending, record.seq.toNat + 1 < 2 ^ 64
  tracks : ∀ other, other ≠ device → ∀ seq, first.seqOf other < seq →
    seq ≤ scene.volume.store.currentState.seqOf other → scene.Tracks other seq

variable {config : NodeConfig} {device : DeviceId} {first : Snapshot} {now : Instant}

/-- The entries with the number of a pipeline are for its task. -/
theorem Sound.task_of_mem (sound : scene.Sound config device first) {pipeline : Pipeline}
    (member : pipeline ∈ scene.pipelines) :
    ∀ slot ∈ scene.node.fetch.worklist.slots, slot.id = pipeline.id →
      pipeline.fetcher.task = slot.task :=
  (sound.linked _ (List.mem_map_of_mem member)).2

/-! ## The sync core -/

/-- The scene after its node has taken over the outcome of an input. -/
def heard (scene : NodeScene) (turn : SyncTurn) : NodeScene :=
  { scene with node := (scene.node.ofSync turn).node, volume := turn.volume }

theorem pending_heard (dispatching : scene.node.dispatching = true) (turn : SyncTurn) :
    (scene.heard turn).pending = scene.pending ++ turn.reported := by
  show scene.dispatcher.rest ++ (scene.node.ofSync turn).node.queue.flatten = _
  rw [Node.flatten_queue_ofSync dispatching, ← List.append_assoc]
  rfl

/-- What was tracked before an input stays where it is, since the queue only grows. -/
theorem Tracks.heard (dispatching : scene.node.dispatching = true) (turn : SyncTurn)
    {other : DeviceId} {seq : Seq} (tracks : scene.Tracks other seq) :
    (scene.heard turn).Tracks other seq := by
  cases tracks with
  | applied inLog => exact .applied inLog
  | listed member inside => exact .listed member inside
  | owed owes =>
    cases owes with
    | carried member key inside => exact .owed (.carried member key inside)
    | reported member device missing =>
      refine .owed (.reported ?_ device missing)
      rw [pending_heard dispatching]
      exact List.mem_append_left _ member

/-- An input adds what it reports to what is tracked, which is all that the numbers of other
devices have gained. -/
theorem Sound.heard (sound : scene.Sound config device first) {tiding? : Option Tiding}
    {turn : SyncTurn}
    (advances : Peer.Advances ⟨scene.node.sync, scene.volume.store⟩ tiding? turn)
    (apart : turn.volume.store.currentState.digest = scene.volume.store.currentState.digest →
      turn.volume.store.currentState = scene.volume.store.currentState)
    (below : ∀ other, (turn.volume.store.currentState.seqOf other).toNat + 1 < 2 ^ 64) :
    (scene.heard turn).Sound config device first := by
  refine { sound with
    own := advances.device.trans sound.own
    rooted := advances.rooted
    medium := congrArg Volume.fault advances.medium
    pending := ?_
    tracks := ?_ }
  · intro record member
    rw [pending_heard sound.dispatching] at member
    rcases List.mem_append.mp member with old | new
    · exact sound.pending record old
    · rw [advances.seq_of_reported new]
      exact below record.device
  · intro other foreign seq above upto
    by_cases known : seq ≤ scene.volume.store.currentState.seqOf other
    · exact (sound.tracks other foreign seq above known).heard sound.dispatching turn
    -- The reports of this very input tile what the number has gained by it.
    · have away : other ≠ scene.node.sync.device := sound.own ▸ foreign
      have tiles := advances.tiles sound.rooted apart away
      obtain ⟨record, member, missing⟩ := tiles.exists_missing (not_le.mp known) upto
      obtain ⟨reported, same⟩ := List.mem_filter.mp member
      refine .owed (.reported ?_ (of_decide_eq_true same) missing)
      rw [pending_heard sound.dispatching]
      exact List.mem_append_right _ reported

theorem Sound.sync (sound : scene.Sound config device first) (input : PeerInput)
    (apart : (scene.react now (.sync input)).volume.store.currentState.digest =
        scene.volume.store.currentState.digest →
      (scene.react now (.sync input)).volume.store.currentState = scene.volume.store.currentState)
    (below : ∀ other, ((scene.react now (.sync input)).volume.store.currentState.seqOf
      other).toNat + 1 < 2 ^ 64) :
    (scene.react now (.sync input)).Sound config device first := by
  have after : scene.react now (.sync input) =
      scene.heard (Peer.turn ⟨scene.node.sync, scene.volume.store⟩ now input) := by
    have told := Node.hear_eq sound.running sound.rooted.running scene.volume.store now input
    rw [← Volume.eq_ofStore sound.medium] at told
    simp only [react, told]
    rfl
  rw [after] at apart below ⊢
  exact sound.heard (sound.rooted.advances_turn now input) apart below

/-! ## The dispatcher -/

/-- A step of the dispatcher, by which what it owes is owed still or has been handed on. -/
theorem Sound.hand_on (sound : scene.Sound config device first) {locators : LocatorTable}
    {fetch : FetchManager} {queue : List (List DeltaRecord)} {next : Dispatcher}
    (honest : fetch.Honest scene.node.log) (same : fetch.worklist = scene.node.fetch.worklist)
    (waiting : ∀ task rest, next = .waiting task rest → task.maxSeq.toNat + 1 < 2 ^ 64)
    (fewer : ∀ record ∈ next.rest ++ queue.flatten, record ∈ scene.pending)
    (handed : ∀ other, other ≠ device → ∀ seq, scene.Owes other seq →
      Tracks ⟨{ scene.node with locators, fetch, queue }, scene.volume, scene.pipelines, next⟩
        other seq) :
    Sound config device first
      ⟨{ scene.node with locators, fetch, queue }, scene.volume, scene.pipelines, next⟩ := by
  refine { sound with
    fetch := honest
    linked := same ▸ sound.linked
    waiting
    pending := fun record member => sound.pending record (fewer record member)
    tracks := ?_ }
  intro other foreign seq above upto
  cases sound.tracks other foreign seq above upto with
  | applied inLog => exact .applied inLog
  | listed member inside => exact .listed (same ▸ member) inside
  | owed owes => exact handed other foreign seq owes

/-- While it sorts records, the dispatcher owes only what is pending. -/
theorem Owes.of_sorting {other : DeviceId} {seq : Seq} {rest : List DeltaRecord}
    (owes : scene.Owes other seq) (stands : scene.dispatcher = .sorting rest) :
    ∃ record ∈ rest ++ scene.node.queue.flatten, record.device = other ∧
      seq.toNat ∈ record.missing := by
  cases owes with
  | carried member key inside =>
    unfold NodeScene.carried at member
    rw [stands] at member
    cases member
  | reported member device missing =>
    unfold pending at member
    rw [stands] at member
    exact ⟨_, member, device, missing⟩

/-- A record that is about the node itself, or that nothing is missing by, can be passed
over. -/
theorem Sound.pass (sound : scene.Sound config device first) {record : DeltaRecord}
    {rest : List DeltaRecord} (stands : scene.dispatcher = .sorting (record :: rest))
    (futile : record.device = device ∨ record.missing = []) (locators : LocatorTable) :
    Sound config device first
      { scene with node := { scene.node with locators }, dispatcher := .sorting rest } := by
  apply sound.hand_on sound.fetch rfl
  · nofun
  · intro other member
    unfold NodeScene.pending
    rw [stands]
    exact List.mem_cons_of_mem _ member
  · intro other foreign seq owes
    obtain ⟨known, member, same, missing⟩ := owes.of_sorting stands
    rcases List.mem_cons.mp member with rfl | later
    · rcases futile with own | none
      · exact absurd (same.symm.trans own) foreign
      · rw [none] at missing
        cases missing
    · exact .owed (.reported later same missing)

/-- A record by which something is missing becomes a task that the dispatcher carries. -/
theorem Sound.pickUp (sound : scene.Sound config device first) {record : DeltaRecord}
    {rest : List DeltaRecord} (stands : scene.dispatcher = .sorting (record :: rest))
    {low high : Seq} (range : record.missingRange = some (low, high)) (locators : LocatorTable) :
    Sound config device first
      { scene with
        node := { scene.node with locators }
        dispatcher := .waiting (scene.node.taskOf record.device low high .normal) rest } := by
  have inside : ∀ other ∈ record :: rest ++ scene.node.queue.flatten, other ∈ scene.pending := by
    unfold NodeScene.pending
    rw [stands]
    exact fun other member => member
  apply sound.hand_on sound.fetch rfl
  · intro task others same
    cases same
    show high.toNat + 1 < 2 ^ 64
    rw [DeltaRecord.last_of_missingRange range]
    exact sound.pending record (inside record List.mem_cons_self)
  · exact fun other member => inside other (List.mem_cons_of_mem _ member)
  · intro other foreign seq owes
    obtain ⟨known, member, rfl, missing⟩ := owes.of_sorting stands
    rcases List.mem_cons.mp member with rfl | later
    · obtain ⟨start, stop, same, above, upto⟩ := DeltaRecord.mem_missing_iff.mp missing
      cases range.symm.trans same
      exact .owed (.carried rfl rfl ((FetchTask.contains_iff _ seq).mpr ⟨above, upto⟩))
    · exact .owed (.reported later rfl missing)

theorem Sound.sort (sound : scene.Sound config device first) {rest : List DeltaRecord}
    (stands : scene.dispatcher = .sorting rest) : (scene.sort rest).Sound config device first := by
  cases rest with
  | nil =>
    apply sound.hand_on sound.fetch rfl
    · nofun
    · exact fun other member => List.mem_append_right _ member
    · intro other foreign seq owes
      obtain ⟨known, member, same, missing⟩ := owes.of_sorting stands
      exact .owed (.reported member same missing)
  | cons record rest =>
    simp only [NodeScene.sort]
    split
    · rename_i own
      exact sound.pass stands (Or.inl (own.trans sound.own)) scene.node.locators
    · obtain ⟨locators, learnt⟩ := scene.node.learnLocator_eq record
      rw [learnt]
      cases range : record.missingRange with
      | none => exact sound.pass stands (Or.inr (by simp [DeltaRecord.missing, range])) locators
      | some ends => exact sound.pickUp stands range locators

/-- The carried task enters, or else it is covered. -/
theorem Sound.submit (sound : scene.Sound config device first) {task : FetchTask}
    {rest : List DeltaRecord} (stands : scene.dispatcher = .waiting task rest) :
    (scene.submit task rest).Sound config device first := by
  have carried : scene.carried = some task := by
    unfold NodeScene.carried
    rw [stands]
  have pending : scene.pending = rest ++ scene.node.queue.flatten := by
    unfold NodeScene.pending
    rw [stands]
    rfl
  unfold NodeScene.submit
  split
  · exact sound
  · rcases FetchManager.enterEnqueue_cases sound.fetch.running scene.node.locators.resolve task
      with ⟨hint, entered⟩ | ⟨answered, covered⟩
    · rw [entered]
      apply sound.hand_on (sound.fetch.enter (sound.waiting task rest stands) hint) rfl
      · nofun
      · exact fun other member => pending ▸ member
      · intro other foreign seq owes
        cases owes with
        | carried member key inside =>
          cases carried.symm.trans member
          exact .owed (.carried rfl key inside)
        | reported member same missing =>
          rw [pending] at member
          exact .owed (.reported member same missing)
    · rw [answered]
      apply sound.hand_on sound.fetch rfl
      · nofun
      · exact fun other member => pending ▸ member
      · intro other foreign seq owes
        cases owes with
        | carried member key inside =>
          cases carried.symm.trans member
          have producer : task.producer = other := congrArg TaskKey.producer key
          rcases sound.fetch.of_covers covered inside with inLog | ⟨entry, listed, holds⟩
          · exact .applied (producer ▸ inLog)
          · exact .listed (key ▸ listed) holds
        | reported member same missing =>
          rw [pending] at member
          exact .owed (.reported member same missing)

theorem Sound.dispatch (sound : scene.Sound config device first) :
    scene.dispatch.Sound config device first := by
  unfold NodeScene.dispatch
  split
  · rename_i stands
    split
    · exact sound
    · rename_i delta queue queued
      have pending : scene.pending = delta ++ queue.flatten := by
        unfold NodeScene.pending
        rw [stands, queued]
        rfl
      apply sound.hand_on sound.fetch rfl
      · nofun
      · exact fun other member => pending ▸ member
      · intro other foreign seq owes
        cases owes with
        | carried member key inside =>
          unfold carried at member
          rw [stands] at member
          cases member
        | reported member same missing =>
          rw [pending] at member
          exact .owed (.reported member same missing)
  · exact sound.sort ‹_›
  · exact sound.submit ‹_›
  · exact sound

/-- A call that enters leaves what the dispatcher owes. -/
theorem Sound.request (sound : scene.Sound config device first) {producer : DeviceId}
    {low high : Seq} {priority : Priority}
    (allowed : (NodeEvent.request producer low high priority).IsLow) :
    (scene.react now (.request producer low high priority)).Sound config device first := by
  simp only [react]
  split
  · exact sound
  · rename_i free
    rcases FetchManager.enterEnqueue_cases sound.fetch.running scene.node.locators.resolve
      (scene.node.taskOf producer low high priority) with ⟨hint, entered⟩ | ⟨answered, -⟩
    · rw [entered]
      have low : (scene.node.taskOf producer low high priority).maxSeq.toNat + 1 < 2 ^ 64 := allowed
      apply sound.hand_on (sound.fetch.enter low hint) rfl sound.waiting
      · exact fun other member => member
      · intro other foreign seq owes
        cases owes with
        | carried member key inside =>
          -- The dispatcher is not the one that has entered, since the manager was free.
          unfold NodeScene.carried at member
          split at member
          · rename_i task rest stands
            refine .owed (.carried ?_ key inside)
            unfold NodeScene.carried
            simp only [stands]
            exact member
          · exact absurd (FetchManager.step_isSome_of_adding member) free
          · cases member
        | reported member same missing => exact .owed (.reported member same missing)
    · rw [answered]
      exact sound

end NodeScene

end DigestSync
