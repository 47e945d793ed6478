import DigestSync.Proofs.Sync.Turn
import DigestSync.Sync.History

set_option autoImplicit false

/-! # What an input brings about

A peer is rooted if its current state is recorded and has the digest that is its root.
Every input keeps a peer so.  It merges the numbers that its tiding tells into the
state, and if it is an answer that changes the state, the difference is reported.
Nothing else changes a state, and nothing else is reported.
-/

namespace DigestSync

namespace Tiding

/-- The numbers that a tiding tells. -/
def entries (own : DeviceId) : Tiding → List (DeviceId × Seq)
  | .answer content =>
    match StateMessage.decode content with
    | .ok message => Snapshot.updatesOf message.states
    | .error _ => []
  | .published seq => [(own, seq)]

theorem mem_entries_iff {own device : DeviceId} {tiding : Tiding} {seq : Seq} :
    (device, seq) ∈ tiding.entries own ↔ tiding.Tells own device seq := by
  cases tiding with
  | answer content =>
    constructor
    · intro member
      cases read : StateMessage.decode content with
      | error fault => simp [entries, read] at member
      | ok message =>
        simp only [entries, read, Snapshot.updatesOf, List.mem_map, List.mem_filter] at member
        obtain ⟨record, ⟨listed, update⟩, same⟩ := member
        cases same
        exact .update read listed (of_decide_eq_true update)
    · rintro (⟨read, listed, kind⟩ | _)
      simp only [entries, read, Snapshot.updatesOf, List.mem_map, List.mem_filter]
      exact ⟨_, ⟨listed, decide_eq_true kind⟩, rfl⟩
  | published number =>
    constructor
    · intro member
      cases List.mem_singleton.mp member
      exact .publish seq
    · rintro (_ | _)
      exact List.mem_singleton_self _

end Tiding

/-- The log after a tiding, if there is one: with the updates of a message, or with the own
number raised. -/
def MemoryStore.hear (store : MemoryStore) (own : DeviceId) : Option Tiding → MemoryStore
  | none => store
  | some (.answer content) =>
    match StateMessage.decode content with
    | .ok message => store.takeRecords message.states
    | .error _ => store
  | some (.published seq) => (store.updateDeviceSeq own seq).2

namespace MemoryStore

variable (store : MemoryStore) (own : DeviceId) (tiding? : Option Tiding)

/-- A tiding merges the numbers that it tells. -/
theorem currentState_hear :
    (store.hear own tiding?).currentState =
      store.currentState.mergeAll ((tiding?.map (Tiding.entries own)).getD []) := by
  cases tiding? with
  | none => rfl
  | some tiding =>
    cases tiding with
    | answer content =>
      simp only [hear, Option.map_some, Option.getD_some, Tiding.entries]
      split
      · exact currentState_takeRecords _ _
      · rfl
    | published seq => exact currentState_updateDeviceSeq _ _ _

theorem digests_hear : (store.hear own tiding?).digests = store.digests := by
  cases tiding? with
  | none => rfl
  | some tiding =>
    cases tiding with
    | answer content =>
      simp only [hear]
      split
      · exact digests_takeRecords _ _
      · rfl
    | published seq => rfl

end MemoryStore

/-- The records that lead from an earlier state to the current one, each with the
device's present locator. -/
def MemoryStore.newsSince (store : MemoryStore) (before : Snapshot) : List DeltaRecord :=
  (before.diff store.currentState true).map fun record =>
    { record with locator := store.locator record.device }

/-! ## Turns -/

namespace SyncCore

variable {core : SyncCore} {store : MemoryStore} {now : Instant}

/-- The turn is one of the same device, and reports nothing. -/
structure Quiet (core : SyncCore) (turn : SyncTurn) : Prop where
  device : turn.core.device = core.device
  reported : turn.reported = []

theorem reported_reply (name : Name) (records : List DeltaRecord) :
    (core.reply name records).flatMap SyncAction.reported = [] := by
  unfold reply
  split <;> rfl

theorem quiet_onAdvertisement (volume : Volume) (name : Name) (digest : Digest) :
    core.Quiet ⟨(core.onAdvertisement volume name digest).1, volume,
      (core.onAdvertisement volume name digest).2⟩ := by
  unfold onAdvertisement
  split
  · exact ⟨rfl, rfl⟩
  · split
    · exact ⟨rfl, rfl⟩
    · unfold planRecovery
      split <;> exact ⟨rfl, rfl⟩
    · split
      · exact ⟨rfl, rfl⟩
      · exact ⟨rfl, reported_reply name _⟩

theorem quiet_onInterest (volume : Volume) (name : Name) :
    core.Quiet (core.onInterest volume name) := by
  unfold onInterest
  split
  · exact ⟨rfl, rfl⟩
  · exact quiet_onAdvertisement volume name _
  · refine ⟨rfl, ?_⟩
    unfold onRecoveryRequest SyncTurn.reported
    split
    · split
      · exact reported_reply name _
      · rfl
    · rfl

theorem quiet_onRecoverDue (volume : Volume) (digest : Digest) :
    core.Quiet ⟨(core.onRecoverDue volume digest).1, volume,
      (core.onRecoverDue volume digest).2⟩ := by
  unfold onRecoverDue
  split
  · exact ⟨rfl, rfl⟩
  · split <;> exact ⟨rfl, rfl⟩

theorem quiet_noteChange (volume : Volume) : core.Quiet (core.noteChange volume now).2 := by
  unfold noteChange
  split
  · exact ⟨rfl, rfl⟩
  · simp only
    split
    · exact ⟨rfl, rfl⟩
    · split
      · exact ⟨rfl, rfl⟩
      · exact ⟨rfl, reported_reply _ _⟩

theorem quiet_publish (volume : Volume) (seq : Seq) :
    core.Quiet (core.publish volume now seq).2 := by
  unfold publish
  split
  · exact ⟨rfl, rfl⟩
  · exact quiet_noteChange _

theorem device_onAnswer (volume : Volume) (answer : Option Data) :
    (core.onAnswer volume now answer).core.device = core.device := by
  unfold onAnswer
  split
  · split
    · rfl
    · unfold noteMerge
      split
      · rfl
      · split
        · rfl
        · split <;> rfl
  · rfl

/-- What is reported is the difference to the state that the root was recorded with. -/
theorem reported_noteMerge {before : Snapshot}
    (known : store.digests.find? core.root = some before) :
    (core.noteMerge (.ofStore store) now).reported =
      if store.currentState.digest = core.root then [] else store.newsSince before := by
  unfold noteMerge
  rw [Volume.rememberState_ofStore]
  simp only [Volume.findDifferences_ofStore]
  by_cases same : store.currentState.digest = core.root
  · rw [if_pos same]
    simp only [MemoryStore.rememberState, same, if_true]
    rfl
  · have former : store.rememberState.2.snapshot core.root = some before := by
      apply MemoryStore.snapshot_of_find?
      rw [MemoryStore.find?_rememberState, if_neg (Ne.symm same)]
      exact known
    have latter : store.rememberState.2.snapshot store.rememberState.1 =
        some store.currentState := by
      apply MemoryStore.snapshot_of_find?
      rw [MemoryStore.find?_rememberState]
      exact if_pos rfl
    have away : store.rememberState.1 ≠ core.root := same
    rw [if_neg away, MemoryStore.findDifferences_of_snapshot former latter, if_neg same]
    show List.flatMap SyncAction.reported (if (store.newsSince before).isEmpty = true then _
      else _) = _
    split
    · rename_i bare
      rw [List.isEmpty_iff.mp bare]
      rfl
    · exact List.append_nil _

end SyncCore

/-! ## Peers -/

namespace Peer

/-- The current state is recorded, and its digest is the root. -/
structure Rooted (peer : Peer) : Prop where
  root_eq : peer.core.root = peer.store.currentState.digest
  kept : peer.store.digests.find? peer.core.root = some peer.store.currentState
  running : peer.core.running = true

/-- The outcome of an input with this tiding: it is taken into the log, and unless it is
only about the own device, the difference is reported. -/
structure Advances (peer : Peer) (tiding? : Option Tiding) (turn : SyncTurn) : Prop where
  rooted : (ofTurn turn).Rooted
  medium : turn.volume = .ofStore turn.volume.store
  device : turn.core.device = peer.core.device
  store_eq : turn.volume.store = peer.store.hear peer.core.device tiding? ∨
    turn.volume.store = (peer.store.hear peer.core.device tiding?).rememberState.2
  reported_eq : (turn.reported = [] ∧
      ∀ entry ∈ (tiding?.map (Tiding.entries peer.core.device)).getD [],
        entry.1 = peer.core.device) ∨
    turn.reported = if turn.core.root = peer.core.root then []
      else turn.volume.store.newsSince peer.store.currentState

variable {peer : Peer} {store : MemoryStore} {turn : SyncTurn}

theorem react_eq (peer : Peer) (now : Instant) (input : PeerInput) :
    peer.react now input = ofTurn (peer.turn now input) := by
  cases input <;> rfl

/-- An input keeps the log and the root, or else a log that has risen is adopted. -/
theorem turn_cases {state : Snapshot}
    (known : peer.store.digests.find? peer.core.root = some state) (now : Instant)
    (input : PeerInput) :
    peer.core.Keeps peer.store (peer.turn now input) ∨
      ∃ store, peer.core.Adopts store (peer.turn now input) ∧
        store.digests = peer.store.digests ∧
        peer.store.currentState ≤ store.currentState := by
  cases input with
  | event event =>
    rcases SyncCore.handle_cases known event with keeps | ⟨records, adopts⟩
    · exact Or.inl keeps
    · refine Or.inr ⟨_, adopts, MemoryStore.digests_takeRecords _ _, ?_⟩
      rw [MemoryStore.currentState_takeRecords]
      exact Snapshot.le_mergeAll _ _
  | publish seq =>
    refine Or.inr ⟨_, SyncCore.adopts_publish known seq, rfl, ?_⟩
    rw [MemoryStore.currentState_updateDeviceSeq]
    exact Snapshot.le_merge _ _ _
  | noteChange => exact Or.inr ⟨_, SyncCore.adopts_noteChange known, rfl, le_refl _⟩

theorem steady_turn (peer : Peer) (now : Instant) (input : PeerInput) :
    peer.core.Steady (peer.turn now input) := by
  cases input with
  | event event => exact SyncCore.steady_handle event
  | publish seq => exact SyncCore.steady_publish seq
  | noteChange => exact SyncCore.steady_noteChange

theorem rooted_resume (store : MemoryStore) (device : DeviceId) (config : SyncConfig)
    (now : Instant) : (resume store device config now).Rooted := by
  refine ⟨rfl, ?_, rfl⟩
  show store.rememberState.2.digests.find? store.rememberState.1 = some store.currentState
  rw [MemoryStore.find?_rememberState]
  exact if_pos rfl

theorem rooted_of_adopts (running : peer.core.running = true)
    (adopts : peer.core.Adopts store turn) : (ofTurn turn).Rooted := by
  have log : (ofTurn turn).store = store.rememberState.2 := congrArg Volume.store adopts.volume
  have root : (ofTurn turn).core.root = store.currentState.digest := adopts.root
  constructor
  · rw [log, root]
    rfl
  · rw [log, root, MemoryStore.find?_rememberState]
    exact if_pos rfl
  · exact adopts.running.trans running

/-- A tiding merges its numbers into the state. -/
theorem Advances.state_eq {tiding? : Option Tiding} (advances : peer.Advances tiding? turn) :
    turn.volume.store.currentState = peer.store.currentState.mergeAll
      ((tiding?.map (Tiding.entries peer.core.device)).getD []) := by
  rw [← MemoryStore.currentState_hear]
  rcases advances.store_eq with kept | remembered
  · rw [kept]
  · rw [remembered]
    rfl

theorem Rooted.advances_of_keeps (rooted : peer.Rooted)
    (keeps : peer.core.Keeps peer.store turn) (quiet : peer.core.Quiet turn) :
    peer.Advances none turn := by
  have log : (ofTurn turn).store = peer.store := congrArg Volume.store keeps.volume
  have root : (ofTurn turn).core.root = peer.core.root := keeps.root
  constructor
  case rooted =>
    constructor
    · rw [log, root]
      exact rooted.root_eq
    · rw [log, root]
      exact rooted.kept
    · exact keeps.running.trans rooted.running
  case medium => rw [keeps.volume]; rfl
  case device => exact quiet.device
  case store_eq => exact Or.inl log
  case reported_eq => exact Or.inl ⟨quiet.reported, by simp⟩

/-- A turn that adopts the log with its tiding. -/
theorem Rooted.advances_of_adopts (rooted : peer.Rooted) {tiding? : Option Tiding}
    (adopts : peer.core.Adopts (peer.store.hear peer.core.device tiding?) turn)
    (device : turn.core.device = peer.core.device)
    (reported : (turn.reported = [] ∧
        ∀ entry ∈ (tiding?.map (Tiding.entries peer.core.device)).getD [],
          entry.1 = peer.core.device) ∨
      turn.reported =
        if (peer.store.hear peer.core.device tiding?).currentState.digest = peer.core.root then []
        else (peer.store.hear peer.core.device tiding?).newsSince peer.store.currentState) :
    peer.Advances tiding? turn where
  rooted := rooted_of_adopts rooted.running adopts
  medium := by rw [adopts.volume]; rfl
  device := device
  store_eq := Or.inr (congrArg Volume.store adopts.volume)
  reported_eq := by
    rw [adopts.volume, adopts.root]
    exact reported

/-- Answers advance a peer by the numbers that they tell, whatever the core waits for. -/
theorem Rooted.advances_onAnswer (rooted : peer.Rooted) (now : Instant) (answer : Option Data) :
    peer.Advances (answer.map fun data => .answer data.content)
      (peer.core.onAnswer (.ofStore peer.store) now answer) := by
  have device : (peer.core.onAnswer (.ofStore peer.store) now answer).core.device =
      peer.core.device := SyncCore.device_onAnswer _ answer
  cases answer with
  | none => exact rooted.advances_of_keeps ⟨rfl, rfl, rfl, rfl⟩ ⟨rfl, rfl⟩
  | some data =>
    rw [Option.map_some]
    cases read : StateMessage.decode data.content with
    | error fault =>
      have dropped : peer.core.onAnswer (.ofStore peer.store) now (some data) =
          ⟨peer.core, .ofStore peer.store, []⟩ := by
        unfold SyncCore.onAnswer
        rw [Option.map_some, read]
      have deaf : peer.store.hear peer.core.device (some (.answer data.content)) = peer.store := by
        simp only [MemoryStore.hear, read]
      rw [dropped]
      have still : peer.Advances none ⟨peer.core, .ofStore peer.store, []⟩ :=
        rooted.advances_of_keeps ⟨rfl, rfl, rfl, rfl⟩ ⟨rfl, rfl⟩
      refine ⟨still.rooted, still.medium, rfl, Or.inl deaf.symm, Or.inl ⟨rfl, ?_⟩⟩
      simp [Tiding.entries, read]
    | ok message =>
      have heard : peer.store.hear peer.core.device (some (.answer data.content)) =
          peer.store.takeRecords message.states := by
        simp only [MemoryStore.hear, read]
      have known : (peer.store.takeRecords message.states).digests.find? peer.core.root =
          some peer.store.currentState := by
        rw [MemoryStore.digests_takeRecords]
        exact rooted.kept
      have merging : peer.core.onAnswer (.ofStore peer.store) now (some data) =
          peer.core.noteMerge (.ofStore (peer.store.takeRecords message.states)) now := by
        unfold SyncCore.onAnswer
        rw [Option.map_some, read]
        simp only [SyncCore.mergeRecords_ofStore]
      apply rooted.advances_of_adopts
      · rw [heard]
        exact SyncCore.adopts_onAnswer rooted.kept read
      · exact device
      · rw [heard, merging]
        exact Or.inr (SyncCore.reported_noteMerge known)

theorem Rooted.advances_handle (rooted : peer.Rooted) (now : Instant) (event : SyncEvent) :
    peer.Advances (event.answer?.map fun data => .answer data.content)
      (peer.core.handle (.ofStore peer.store) now event) := by
  unfold SyncCore.handle
  rw [if_pos rooted.running]
  cases event with
  | interest name =>
    exact rooted.advances_of_keeps (SyncCore.keeps_onInterest name)
      (SyncCore.quiet_onInterest _ name)
  | advertDue => exact rooted.advances_of_keeps ⟨rfl, rfl, rfl, rfl⟩ ⟨rfl, rfl⟩
  | advertReply answer =>
    have waited : Peer.Rooted
        ⟨{ peer.core with advertsInFlight := peer.core.advertsInFlight - 1 }, peer.store⟩ :=
      ⟨rooted.root_eq, rooted.kept, rooted.running⟩
    have advances := waited.advances_onAnswer now answer
    exact ⟨advances.rooted, advances.medium, advances.device, advances.store_eq,
      advances.reported_eq⟩
  | recoverDue digest =>
    exact rooted.advances_of_keeps (SyncCore.keeps_onRecoverDue digest _)
      (SyncCore.quiet_onRecoverDue _ digest)
  | recoverReply digest answer =>
    have dropped : Peer.Rooted ⟨peer.core.dropRecovery digest, peer.store⟩ :=
      ⟨rooted.root_eq, rooted.kept, rooted.running⟩
    have advances := dropped.advances_onAnswer now answer
    exact ⟨advances.rooted, advances.medium, advances.device, advances.store_eq,
      advances.reported_eq⟩

/-- Every input advances a peer by its tiding. -/
theorem Rooted.advances_turn (rooted : peer.Rooted) (now : Instant) (input : PeerInput) :
    peer.Advances input.tiding? (peer.turn now input) := by
  cases input with
  | event event => exact rooted.advances_handle now event
  | publish seq =>
    have adopts : peer.core.Adopts
        (peer.store.hear peer.core.device (some (.published seq)))
        (peer.turn now (.publish seq)) := SyncCore.adopts_publish rooted.kept seq
    apply rooted.advances_of_adopts adopts (SyncCore.quiet_publish _ seq).device
    exact Or.inl ⟨(SyncCore.quiet_publish _ seq).reported,
      fun entry member => congrArg Prod.fst (List.mem_singleton.mp member)⟩
  | noteChange =>
    have adopts : peer.core.Adopts (peer.store.hear peer.core.device none)
        (peer.turn now .noteChange) := SyncCore.adopts_noteChange rooted.kept
    apply rooted.advances_of_adopts adopts (SyncCore.quiet_noteChange _).device
    exact Or.inl ⟨(SyncCore.quiet_noteChange _).reported,
      fun entry member => absurd member List.not_mem_nil⟩

/-! ## Runs -/

theorem Rooted.react (rooted : peer.Rooted) (now : Instant) (input : PeerInput) :
    (peer.react now input).Rooted := by
  rw [react_eq]
  exact (rooted.advances_turn now input).rooted

theorem Rooted.device_react (rooted : peer.Rooted) (now : Instant) (input : PeerInput) :
    (peer.react now input).core.device = peer.core.device := by
  rw [react_eq]
  exact (rooted.advances_turn now input).device

theorem Rooted.currentState_react (rooted : peer.Rooted) (now : Instant) (input : PeerInput) :
    (peer.react now input).store.currentState =
      peer.store.currentState.mergeAll
        ((input.tiding?.map (Tiding.entries peer.core.device)).getD []) := by
  rw [react_eq]
  exact (rooted.advances_turn now input).state_eq

theorem Rooted.run (rooted : peer.Rooted) (inputs : List (Instant × PeerInput)) :
    (peer.run inputs).Rooted := by
  induction inputs generalizing peer with
  | nil => exact rooted
  | cons input rest ih => exact ih (rooted.react input.1 input.2)

theorem Rooted.device_run (rooted : peer.Rooted) (inputs : List (Instant × PeerInput)) :
    (peer.run inputs).core.device = peer.core.device := by
  induction inputs generalizing peer with
  | nil => rfl
  | cons input rest ih =>
    exact (ih (rooted.react input.1 input.2)).trans (rooted.device_react input.1 input.2)

/-- A run merges all numbers that its tidings tell. -/
theorem Rooted.currentState_run (rooted : peer.Rooted) (inputs : List (Instant × PeerInput)) :
    (peer.run inputs).store.currentState =
      peer.store.currentState.mergeAll
        ((PeerInput.tidings inputs).flatMap (Tiding.entries peer.core.device)) := by
  induction inputs generalizing peer with
  | nil => rfl
  | cons input rest ih =>
    refine (ih (rooted.react input.1 input.2)).trans ?_
    rw [rooted.currentState_react, rooted.device_react]
    unfold Snapshot.mergeAll PeerInput.tidings
    rw [← List.foldl_append]
    cases brought : input.2.tiding? <;> simp [brought]

end Peer

end DigestSync
