import DigestSync.Proofs.Store.MemoryTasks
import DigestSync.Proofs.Sync.Advance
import DigestSync.Proofs.Sync.Message
import DigestSync.Sync.Unlocated

set_option autoImplicit false

/-! # Locators never matter

Two stores are alike if they have the same numbers, recorded states and tasks, where no
number is as good as zero.  Storing a locator leads to a store that is alike, and what is
alike stays so under every other call and every turn of a core, whose answers and actions
are then the same, locators aside.
-/

namespace DigestSync

namespace DeltaRecord

variable {left right : List DeltaRecord}

theorem Alike.isEmpty_eq (alike : Alike left right) : left.isEmpty = right.isEmpty := by
  have same := congrArg List.isEmpty alike
  rwa [List.isEmpty_map, List.isEmpty_map] at same

/-- New locators do not change what a list of records is like. -/
theorem alike_relocate (records : List DeltaRecord) (here there : DeltaRecord → Option Name) :
    Alike (records.map fun record => { record with locator := here record })
      (records.map fun record => { record with locator := there record }) := by
  unfold Alike
  rw [List.map_map, List.map_map]
  rfl

theorem filter_unlocated (records : List DeltaRecord) :
    (records.map unlocated).filter isUpdate = (records.filter isUpdate).map unlocated := by
  rw [List.filter_map]
  rfl

end DeltaRecord

theorem StoreAnswer.Alike.ok (call : StoreCall) {first second : StoreAnswer}
    (same : first = second) : StoreAnswer.Alike call (.ok first) (.ok second) :=
  same ▸ .same call _

namespace MemoryStore

/-- Two stores are the same, locators aside. -/
structure Alike (left right : MemoryStore) : Prop where
  numbers : ∀ device, (left.deviceSeq device).getD 0 = (right.deviceSeq device).getD 0
  digests : left.digests = right.digests
  tasks : left.tasks = right.tasks

variable {left middle right : MemoryStore}

theorem Alike.refl (store : MemoryStore) : store.Alike store := ⟨fun _ => rfl, rfl, rfl⟩

theorem Alike.symm (alike : left.Alike right) : right.Alike left :=
  ⟨fun device => (alike.numbers device).symm, alike.digests.symm, alike.tasks.symm⟩

theorem Alike.trans (first : left.Alike middle) (second : middle.Alike right) :
    left.Alike right :=
  ⟨fun device => (first.numbers device).trans (second.numbers device),
    first.digests.trans second.digests, first.tasks.trans second.tasks⟩

/-! ## What is read -/

/-- Stores that are alike have the same state. -/
theorem Alike.currentState_eq (alike : left.Alike right) :
    left.currentState = right.currentState := by
  apply Snapshot.ext_seqOf
  intro device
  rw [seqOf_currentState, seqOf_currentState]
  exact alike.numbers device

theorem Alike.snapshot_eq (alike : left.Alike right) : left.snapshot = right.snapshot := by
  funext digest
  unfold snapshot
  rw [alike.digests]

theorem Alike.isKnown_eq (alike : left.Alike right) : left.isKnown = right.isKnown := by
  funext digest
  unfold isKnown
  rw [alike.digests]

theorem Alike.hasTask_eq (alike : left.Alike right) : left.hasTask = right.hasTask := by
  funext key
  unfold hasTask
  rw [task?_congr alike.tasks]

/-- Stores that are alike find the same differences, locators aside, or find none for the
same cause. -/
theorem Alike.findDifferences_cases (alike : left.Alike right) (old new : Digest)
    (includeOld : Bool) :
    (∃ fault, left.findDifferences old new includeOld = .error fault ∧
        right.findDifferences old new includeOld = .error fault) ∨
      ∃ first second, left.findDifferences old new includeOld = .ok first ∧
        right.findDifferences old new includeOld = .ok second ∧
        DeltaRecord.Alike first second := by
  unfold findDifferences
  rw [alike.snapshot_eq]
  cases right.snapshot old with
  | none => exact Or.inl ⟨_, rfl, rfl⟩
  | some before =>
    cases right.snapshot new with
    | none => exact Or.inl ⟨_, rfl, rfl⟩
    | some after => exact Or.inr ⟨_, _, rfl, rfl, DeltaRecord.alike_relocate _ _ _⟩

/-! ## What is written -/

/-- Storing a locator leads to a store that is alike. -/
theorem updateLocator_alike (store : MemoryStore) (device : DeviceId) (locator : Name) :
    (store.updateLocator device locator).Alike store where
  numbers := by
    intro other
    unfold updateLocator deviceSeq
    rw [SortedMap.find?_insert]
    by_cases here : other = device
    · rw [if_pos here, here]
      rfl
    · rw [if_neg here]
  digests := rfl
  tasks := rfl

/-- Both stores keep the same number of the device. -/
theorem Alike.updateDeviceSeq_eq (alike : left.Alike right) (device : DeviceId) (seq : Seq) :
    (left.updateDeviceSeq device seq).1 = (right.updateDeviceSeq device seq).1 := by
  unfold updateDeviceSeq
  rw [alike.numbers]

theorem Alike.updateDeviceSeq (alike : left.Alike right) (device : DeviceId) (seq : Seq) :
    (left.updateDeviceSeq device seq).2.Alike (right.updateDeviceSeq device seq).2 where
  numbers := by
    intro other
    unfold MemoryStore.updateDeviceSeq
    show ((left.seqs.insert device _).find? other).getD 0 =
      ((right.seqs.insert device _).find? other).getD 0
    rw [SortedMap.find?_insert, SortedMap.find?_insert, alike.numbers]
    by_cases here : other = device
    · rw [if_pos here, if_pos here]
    · rw [if_neg here, if_neg here]
      exact alike.numbers other
  digests := alike.digests
  tasks := alike.tasks

theorem Alike.rememberState_eq (alike : left.Alike right) :
    left.rememberState.1 = right.rememberState.1 := by
  unfold rememberState
  rw [alike.currentState_eq]

theorem Alike.rememberState (alike : left.Alike right) :
    left.rememberState.2.Alike right.rememberState.2 where
  numbers := alike.numbers
  digests := by
    unfold MemoryStore.rememberState
    rw [alike.currentState_eq, alike.digests]
  tasks := alike.tasks

/-- Writing the same tasks into stores that are alike leaves them so. -/
theorem Alike.withTasks (alike : left.Alike right) (tasks : List FetchTask) :
    ({ left with tasks } : MemoryStore).Alike { right with tasks } :=
  ⟨alike.numbers, alike.digests, rfl⟩

theorem Alike.saveTask (alike : left.Alike right) (task : FetchTask) :
    (left.saveTask task).1 = (right.saveTask task).1 ∧
      (left.saveTask task).2.Alike (right.saveTask task).2 := by
  unfold MemoryStore.saveTask
  rw [alike.hasTask_eq, alike.tasks]
  split
  · exact ⟨rfl, alike⟩
  · exact ⟨rfl, alike.withTasks _⟩

theorem Alike.mergeTask (alike : left.Alike right) (task : FetchTask) :
    (left.mergeTask task).1 = (right.mergeTask task).1 ∧
      (left.mergeTask task).2.Alike (right.mergeTask task).2 := by
  unfold MemoryStore.mergeTask
  rw [task?_congr alike.tasks, alike.tasks]
  cases right.task? task.key with
  | none => exact ⟨rfl, alike.withTasks _⟩
  | some stored => exact ⟨rfl, alike.withTasks _⟩

theorem Alike.deleteTask (alike : left.Alike right) (key : TaskKey) :
    (left.deleteTask key).1 = (right.deleteTask key).1 ∧
      (left.deleteTask key).2.Alike (right.deleteTask key).2 := by
  unfold MemoryStore.deleteTask
  rw [alike.hasTask_eq, alike.tasks]
  exact ⟨rfl, alike.withTasks _⟩

/-! ## Calls -/

/-- A call on stores that are alike has the same answer, locators aside, and leaves them
alike. -/
theorem Alike.take (alike : left.Alike right) (call : StoreCall) :
    StoreAnswer.Alike call (Prod.fst <$> left.take call) (Prod.fst <$> right.take call) ∧
      (left.next call).Alike (right.next call) := by
  cases call with
  | deviceSeq device => exact ⟨.number device (alike.numbers device), alike⟩
  | updateDeviceSeq device seq =>
    have same := congrArg some (alike.updateDeviceSeq_eq device seq)
    exact ⟨.ok _ (congrArg StoreAnswer.seq same), alike.updateDeviceSeq device seq⟩
  | locator device => exact ⟨.locator device _ _, alike⟩
  | updateLocator device locator =>
    have there := alike.trans (updateLocator_alike right device locator).symm
    exact ⟨.same _ _, (updateLocator_alike left device locator).trans there⟩
  | currentState =>
    have same := congrArg some alike.currentState_eq
    exact ⟨.ok _ (congrArg StoreAnswer.state same), alike⟩
  | rememberState =>
    exact ⟨.ok _ (congrArg StoreAnswer.digest alike.rememberState_eq), alike.rememberState⟩
  | isKnown digest =>
    exact ⟨.ok _ (congrArg StoreAnswer.truth (congrFun alike.isKnown_eq digest)), alike⟩
  | snapshot digest =>
    exact ⟨.ok _ (congrArg StoreAnswer.state (congrFun alike.snapshot_eq digest)), alike⟩
  | findDifferences old new includeOld =>
    simp only [next, MemoryStore.take]
    rcases alike.findDifferences_cases old new includeOld with
      ⟨fault, first, second⟩ | ⟨before, after, first, second, same⟩
    · rw [first, second]
      exact ⟨.same _ _, alike⟩
    · rw [first, second]
      exact ⟨.records old new includeOld same, alike⟩
  | saveTask task =>
    obtain ⟨same, after⟩ := alike.saveTask task
    exact ⟨.ok _ (congrArg StoreAnswer.truth same), after⟩
  | mergeTask task =>
    obtain ⟨same, after⟩ := alike.mergeTask task
    exact ⟨.ok _ (congrArg StoreAnswer.task same), after⟩
  | deleteTask key =>
    obtain ⟨same, after⟩ := alike.deleteTask key
    exact ⟨.ok _ (congrArg StoreAnswer.truth same), after⟩
  | hasTask key =>
    exact ⟨.ok _ (congrArg StoreAnswer.truth (congrFun alike.hasTask_eq key)), alike⟩
  | listTasks => exact ⟨.ok _ (congrArg StoreAnswer.tasks alike.tasks), alike⟩

/-- Of two stores that are alike, one may be told to store a locator. -/
theorem Alike.next_of_storesLocator (alike : left.Alike right) {call : StoreCall}
    (places : call.storesLocator = true) : (left.next call).Alike right := by
  cases call with
  | updateLocator device locator => exact (updateLocator_alike left device locator).trans alike
  | _ => cases places

/-- Leaving out all calls that store locators, the others have the same answers, locators
aside. -/
theorem Alike.transcript (alike : left.Alike right) (calls : List StoreCall) :
    List.Forall₂ (fun first second => first.1 = second.1 ∧
        StoreAnswer.Alike first.1 first.2 second.2)
      ((left.transcript calls).filter fun entry => !entry.1.storesLocator)
      (right.transcript (calls.filter fun call => !call.storesLocator)) := by
  induction calls generalizing left right with
  | nil => exact .nil
  | cons call rest ih =>
    rw [MemoryStore.transcript]
    by_cases places : call.storesLocator = true
    · rw [List.filter_cons_of_neg (by simp [places]), List.filter_cons_of_neg (by simp [places])]
      exact ih (alike.next_of_storesLocator places)
    · rw [List.filter_cons_of_pos (by simp [places]), List.filter_cons_of_pos (by simp [places]),
        MemoryStore.transcript]
      obtain ⟨answers, after⟩ := alike.take call
      exact .cons ⟨rfl, answers⟩ (ih after)

/-! ## Taking over records -/

theorem takeRecord_unlocated (store : MemoryStore) (record : DeltaRecord) :
    (store.takeRecord record).Alike (store.takeRecord record.unlocated) := by
  unfold takeRecord
  split
  · exact .refl _
  · exact updateLocator_alike _ _ _

theorem Alike.takeRecord (alike : left.Alike right) (record : DeltaRecord) :
    (left.takeRecord record).Alike (right.takeRecord record) := by
  have raised := alike.updateDeviceSeq record.device record.seq
  exact ((takeRecord_unlocated left record).trans raised).trans
    (takeRecord_unlocated right record).symm

/-- Whether a record is taken over with its locator or without makes no difference. -/
theorem Alike.takeRecords_unlocated (alike : left.Alike right) (records : List DeltaRecord) :
    (left.takeRecords records).Alike (right.takeRecords (records.map DeltaRecord.unlocated)) := by
  unfold takeRecords
  rw [DeltaRecord.filter_unlocated]
  induction records.filter DeltaRecord.isUpdate generalizing left right with
  | nil => exact alike
  | cons record rest ih =>
    rw [List.map_cons, List.foldl_cons, List.foldl_cons]
    exact ih ((takeRecord_unlocated left record).trans (alike.takeRecord record.unlocated))

/-- Taking over records that are alike leaves stores alike. -/
theorem Alike.takeRecords (alike : left.Alike right) {first second : List DeltaRecord}
    (same : DeltaRecord.Alike first second) :
    (left.takeRecords first).Alike (right.takeRecords second) := by
  have here := alike.takeRecords_unlocated first
  have there := (Alike.refl right).takeRecords_unlocated second
  have same : first.map DeltaRecord.unlocated = second.map DeltaRecord.unlocated := same
  rw [same] at here
  exact here.trans there.symm

end MemoryStore

/-! ## Turns -/

/-- Two turns leave the same core and stores that are alike, and call for the same actions,
locators aside. -/
structure SyncTurn.Alike (left right : SyncTurn) : Prop where
  core : left.core = right.core
  store : left.volume.store.Alike right.volume.store
  actions : List.Forall₂ SyncAction.Alike left.actions right.actions

theorem SyncAction.alike_self (actions : List SyncAction) :
    List.Forall₂ SyncAction.Alike actions actions :=
  List.forall₂_same.mpr fun action _ => .same action

namespace SyncCore

variable {left right : MemoryStore} {first second : List DeltaRecord} {now : Instant}

theorem reply_alike (core : SyncCore) (name : Name) (same : DeltaRecord.Alike first second) :
    List.Forall₂ SyncAction.Alike (core.reply name first) (core.reply name second) := by
  unfold reply
  rw [same.isEmpty_eq]
  split
  · exact .nil
  · exact .cons (.put core name same) .nil

theorem noteMerge_alike (core : SyncCore) (alike : left.Alike right) :
    (core.noteMerge (.ofStore left) now).Alike (core.noteMerge (.ofStore right) now) := by
  unfold noteMerge
  simp only [Volume.rememberState_ofStore, Volume.findDifferences_ofStore,
    alike.rememberState_eq]
  split
  · exact ⟨rfl, alike.rememberState, .nil⟩
  · rcases alike.rememberState.findDifferences_cases core.root right.rememberState.1 true with
      ⟨fault, here, there⟩ | ⟨before, after, here, there, same⟩
    · rw [here, there]
      exact ⟨rfl, alike.rememberState, .nil⟩
    · rw [here, there]
      refine ⟨rfl, alike.rememberState, ?_⟩
      simp only [same.isEmpty_eq]
      split
      · exact SyncAction.alike_self _
      · exact .cons (.report same) (SyncAction.alike_self _)

theorem noteChange_alike (core : SyncCore) (alike : left.Alike right) :
    (core.noteChange (.ofStore left) now).2.Alike (core.noteChange (.ofStore right) now).2 := by
  unfold noteChange
  simp only [Volume.rememberState_ofStore, Volume.findDifferences_ofStore,
    alike.rememberState_eq]
  split
  · exact ⟨rfl, alike.rememberState, .nil⟩
  · rcases alike.rememberState.findDifferences_cases core.root right.rememberState.1 false with
      ⟨fault, here, there⟩ | ⟨before, after, here, there, same⟩
    · rw [here, there]
      exact ⟨rfl, alike.rememberState, .nil⟩
    · rw [here, there]
      exact ⟨rfl, alike.rememberState, reply_alike core _ same⟩

theorem onAdvertisement_alike (core : SyncCore) (alike : left.Alike right) (name : Name)
    (digest : Digest) :
    (core.onAdvertisement (.ofStore left) name digest).1 =
        (core.onAdvertisement (.ofStore right) name digest).1 ∧
      List.Forall₂ SyncAction.Alike (core.onAdvertisement (.ofStore left) name digest).2
        (core.onAdvertisement (.ofStore right) name digest).2 := by
  unfold onAdvertisement
  simp only [Volume.isKnown_ofStore, Volume.findDifferences_ofStore, alike.isKnown_eq]
  split
  · exact ⟨rfl, .nil⟩
  · cases right.isKnown digest with
    | false => exact ⟨rfl, SyncAction.alike_self _⟩
    | true =>
      rcases alike.findDifferences_cases digest core.root false with
        ⟨fault, here, there⟩ | ⟨before, after, here, there, same⟩
      · rw [here, there]
        exact ⟨rfl, .nil⟩
      · rw [here, there]
        exact ⟨rfl, reply_alike core name same⟩

theorem onRecoveryRequest_alike (core : SyncCore) (alike : left.Alike right) (name : Name)
    (digest : Digest) :
    List.Forall₂ SyncAction.Alike (core.onRecoveryRequest (.ofStore left) name digest)
      (core.onRecoveryRequest (.ofStore right) name digest) := by
  unfold onRecoveryRequest
  simp only [Volume.isKnown_ofStore, Volume.findDifferences_ofStore, alike.isKnown_eq]
  cases right.isKnown digest with
  | false => exact .nil
  | true =>
    rcases alike.findDifferences_cases Digest.origin core.root false with
      ⟨fault, here, there⟩ | ⟨before, after, here, there, same⟩
    · rw [here, there]
      exact .nil
    · rw [here, there]
      exact reply_alike core name same

theorem onInterest_alike (core : SyncCore) (alike : left.Alike right) (name : Name) :
    (core.onInterest (.ofStore left) name).Alike (core.onInterest (.ofStore right) name) := by
  unfold onInterest
  split
  · exact ⟨rfl, alike, .nil⟩
  · rename_i digest _
    obtain ⟨same, actions⟩ := core.onAdvertisement_alike alike name digest
    exact ⟨same, alike, actions⟩
  · exact ⟨rfl, alike, core.onRecoveryRequest_alike alike name _⟩

theorem onRecoverDue_eq (core : SyncCore) (alike : left.Alike right) (digest : Digest) :
    core.onRecoverDue (.ofStore left) digest = core.onRecoverDue (.ofStore right) digest := by
  unfold onRecoverDue
  rw [Volume.isKnown_ofStore, Volume.isKnown_ofStore, alike.isKnown_eq]

/-- Messages that are alike leave stores alike. -/
theorem onAnswer_alike (core : SyncCore) (alike : left.Alike right) {here there : Data}
    (same : StateMessage.Alike here.content there.content) :
    (core.onAnswer (.ofStore left) now (some here)).Alike
      (core.onAnswer (.ofStore right) now (some there)) := by
  unfold onAnswer
  simp only [Option.map_some]
  cases same with
  | same equal =>
    rw [equal]
    split
    · rw [mergeRecords_ofStore, mergeRecords_ofStore]
      exact core.noteMerge_alike (alike.takeRecords rfl)
    · exact ⟨rfl, alike, .nil⟩
  | messages readLeft readRight same =>
    rw [readLeft, readRight]
    simp only [mergeRecords_ofStore]
    exact core.noteMerge_alike (alike.takeRecords same)

/-- The same answer leaves stores alike. -/
theorem onAnswer_alike_self (core : SyncCore) (alike : left.Alike right) (answer : Option Data) :
    (core.onAnswer (.ofStore left) now answer).Alike
      (core.onAnswer (.ofStore right) now answer) := by
  cases answer with
  | none => exact ⟨rfl, alike, .nil⟩
  | some data => exact core.onAnswer_alike alike (.same rfl)

theorem handle_alike (core : SyncCore) (alike : left.Alike right) {here there : SyncEvent}
    (same : here.Alike there) :
    (core.handle (.ofStore left) now here).Alike (core.handle (.ofStore right) now there) := by
  unfold handle
  split
  · cases same with
    | same =>
      cases here with
      | interest name => exact core.onInterest_alike alike name
      | advertDue => exact ⟨rfl, alike, SyncAction.alike_self _⟩
      | advertReply answer => exact onAnswer_alike_self _ alike answer
      | recoverDue digest =>
        dsimp only
        rw [core.onRecoverDue_eq alike]
        exact ⟨rfl, alike, SyncAction.alike_self _⟩
      | recoverReply digest answer => exact onAnswer_alike_self _ alike answer
    | advertReply same => exact onAnswer_alike _ alike same
    | recoverReply digest same => exact onAnswer_alike _ alike same
  · exact ⟨rfl, alike, .nil⟩

end SyncCore

/-! ## Runs -/

namespace Peer

variable {left right : Peer} {now : Instant}

/-- Two peers have the same core, and stores that are alike. -/
structure Alike (left right : Peer) : Prop where
  core : left.core = right.core
  store : left.store.Alike right.store

theorem Alike.turn (alike : left.Alike right) (input : PeerInput) :
    (left.turn now input).Alike (right.turn now input) := by
  unfold Peer.turn
  rw [alike.core]
  cases input with
  | event event => exact right.core.handle_alike alike.store (.same event)
  | publish seq =>
    exact right.core.noteChange_alike (alike.store.updateDeviceSeq right.core.device seq)
  | noteChange => exact right.core.noteChange_alike alike.store

theorem Alike.turn_event (alike : left.Alike right) {here there : SyncEvent}
    (same : here.Alike there) :
    (left.turn now (.event here)).Alike (right.turn now (.event there)) := by
  unfold Peer.turn
  rw [alike.core]
  exact right.core.handle_alike alike.store same

theorem alike_react {first second : PeerInput}
    (turns : (left.turn now first).Alike (right.turn now second)) :
    (left.react now first).Alike (right.react now second) := by
  rw [react_eq, react_eq]
  exact ⟨turns.core, turns.store⟩

/-- Whatever happens to two peers that are alike, they stay so if it is the same, locators
aside; and so are the actions that they call for. -/
theorem Alike.undergoAll (alike : left.Alike right) {here there : List PeerEvent}
    (same : List.Forall₂ PeerEvent.Alike here there) :
    (left.undergoAll here).Alike (right.undergoAll there) ∧
      List.Forall₂ SyncAction.Alike (left.actions here) (right.actions there) := by
  induction same generalizing left right with
  | nil => exact ⟨alike, .nil⟩
  | @cons event _ _ _ first _ ih =>
    cases first with
    | same =>
      cases event with
      | input now input =>
        have turns : (left.turn now input).Alike (right.turn now input) := alike.turn input
        obtain ⟨peers, actions⟩ := ih (alike_react turns)
        exact ⟨peers, List.rel_append turns.actions actions⟩
      | call call => exact ih ⟨alike.core, (alike.store.take call).2⟩
    | @event now earlier later same =>
      have turns : (left.turn now (.event earlier)).Alike (right.turn now (.event later)) :=
        alike.turn_event same
      obtain ⟨peers, actions⟩ := ih (alike_react turns)
      exact ⟨peers, List.rel_append turns.actions actions⟩

/-- What a store answers does not depend on the locators that it is told to store; and two
peers to which the same happens, locators aside, have the same root, state and records, and
call for the same, locators aside. -/
theorem locators_never_matter :
    (∀ (store : MemoryStore) (calls : List StoreCall),
      List.Forall₂ (fun first second => first.1 = second.1 ∧
          StoreAnswer.Alike first.1 first.2 second.2)
        ((store.transcript calls).filter fun entry => !entry.1.storesLocator)
        (store.transcript (calls.filter fun call => !call.storesLocator))) ∧
    ∀ (store : MemoryStore) (device : DeviceId) (config : SyncConfig) (start : Instant)
      (here there : List PeerEvent), List.Forall₂ PeerEvent.Alike here there →
      ((resume store device config start).undergoAll here).core =
          ((resume store device config start).undergoAll there).core ∧
        ((resume store device config start).undergoAll here).store.currentState =
          ((resume store device config start).undergoAll there).store.currentState ∧
        ((resume store device config start).undergoAll here).store.digests =
          ((resume store device config start).undergoAll there).store.digests ∧
        List.Forall₂ SyncAction.Alike ((resume store device config start).actions here)
          ((resume store device config start).actions there) := by
  refine ⟨fun store calls => (MemoryStore.Alike.refl store).transcript calls, ?_⟩
  intro store device config start here there same
  have first : (resume store device config start).Alike (resume store device config start) :=
    ⟨rfl, .refl _⟩
  obtain ⟨peers, actions⟩ := first.undergoAll same
  exact ⟨peers.core, peers.store.currentState_eq, peers.store.digests, actions⟩

/-- A device is answered with another one's change, and learns where that device can be asked
or does not. -/
def placed (place : Option Name) : List PeerEvent :=
  let news : DeltaRecord := { DeltaRecord.update ⟨.ofTexts ["b"]⟩ 3 none with locator := place }
  let answer : Data := ⟨.empty, (StateMessage.ofStates [news]).encode, 0⟩
  [.input 1 (.event (.advertReply (some answer)))]

/-- The device keeps the locator or has none, and has the same root both ways. -/
theorem locators_never_matter_placed :
    let peer := resume .empty ⟨.ofTexts ["a"]⟩ .standard 0
    let here := peer.undergoAll (placed (some (.ofTexts ["site"])))
    let there := peer.undergoAll (placed none)
    here.store.locator ⟨.ofTexts ["b"]⟩ = some (.ofTexts ["site"]) ∧
      there.store.locator ⟨.ofTexts ["b"]⟩ = none ∧ here.core = there.core := by
  intro peer here there
  have read (place : Option Name) (whole : ∀ name, place = some name → name.Fits) :
      let news : DeltaRecord :=
        { DeltaRecord.update ⟨.ofTexts ["b"]⟩ 3 none with locator := place }
      StateMessage.decode (StateMessage.ofStates [news]).encode = .ok (.ofStates [news]) := by
    intro news
    have device : Name.Fits (.ofTexts ["b"]) := ⟨by decide +kernel, by decide +kernel⟩
    have fits : news.Fits := ⟨device, whole⟩
    have short : [news].length < UInt64.size := by
      rw [List.length_singleton]
      decide
    exact StateMessage.decode_encode_ofStates (List.forall_mem_singleton.mpr fits) short
  have site : Name.Fits (.ofTexts ["site"]) := ⟨by decide +kernel, by decide +kernel⟩
  have located := read (some (.ofTexts ["site"])) fun name same => Option.some.inj same ▸ site
  have unlocated := read none nofun
  have same : List.Forall₂ PeerEvent.Alike (placed (some (.ofTexts ["site"]))) (placed none) :=
    .cons (.event 1 (.advertReply (.messages located unlocated rfl))) .nil
  have told := locators_never_matter.2 .empty ⟨.ofTexts ["a"]⟩ .standard 0 _ _ same
  exact ⟨by decide +kernel, by decide +kernel, told.1⟩

end Peer

end DigestSync
