import DigestSync.Proofs.Store.DigestLog
import DigestSync.Proofs.Sync.Group
import DigestSync.Proofs.Sync.SyncName
import DigestSync.Sync.Publishing

set_option autoImplicit false

/-! # What is published can be read

A peer publishes just the deltas that it is made to compute.  However its device uses the log,
the root stays recorded, so that there always is a delta to tell; it has no more records than
the log has devices, and its bytes hold these records.  What a peer does not mind is how many
there are: a receiver refuses a message of more than the accepted number, whoever has sent it.
So all is read as long as the group has no more devices than that, and no longer.
-/

namespace DigestSync

namespace MemoryStore

variable {store : MemoryStore} {old new : Digest} {includeOld : Bool} {records : List DeltaRecord}

/-- Between any two known digests there is a delta. -/
theorem exists_findDifferences (knownOld : store.isKnown old = true)
    (knownNew : store.isKnown new = true) (includeOld : Bool) :
    ∃ records, store.findDifferences old new includeOld = .ok records := by
  rw [isKnown_eq_isSome] at knownOld knownNew
  obtain ⟨before, foundOld⟩ := Option.isSome_iff_exists.mp knownOld
  obtain ⟨after, foundNew⟩ := Option.isSome_iff_exists.mp knownNew
  exact ⟨_, findDifferences_of_snapshot foundOld foundNew includeOld⟩

theorem isKnown_iff {digest : Digest} :
    store.isKnown digest = true ↔
      digest = Digest.origin ∨ ∃ state, store.digests.find? digest = some state := by
  unfold isKnown SortedMap.contains Digest.isOrigin
  rw [Bool.or_eq_true, beq_iff_eq, Option.isSome_iff_exists]

/-- A delta has no more records than the log has devices. -/
theorem length_le_of_findDifferences (log : store.LogSound)
    (found : store.findDifferences old new includeOld = .ok records) :
    records.length ≤ store.currentState.size := by
  obtain ⟨before, after, first, last, rfl⟩ := exists_of_findDifferences found
  have below : before ⊔ after ≤ store.currentState :=
    sup_le (log.below_of_snapshot first) (log.below_of_snapshot last)
  rw [List.length_map]
  exact (Snapshot.length_diff_le before after includeOld).trans (Snapshot.size_le_of_le below)

/-- A receiver reads all records of a delta, or it refuses them for their number. -/
theorem decode_of_findDifferences (log : store.LogSound) (fits : store.Fits)
    (countable : store.currentState.size < UInt64.size)
    (found : store.findDifferences old new includeOld = .ok records) :
    StateMessage.decode (StateMessage.ofStates records).encode =
      if records.length ≤ maxStates then .ok (.ofStates records)
      else .error (.tooManyStates records.length) := by
  have upto (device : DeviceId) :
      store.currentState.seqOf device ≤ store.currentState.seqOf device := UInt64.le_refl _
  have inside := within_of_findDifferences log fits upto found
  exact StateMessage.decode_encode_ofStates (fun record member => (inside record member).fits)
    ((length_le_of_findDifferences log found).trans_lt countable)

end MemoryStore

/-! ## What is told -/

namespace SyncCore

variable {core : SyncCore} {store : MemoryStore} {now : Instant} {data : Data}

theorem mem_told_reply {next : SyncCore} {volume : Volume} {name : Name}
    {records : List DeltaRecord} :
    data ∈ (SyncTurn.mk next volume (core.reply name records)).told ↔
      records ≠ [] ∧ data = core.replyOf name records := by
  unfold SyncTurn.told reply
  cases records <;> simp [SyncAction.data?]

/-- If the root moves, then a local change tells those who wait for news of the former root. -/
theorem mem_told_noteChange {state : Snapshot}
    (known : store.digests.find? core.root = some state) :
    data ∈ (core.noteChange (.ofStore store) now).2.told ↔
      store.currentState.digest ≠ core.root ∧
        ∃ delta, store.rememberState.2.findDifferences core.root store.currentState.digest false =
            .ok delta ∧ delta ≠ [] ∧
          data = core.replyOf ((SyncName.advertise core.root).toName core.config.group) delta := by
  obtain ⟨delta, found⟩ := findDifferences_rememberState known false
  have digest : store.rememberState.1 = store.currentState.digest := rfl
  unfold noteChange
  rw [Volume.rememberState_ofStore]
  simp only [Volume.findDifferences_ofStore, found]
  rw [digest] at found ⊢
  by_cases same : store.currentState.digest = core.root
  · rw [if_pos same]
    exact iff_of_false List.not_mem_nil fun moves => moves.1 same
  · rw [if_neg same, mem_told_reply, found]
    constructor
    · rintro ⟨filled, rfl⟩
      exact ⟨same, delta, rfl, filled, rfl⟩
    · rintro ⟨-, other, again, filled, rfl⟩
      cases again
      exact ⟨filled, rfl⟩

end SyncCore

namespace Peer

variable {peer : Peer} {now : Instant} {input : PeerInput} {name : Name} {data : Data}
  {log store : MemoryStore} {base target : Digest}

/-- The root is recorded in a sound log. -/
structure Anchored (peer : Peer) : Prop where
  kept : ∃ state, peer.store.digests.find? peer.core.root = some state
  log : peer.store.LogSound
  running : peer.core.running = true

theorem Anchored.isKnown_root (anchored : peer.Anchored) :
    peer.store.isKnown peer.core.root = true :=
  MemoryStore.isKnown_iff.mpr (Or.inr anchored.kept)

theorem Anchored.turn_interest (anchored : peer.Anchored) :
    peer.turn now (.event (.interest name)) = peer.core.onInterest (.ofStore peer.store) name := by
  unfold turn SyncCore.handle
  exact if_pos anchored.running

theorem digests_changed (changed : peer.changed? input = some store) :
    store.digests = peer.store.digests := by
  cases input <;> cases changed <;> rfl

theorem turn_of_changed (changed : peer.changed? input = some store) :
    peer.turn now input = (peer.core.noteChange (.ofStore store) now).2 := by
  cases input <;> cases changed <;> rfl

/-- Whatever prompts a peer, there is a delta to tell. -/
theorem Anchored.exists_computes (anchored : peer.Anchored)
    (prompts : peer.Prompts input name log base target) :
    ∃ delta, log.findDifferences base target false = .ok delta := by
  cases prompts with
  | advertisement heard other known =>
    exact MemoryStore.exists_findDifferences known anchored.isKnown_root false
  | recovery heard known =>
    have origin : peer.store.isKnown Digest.origin = true :=
      MemoryStore.isKnown_iff.mpr (Or.inl rfl)
    exact MemoryStore.exists_findDifferences origin anchored.isKnown_root false
  | change changed moved =>
    obtain ⟨state, kept⟩ := anchored.kept
    rw [← digests_changed changed] at kept
    exact SyncCore.findDifferences_rememberState kept false

/-- Of the events, only interests are answered. -/
theorem told_of_not_interest {event : SyncEvent} (other : ∀ name, event ≠ .interest name) :
    (peer.turn now (.event event)).told = [] := by
  unfold turn SyncCore.handle
  dsimp only
  split
  · cases event with
    | interest name => exact absurd rfl (other name)
    | advertDue => rfl
    | advertReply answer => exact SyncCore.told_onAnswer _ _ _
    | recoverDue digest => exact SyncCore.told_onRecoverDue _ digest
    | recoverReply digest answer => exact SyncCore.told_onAnswer _ _ _
  · rfl

/-- Whatever an interest prompts, the delta from there is the answer. -/
theorem Anchored.turn_of_prompts (anchored : peer.Anchored) {delta : List DeltaRecord}
    (prompts : peer.Prompts (.event (.interest name)) name log base target)
    (found : log.findDifferences base target false = .ok delta) :
    peer.turn now (.event (.interest name)) =
      ⟨peer.core, .ofStore peer.store, peer.core.reply name delta⟩ := by
  rw [anchored.turn_interest]
  unfold SyncCore.onInterest
  cases prompts with
  | advertisement heard other known =>
    unfold SyncCore.onAdvertisement
    simp only [heard, if_neg other, Volume.isKnown_ofStore, known, Volume.findDifferences_ofStore,
      found]
  | recovery heard known =>
    unfold SyncCore.onRecoveryRequest
    simp only [heard, Volume.isKnown_ofStore, known, Volume.findDifferences_ofStore, found]
  | change changed moved => cases changed

/-- An interest that prompts nothing is not answered. -/
theorem Anchored.told_of_unprompted (anchored : peer.Anchored)
    (unprompted : ∀ log base target,
      ¬ peer.Prompts (.event (.interest name)) name log base target) :
    (peer.turn now (.event (.interest name))).told = [] := by
  rw [anchored.turn_interest]
  unfold SyncCore.onInterest
  split
  · rfl
  · rename_i digest heard
    unfold SyncCore.onAdvertisement
    rw [Volume.isKnown_ofStore]
    by_cases here : digest = peer.core.root
    · rw [if_pos here]
      rfl
    · rw [if_neg here]
      cases known : peer.store.isKnown digest with
      | true => exact absurd (.advertisement heard here known) (unprompted _ _ _)
      | false =>
        unfold SyncCore.planRecovery
        dsimp only
        split <;> rfl
  · rename_i digest heard
    unfold SyncCore.onRecoveryRequest
    rw [Volume.isKnown_ofStore]
    cases known : peer.store.isKnown digest with
    | true => exact absurd (.recovery heard known) (unprompted _ _ _)
    | false => rfl

/-- An interest is answered with the delta that it prompts. -/
theorem Anchored.computes_of_answered (anchored : peer.Anchored)
    (member : data ∈ (peer.turn now (.event (.interest name))).told) :
    ∃ delta, peer.Computes (.event (.interest name)) name delta ∧ delta ≠ [] ∧
      data = peer.core.replyOf name delta := by
  by_cases prompted : ∃ log base target, peer.Prompts (.event (.interest name)) name log base target
  · obtain ⟨log, base, target, prompts⟩ := prompted
    obtain ⟨delta, found⟩ := anchored.exists_computes prompts
    rw [anchored.turn_of_prompts prompts found] at member
    obtain ⟨filled, rfl⟩ := SyncCore.mem_told_reply.mp member
    exact ⟨delta, ⟨log, base, target, prompts, found⟩, filled, rfl⟩
  · rw [anchored.told_of_unprompted fun log base target prompts =>
      prompted ⟨log, base, target, prompts⟩] at member
    cases member

/-- A local change is answered to those who wait for news of the former root, if that moves. -/
theorem Anchored.mem_told_change (anchored : peer.Anchored)
    (changed : peer.changed? input = some store) :
    data ∈ (peer.turn now input).told ↔
      store.currentState.digest ≠ peer.core.root ∧
        ∃ delta, store.rememberState.2.findDifferences peer.core.root store.currentState.digest
            false = .ok delta ∧ delta ≠ [] ∧
          data = peer.core.replyOf
            ((SyncName.advertise peer.core.root).toName peer.core.config.group) delta := by
  obtain ⟨state, kept⟩ := anchored.kept
  rw [← digests_changed changed] at kept
  rw [turn_of_changed changed]
  exact SyncCore.mem_told_noteChange kept

/-- A peer tells just the deltas that an input makes it compute. -/
theorem Anchored.mem_told_iff (anchored : peer.Anchored) :
    data ∈ (peer.turn now input).told ↔
      ∃ name delta, peer.Computes input name delta ∧ delta ≠ [] ∧
        data = peer.core.replyOf name delta := by
  constructor
  · intro member
    cases changed : peer.changed? input with
    | some store =>
      obtain ⟨moved, delta, found, filled, rfl⟩ := (anchored.mem_told_change changed).mp member
      exact ⟨_, delta, ⟨_, _, _, .change changed moved, found⟩, filled, rfl⟩
    | none =>
      cases input with
      | publish seq => cases changed
      | noteChange => cases changed
      | event event =>
        by_cases asked : ∃ name, event = .interest name
        · obtain ⟨name, rfl⟩ := asked
          exact ⟨name, anchored.computes_of_answered member⟩
        · rw [told_of_not_interest fun name same => asked ⟨name, same⟩] at member
          cases member
  · rintro ⟨name, delta, ⟨log, base, target, prompts, found⟩, filled, rfl⟩
    have answered {name : Name}
        (prompts : peer.Prompts (.event (.interest name)) name log base target) :
        peer.core.replyOf name delta ∈ (peer.turn now (.event (.interest name))).told := by
      rw [anchored.turn_of_prompts prompts found]
      exact SyncCore.mem_told_reply.mpr ⟨filled, rfl⟩
    cases prompts with
    | advertisement heard other known => exact answered (.advertisement heard other known)
    | recovery heard known => exact answered (.recovery heard known)
    | change changed moved =>
      exact (anchored.mem_told_change changed).mpr ⟨moved, delta, found, filled, rfl⟩

/-! ## Runs -/

theorem anchored_resume {store : MemoryStore} (log : store.LogSound) (device : DeviceId)
    (config : SyncConfig) (now : Instant) : (resume store device config now).Anchored where
  kept := ⟨_, (rooted_resume store device config now).kept⟩
  log := log.remember
  running := rfl

/-- A peer that takes up a log knows what is recorded in it, and its own state. -/
theorem snapshot_resume {store : MemoryStore} {device : DeviceId} {config : SyncConfig}
    {digest : Digest} (other : digest ≠ (resume store device config now).core.root) :
    (resume store device config now).store.snapshot digest = store.snapshot digest := by
  have recorded : (resume store device config now).store.digests.find? digest =
      store.digests.find? digest :=
    (MemoryStore.find?_rememberState store digest).trans (if_neg other)
  unfold MemoryStore.snapshot
  rw [recorded]

/-- After any input, the root is again recorded in a sound log. -/
theorem Anchored.turn (anchored : peer.Anchored) (now : Instant) (input : PeerInput) :
    (ofTurn (peer.turn now input)).Anchored := by
  obtain ⟨state, kept⟩ := anchored.kept
  rcases turn_cases kept now input with keeps | ⟨store, adopts, same, rising⟩
  · have left : ofTurn (peer.turn now input) = ⟨(peer.turn now input).core, peer.store⟩ :=
      congrArg (Peer.mk _) (congrArg Volume.store keeps.volume)
    rw [left]
    exact ⟨⟨state, keeps.root ▸ kept⟩, anchored.log, keeps.running.trans anchored.running⟩
  · have left : ofTurn (peer.turn now input) =
        ⟨(peer.turn now input).core, store.rememberState.2⟩ :=
      congrArg (Peer.mk _) (congrArg Volume.store adopts.volume)
    rw [left]
    refine ⟨⟨store.currentState, ?_⟩, (anchored.log.rise same rising).remember,
      adopts.running.trans anchored.running⟩
    rw [adopts.root, MemoryStore.find?_rememberState]
    exact if_pos rfl

theorem Anchored.undergo (anchored : peer.Anchored) (event : PeerEvent) :
    (peer.undergo event).Anchored := by
  cases event with
  | input now input =>
    change (peer.react now input).Anchored
    rw [react_eq]
    exact anchored.turn now input
  | call call =>
    exact ⟨MemoryStore.exists_find?_next call anchored.kept, anchored.log.next call,
      anchored.running⟩

theorem Anchored.undergoAll (anchored : peer.Anchored) (events : List PeerEvent) :
    (peer.undergoAll events).Anchored := by
  induction events generalizing peer with
  | nil => exact anchored
  | cons event rest ih => exact ih (anchored.undergo event)

/-- The delta is read off the log that the turn leaves. -/
theorem Anchored.log_eq (anchored : peer.Anchored) (now : Instant)
    (prompts : peer.Prompts input name log base target) :
    (peer.turn now input).volume.store = log := by
  have asked {name : Name} : (peer.turn now (.event (.interest name))).volume.store = peer.store := by
    rw [anchored.turn_interest]
    exact congrArg Volume.store (SyncCore.keeps_onInterest name).volume
  cases prompts with
  | advertisement heard other known => exact asked
  | recovery heard known => exact asked
  | change changed moved =>
    obtain ⟨state, kept⟩ := anchored.kept
    rw [← digests_changed changed] at kept
    rw [turn_of_changed changed]
    exact congrArg Volume.store (SyncCore.adopts_noteChange kept).volume

/-- Whatever log a peer has taken up and whatever has happened to it since, its device's own
use of the log included: told of an input, it publishes just the deltas that this makes it
compute, unless they are empty, and there is one for all that prompts it.  A delta has no more
records than the log has devices, and a receiver reads all of them and nothing else if they
are no more than it accepts.  If they are more, however, it refuses the whole message for
that; the peer has published it all the same. -/
theorem decode_published (calls : List StoreCall) (device : DeviceId) (config : SyncConfig)
    (start : Instant) (events : List PeerEvent) (now : Instant) (input : PeerInput) :
    let peer := (resume (calls.foldl MemoryStore.next .empty) device config start).undergoAll events
    let turn := peer.turn now input
    turn.volume.store.Fits → turn.volume.store.currentState.size < UInt64.size →
      (∀ data, data ∈ turn.told ↔ ∃ name delta, peer.Computes input name delta ∧
        delta ≠ [] ∧ data = peer.core.replyOf name delta) ∧
      (∀ name log base target, peer.Prompts input name log base target →
        ∃ delta, log.findDifferences base target false = .ok delta) ∧
      ∀ name delta, peer.Computes input name delta →
        delta.length ≤ turn.volume.store.currentState.size ∧
        StateMessage.decode (peer.core.replyOf name delta).content =
          if delta.length ≤ maxStates then .ok (.ofStates delta)
          else .error (.tooManyStates delta.length) := by
  intro peer turn fits countable
  have log := MemoryStore.logSound_foldl_next calls
  have anchored : peer.Anchored := (anchored_resume log device config start).undergoAll events
  refine ⟨fun data => anchored.mem_told_iff, fun _ _ _ _ => anchored.exists_computes, ?_⟩
  rintro name delta ⟨log, base, target, prompts, found⟩
  have left : turn.volume.store = log := anchored.log_eq now prompts
  have sound : turn.volume.store.LogSound := (anchored.turn now input).log
  rw [← left] at found
  exact ⟨MemoryStore.length_le_of_findDifferences sound found,
    MemoryStore.decode_of_findDifferences sound fits countable found⟩

/-- A device with a log that knows of another one takes note of a third, and then publishes a
number of its own: both are told in one message, which is read. -/
theorem decode_published_two :
    let others : List StoreCall := [.updateDeviceSeq ⟨.ofTexts ["b"]⟩ 2,
      .updateLocator ⟨.ofTexts ["b"]⟩ (.ofTexts ["at", "b"])]
    let peer := (resume (others.foldl MemoryStore.next .empty) ⟨.ofTexts ["a"]⟩ .standard
      0).undergoAll [.call (.updateDeviceSeq ⟨.ofTexts ["c"]⟩ 4)]
    let turn := peer.turn 1 (.publish 5)
    turn.volume.store.Fits ∧ turn.volume.store.currentState.size < UInt64.size ∧
      turn.told.length = 1 ∧ ∀ data ∈ turn.told, ∃ delta,
        StateMessage.decode data.content = .ok (.ofStates delta) := by
  intro others peer turn
  have fits : turn.volume.store.Fits := ⟨by decide +kernel, by decide +kernel⟩
  have few : turn.volume.store.currentState.size ≤ maxStates := by decide +kernel
  have countable : turn.volume.store.currentState.size < UInt64.size :=
    Nat.lt_of_le_of_lt few (by decide)
  have published := decode_published others ⟨.ofTexts ["a"]⟩ .standard 0
    [.call (.updateDeviceSeq ⟨.ofTexts ["c"]⟩ 4)] 1 (.publish 5) fits countable
  refine ⟨fits, countable, by decide +kernel, ?_⟩
  intro data member
  obtain ⟨name, delta, computes, -, rfl⟩ := (published.1 data).mp member
  obtain ⟨short, read⟩ := published.2.2 name delta computes
  exact ⟨delta, read.trans (if_pos (short.trans few))⟩

/-! ## Deltas that nobody reads -/

/-- A peer asked for what has come since a state that it knows, with so many devices in its log
that the answer has more records than are accepted, publishes it and is not understood. -/
theorem unread_since {store : MemoryStore} (log : store.LogSound) (fits : store.Fits)
    (countable : store.currentState.size < UInt64.size) {digest : Digest} {state : Snapshot}
    (found : store.snapshot digest = some state)
    (many : state.size + maxStates < store.currentState.size) {device : DeviceId}
    {config : SyncConfig} (other : digest ≠ (resume store device config now).core.root) :
    ∃ delta,
      let peer := resume store device config now
      let name := (SyncName.advertise digest).toName config.group
      let input := PeerInput.event (.interest name)
      peer.Computes input name delta ∧
        peer.core.replyOf name delta ∈ (peer.turn now input).told ∧
        StateMessage.decode (peer.core.replyOf name delta).content =
          .error (.tooManyStates delta.length) := by
  have anchored : (resume store device config now).Anchored :=
    anchored_resume log device config now
  have own : (resume store device config now).store.snapshot
      (resume store device config now).core.root = some store.currentState :=
    MemoryStore.snapshot_of_find? (rooted_resume store device config now).kept
  have found := (snapshot_resume other).trans found
  have difference := MemoryStore.findDifferences_of_snapshot found own false
  have known : (resume store device config now).store.isKnown digest = true := by
    rw [MemoryStore.isKnown_eq_isSome, found]
    rfl
  have covered : maxStates < (state.diff store.currentState false).length := by
    have listed := Snapshot.size_le_add_length_diff state store.currentState false
    omega
  have heard := SyncName.ofName_toName config.group (.advertise digest)
  refine ⟨_, ⟨_, _, _, .advertisement heard other known, difference⟩, ?_, ?_⟩
  · refine anchored.mem_told_iff.mpr
      ⟨_, _, ⟨_, _, _, .advertisement heard other known, difference⟩, ?_, rfl⟩
    intro nothing
    rw [List.map_eq_nil_iff.mp nothing] at covered
    exact absurd covered (Nat.not_lt_zero _)
  · have whole : (resume store device config now).store.Fits := ⟨fits.devices, fits.locators⟩
    refine (MemoryStore.decode_of_findDifferences anchored.log whole countable
      difference).trans (if_neg ?_)
    rw [List.length_map]
    exact Nat.not_le_of_lt covered

/-- Take note of the first numbers of some devices. -/
def enrol (devices : List DeviceId) : List StoreCall :=
  devices.map fun device => .updateDeviceSeq device 1

/-- Devices with names of one, two, three and more components. -/
def crowd (count : Nat) : List DeviceId :=
  (List.range count).map fun extra => ⟨⟨List.replicate (extra + 1) [0]⟩⟩

/-- A log in which the state of one device is recorded. -/
def quietLog : MemoryStore := (enrol (crowd 1) ++ [StoreCall.rememberState]).foldl .next .empty

/-- The log after more devices have come than a message may have records. -/
def crowdedLog : MemoryStore := (enrol (crowd (maxStates + 2))).foldl .next quietLog

section Enrolment

variable (store : MemoryStore) (devices : List DeviceId)

theorem digests_enrol : ((enrol devices).foldl MemoryStore.next store).digests = store.digests := by
  induction devices generalizing store with
  | nil => rfl
  | cons device rest ih => exact ih (store.next (.updateDeviceSeq device 1))

theorem currentState_enrol :
    ((enrol devices).foldl MemoryStore.next store).currentState =
      store.currentState.mergeAll (devices.map fun device => (device, 1)) := by
  induction devices generalizing store with
  | nil => rfl
  | cons device rest ih =>
    refine (ih (store.next (.updateDeviceSeq device 1))).trans ?_
    exact congrArg (Snapshot.mergeAll · _) (MemoryStore.currentState_updateDeviceSeq store device 1)

theorem fits_enrol (fits : store.Fits) (whole : ∀ device ∈ devices, device.name.Fits) :
    ((enrol devices).foldl MemoryStore.next store).Fits := by
  induction devices generalizing store with
  | nil => exact fits
  | cons device rest ih =>
    obtain ⟨here, later⟩ := List.forall_mem_cons.mp whole
    exact ih _ (fits.updateDeviceSeq here 1) later

end Enrolment

theorem length_crowd (count : Nat) : (crowd count).length = count := by
  unfold crowd
  rw [List.length_map, List.length_range]

theorem nodup_crowd (count : Nat) : (crowd count).Nodup := by
  refine List.nodup_range.map ?_
  intro left right same
  have lengths := congrArg (fun device => device.name.components.length) same
  simpa using lengths

theorem fits_crowd {count : Nat} (countable : count < UInt64.size) :
    ∀ device ∈ crowd count, device.name.Fits := by
  intro device member
  obtain ⟨extra, inRange, rfl⟩ := List.mem_map.mp member
  have below := List.mem_range.mp inRange
  constructor
  · show (List.replicate (extra + 1) [0]).length < UInt64.size
    rw [List.length_replicate]
    omega
  · intro component inside
    rw [List.eq_of_mem_replicate inside]
    decide

theorem fits_crowdedLog : crowdedLog.Fits :=
  fits_enrol quietLog _ ⟨by decide +kernel, by decide +kernel⟩ (fits_crowd (by decide))

theorem le_size_crowdedLog : maxStates + 2 ≤ crowdedLog.currentState.size := by
  rw [← length_crowd (maxStates + 2)]
  apply Snapshot.length_le_size (nodup_crowd _)
  intro device member
  have listed : (device, 1) ∈ (crowd (maxStates + 2)).map fun device => (device, (1 : Seq)) :=
    List.mem_map_of_mem member
  have reached : 1 ≤ crowdedLog.currentState.seqOf device := by
    rw [crowdedLog, currentState_enrol]
    exact Snapshot.le_seqOf_mergeAll listed
  rw [Snapshot.device_mem_iff]
  intro zero
  rw [zero] at reached
  exact absurd reached (by decide)

theorem size_crowdedLog_lt : crowdedLog.currentState.size < UInt64.size := by
  have upto := Snapshot.size_mergeAll_le quietLog.currentState
    ((crowd (maxStates + 2)).map fun device => (device, 1))
  rw [← currentState_enrol, List.length_map, length_crowd] at upto
  have one : quietLog.currentState.size = 1 := by decide +kernel
  rw [one] at upto
  exact Nat.lt_of_le_of_lt upto (by decide)

theorem snapshot_crowdedLog (digest : Digest) :
    crowdedLog.snapshot digest = quietLog.snapshot digest := by
  have same : crowdedLog.digests = quietLog.digests := digests_enrol quietLog _
  unfold MemoryStore.snapshot
  rw [same]

/-- Two states of one device at most are known to the crowded log.  They have not the same
digest, so that one of them is not that of the crowd; whoever advertises this one is told of
the crowd in a message that is refused. -/
theorem crowd_unread :
    ∃ digest delta,
      let peer := resume crowdedLog ⟨.ofTexts ["a"]⟩ .standard 0
      let name := (SyncName.advertise digest).toName SyncConfig.standard.group
      let input := PeerInput.event (.interest name)
      peer.Computes input name delta ∧
        peer.core.replyOf name delta ∈ (peer.turn 0 input).told ∧
        StateMessage.decode (peer.core.replyOf name delta).content =
          .error (.tooManyStates delta.length) := by
  have log : crowdedLog.LogSound := by
    unfold crowdedLog quietLog
    rw [← List.foldl_append]
    exact MemoryStore.logSound_foldl_next _
  have small : ∀ digest ∈ [Digest.origin, quietLog.currentState.digest],
      (quietLog.snapshot digest).any (fun state => state.size ≤ 1) = true := by decide +kernel
  have differ : quietLog.currentState.digest ≠ Digest.origin := by decide +kernel
  obtain ⟨digest, listed, other⟩ : ∃ digest ∈ [Digest.origin, quietLog.currentState.digest],
      digest ≠ (resume crowdedLog ⟨.ofTexts ["a"]⟩ .standard 0).core.root := by
    by_cases blank : Digest.origin = (resume crowdedLog ⟨.ofTexts ["a"]⟩ .standard 0).core.root
    · exact ⟨_, List.mem_cons_of_mem _ List.mem_cons_self, blank ▸ differ⟩
    · exact ⟨_, List.mem_cons_self, blank⟩
  obtain ⟨state, found, size⟩ := (Option.any_eq_true _ _).mp (small digest listed)
  have many : state.size + maxStates < crowdedLog.currentState.size := by
    have size := of_decide_eq_true size
    have crowd := le_size_crowdedLog
    omega
  exact ⟨digest, unread_since log fits_crowdedLog size_crowdedLog_lt
    ((snapshot_crowdedLog digest).trans found) many other⟩

end Peer

end DigestSync
