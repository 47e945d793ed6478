import DigestSync.Proofs.Sync.Message
import DigestSync.Proofs.Sync.Peer
import DigestSync.Proofs.Sync.SyncName

set_option autoImplicit false

/-! # Two peers converge

Whoever hears an advertisement to the end then has the join of the two states, and the
other peer has that or what it had.  For if the digest is known, its state was recorded
and therefore lies below the present one, so that the delta takes the speaker to the
hearer's state; and if it is not, the hearer gets the full state.  All this rests on
digests that tell the states apart.  After each of the two has been heard once, they
have the same state.
-/

namespace DigestSync

namespace Peer

/-- A sound peer without recoveries whose names have lengths that 64 bits can tell. -/
structure Ready (group : Name) (seen : List Snapshot) (peer : Peer) : Prop where
  sound : peer.Sound group seen
  idle : peer.core.recoveries = []
  fits : peer.store.Fits

variable {group : Name} {seen : List Snapshot} {peer speaker hearer : Peer} {now : Instant}

/-- The root, the group and what is to be recovered are all that counts of a core. -/
theorem Ready.with_core (ready : peer.Ready group seen) {core : SyncCore}
    (root : core.root = peer.core.root) (running : core.running = peer.core.running)
    (config : core.config = peer.core.config) (idle : core.recoveries = []) :
    (Peer.mk core peer.store).Ready group seen where
  sound :=
    { log := ready.sound.log
      root_eq := root.trans ready.sound.root_eq
      kept := by
        rw [root]
        exact ready.sound.kept
      recorded := ready.sound.recorded
      current := ready.sound.current
      running := running.trans ready.sound.running
      group_eq := by
        rw [config]
        exact ready.sound.group_eq }
  idle := idle
  fits := ready.fits

/-! ## Answers -/

theorem findSome?_reply (core : SyncCore) (name : Name) (records : List DeltaRecord) :
    (core.reply name records).findSome? (SyncAction.answer? name) =
      if records.isEmpty then none else some (core.replyOf name records) := by
  have answers : (core.replyOf name records).answers name = true := Name.isPrefixOf_refl name
  unfold SyncCore.reply
  split
  · rfl
  · simp only [List.findSome?_cons, SyncAction.answer?, if_pos answers]

theorem findSome?_awaited_reply (core : SyncCore) (name : Name) (records : List DeltaRecord) :
    (core.reply name records).findSome? SyncAction.awaited? = none := by
  unfold SyncCore.reply
  split <;> rfl

/-- The answer to an interest, or its absence where there is nothing to tell, is merged. -/
theorem Ready.merge (ready : peer.Ready group seen) (teller : SyncCore) (name : Name)
    {records : List DeltaRecord} (whole : ∀ record ∈ records, record.Fits)
    (few : records.length ≤ maxStates)
    (visited : peer.store.currentState.mergeAll (Snapshot.updatesOf records) ∈ seen) :
    let left := ofTurn (peer.core.onAnswer (.ofStore peer.store) now
      ((teller.reply name records).findSome? (SyncAction.answer? name)))
    left.Ready group seen ∧
      left.store.currentState =
        peer.store.currentState.mergeAll (Snapshot.updatesOf records) := by
  intro left
  have idle : left.core.recoveries = [] :=
    (SyncCore.recoveries_onAnswer _ _).trans ready.idle
  have answer := findSome?_reply teller name records
  by_cases bare : records.isEmpty = true
  · rw [if_pos bare] at answer
    have same : left = peer := by
      show ofTurn (peer.core.onAnswer _ now _) = peer
      rw [answer]
      rfl
    rw [List.isEmpty_iff.mp bare, same]
    exact ⟨ready, rfl⟩
  · rw [if_neg bare] at answer
    have read : StateMessage.decode (teller.replyOf name records).content =
        .ok (.ofStates records) := StateMessage.decode_ofStates whole few
    have adopts : peer.core.Adopts (peer.store.takeRecords records)
        (peer.core.onAnswer (.ofStore peer.store) now
          ((teller.reply name records).findSome? (SyncAction.answer? name))) := by
      rw [answer]
      exact SyncCore.adopts_onAnswer ready.sound.kept read
    have state := peer.store.currentState_takeRecords records
    have store : left.store = (peer.store.takeRecords records).rememberState.2 :=
      congrArg Volume.store adopts.volume
    refine ⟨⟨?_, idle, ?_⟩, ?_⟩
    · apply ready.sound.adopt adopts (peer.store.digests_takeRecords records)
      · rw [state]
        exact Snapshot.le_mergeAll _ _
      · rw [state]
        exact visited
    · rw [store]
      have fits := ready.fits.takeRecords whole
      exact ⟨fits.devices, fits.locators⟩
    · rw [store, ← state]
      rfl

/-! ## What a peer tells -/

/-- The records of a delta, each with the present locator of its device. -/
def told (peer : Peer) (old new : Snapshot) : List DeltaRecord :=
  (old.diff new false).map fun record =>
    { record with locator := peer.store.locator record.device }

theorem updatesOf_told (peer : Peer) (old new : Snapshot) :
    Snapshot.updatesOf (peer.told old new) = Snapshot.updatesOf (old.diff new false) := by
  unfold told Snapshot.updatesOf
  rw [List.filter_map, List.map_map]
  rfl

theorem Ready.fits_told (ready : peer.Ready group seen) {old new : Snapshot}
    (oldFits : ∀ entry ∈ old.entries, entry.1.name.Fits)
    (newFits : ∀ entry ∈ new.entries, entry.1.name.Fits) :
    ∀ record ∈ peer.told old new, record.Fits := by
  intro record member
  obtain ⟨plain, inside, rfl⟩ := List.mem_map.mp member
  refine ⟨?_, fun locator found => ready.fits.of_locator found⟩
  show plain.device.name.Fits
  rcases (Snapshot.mem_diff.mp inside).device_mem with ⟨entry, there, same⟩ | ⟨entry, there, same⟩
  · rw [← same]
    exact oldFits entry there
  · rw [← same]
    exact newFits entry there

theorem length_told_le (peer : Peer) (old new : Snapshot) :
    (peer.told old new).length ≤ (old ⊔ new).size := by
  unfold told
  rw [List.length_map]
  exact Snapshot.length_diff_le old new false

/-- The delta from a known digest to the root. -/
theorem Ready.findDifferences_eq (ready : peer.Ready group seen) {digest : Digest}
    {old : Snapshot} (known : peer.store.snapshot digest = some old) :
    peer.store.findDifferences digest peer.core.root false =
      .ok (peer.told old peer.store.currentState) :=
  MemoryStore.findDifferences_of_snapshot known
    (MemoryStore.snapshot_of_find? ready.sound.kept) false

/-! ## What a peer knows -/

theorem Sound.mem_of_snapshot (sound : peer.Sound group seen) (blank : Snapshot.empty ∈ seen)
    {digest : Digest} {state : Snapshot} (known : peer.store.snapshot digest = some state) :
    state ∈ seen := by
  unfold MemoryStore.snapshot at known
  split at known
  · rename_i recorded found
    cases known
    exact sound.recorded digest state found
  · split at known
    · cases known
      exact blank
    · cases known

/-- Where digests tell the states apart, a known digest has the state that was seen with it. -/
theorem Sound.eq_of_snapshot (sound : peer.Sound group seen) (blank : Snapshot.empty ∈ seen)
    (distinct : Set.InjOn Snapshot.digest {state | state ∈ seen}) {state old : Snapshot}
    (visited : state ∈ seen) (known : peer.store.snapshot state.digest = some old) :
    old = state :=
  distinct (sound.mem_of_snapshot blank known) visited (sound.log.digest_of_snapshot known)

/-- The empty state is known under its digest. -/
theorem Sound.snapshot_origin (sound : peer.Sound group seen) (blank : Snapshot.empty ∈ seen)
    (distinct : Set.InjOn Snapshot.digest {state | state ∈ seen}) :
    peer.store.snapshot Digest.origin = some Snapshot.empty := by
  have known : peer.store.isKnown Digest.origin = true := by
    have origin : Digest.origin.isOrigin = true := beq_self_eq_true Digest.origin
    unfold MemoryStore.isKnown
    rw [origin, Bool.true_or]
  rw [MemoryStore.isKnown_eq_isSome] at known
  obtain ⟨state, found⟩ := Option.isSome_iff_exists.mp known
  have same : state = Snapshot.empty := sound.eq_of_snapshot blank distinct blank found
  rw [found, same]

/-! ## What a peer hears -/

/-- Everyone in the group takes an interest for what it says. -/
theorem Ready.onInterest_eq (ready : peer.Ready group seen) (saying : SyncName) :
    peer.handle now (.interest (saying.toName group)) =
      match saying with
      | .advertise digest =>
        let answer := peer.core.onAdvertisement (.ofStore peer.store) (saying.toName group) digest
        (⟨answer.1, peer.store⟩, answer.2)
      | .recover digest =>
        (peer, peer.core.onRecoveryRequest (.ofStore peer.store) (saying.toName group) digest) := by
  unfold handle SyncCore.handle
  rw [if_pos ready.sound.running]
  simp only [SyncCore.onInterest, ready.sound.group_eq, SyncName.ofName_toName]
  cases saying <;> rfl

/-- The own root is ignored. -/
theorem Ready.hear_root (ready : peer.Ready group seen) :
    peer.handle now (.interest ((SyncName.advertise peer.core.root).toName group)) = (peer, []) := by
  rw [ready.onInterest_eq]
  simp only [SyncCore.onAdvertisement, if_true]

/-- A known digest is answered with the delta. -/
theorem Ready.hear_known (ready : peer.Ready group seen) {digest : Digest} {old : Snapshot}
    (away : digest ≠ peer.core.root) (known : peer.store.snapshot digest = some old) :
    peer.handle now (.interest ((SyncName.advertise digest).toName group)) =
      (peer, peer.core.reply ((SyncName.advertise digest).toName group)
        (peer.told old peer.store.currentState)) := by
  have listed : peer.store.isKnown digest = true := by
    rw [MemoryStore.isKnown_eq_isSome, known]
    rfl
  rw [ready.onInterest_eq]
  simp only [SyncCore.onAdvertisement, if_neg away, Volume.isKnown_ofStore, listed,
    Volume.findDifferences_ofStore, ready.findDifferences_eq known]

/-- The recovery of an unknown digest is planned. -/
theorem Ready.hear_unknown (ready : peer.Ready group seen) {digest : Digest}
    (away : digest ≠ peer.core.root) (unknown : peer.store.snapshot digest = none) :
    peer.handle now (.interest ((SyncName.advertise digest).toName group)) =
      (⟨{ peer.core with recoveries := [digest] }, peer.store⟩,
        [.await digest peer.core.config.recoverWait]) := by
  have unlisted : peer.store.isKnown digest = false := by
    rw [MemoryStore.isKnown_eq_isSome, unknown]
    rfl
  rw [ready.onInterest_eq]
  simp only [SyncCore.onAdvertisement, if_neg away, Volume.isKnown_ofStore, unlisted,
    SyncCore.planRecovery, ready.idle]
  rfl

/-- A request for the recovery of a known digest is answered with the full state. -/
theorem Ready.hear_recover (ready : peer.Ready group seen) {digest : Digest} {old : Snapshot}
    (known : peer.store.snapshot digest = some old)
    (origin : peer.store.snapshot Digest.origin = some Snapshot.empty) :
    peer.handle now (.interest ((SyncName.recover digest).toName group)) =
      (peer, peer.core.reply ((SyncName.recover digest).toName group)
        (peer.told Snapshot.empty peer.store.currentState)) := by
  have listed : peer.store.isKnown digest = true := by
    rw [MemoryStore.isKnown_eq_isSome, known]
    rfl
  rw [ready.onInterest_eq]
  simp only [SyncCore.onRecoveryRequest, Volume.isKnown_ofStore, listed,
    Volume.findDifferences_ofStore, ready.findDifferences_eq origin]

/-- The recovery of a digest that is still unknown is asked for. -/
theorem handle_recoverDue {digest : Digest} (running : peer.core.running = true)
    (away : digest ≠ peer.core.root) (unknown : peer.store.snapshot digest = none) :
    peer.handle now (.recoverDue digest) =
      (peer, [.ask (.recover digest) (peer.core.interestOf (.recover digest))]) := by
  have unlisted : peer.store.isKnown digest = false := by
    rw [MemoryStore.isKnown_eq_isSome, unknown]
    rfl
  unfold handle SyncCore.handle
  rw [if_pos running]
  simp only [SyncCore.onRecoverDue, if_neg away, Volume.isKnown_ofStore, unlisted]
  rfl

/-! ## Answers that arrive -/

/-- The answer to an advertisement is merged. -/
theorem Ready.take_advertReply (ready : peer.Ready group seen) (now : Instant)
    (teller : SyncCore) (name : Name) {records : List DeltaRecord}
    (whole : ∀ record ∈ records, record.Fits) (few : records.length ≤ maxStates)
    (visited : peer.store.currentState.mergeAll (Snapshot.updatesOf records) ∈ seen) :
    let left := (peer.handle now (.advertReply
      ((teller.reply name records).findSome? (SyncAction.answer? name)))).1
    left.Ready group seen ∧
      left.store.currentState =
        peer.store.currentState.mergeAll (Snapshot.updatesOf records) := by
  have waited : (Peer.mk { peer.core with advertsInFlight := peer.core.advertsInFlight - 1 }
      peer.store).Ready group seen := ready.with_core rfl rfl rfl ready.idle
  unfold handle SyncCore.handle
  rw [if_pos ready.sound.running]
  exact waited.merge teller name whole few visited

/-- An advertisement that is not answered changes nothing. -/
theorem Ready.expire (ready : peer.Ready group seen) (now : Instant) :
    let left := (peer.handle now (.advertReply none)).1
    left.Ready group seen ∧ left.store.currentState = peer.store.currentState := by
  have waited : (Peer.mk { peer.core with advertsInFlight := peer.core.advertsInFlight - 1 }
      peer.store).Ready group seen := ready.with_core rfl rfl rfl ready.idle
  unfold handle SyncCore.handle
  rw [if_pos ready.sound.running]
  exact ⟨waited, rfl⟩

/-- The answer to the one recovery that is under way is merged. -/
theorem Ready.take_recoverReply (ready : peer.Ready group seen) (now : Instant)
    (digest : Digest) (teller : SyncCore) (name : Name) {records : List DeltaRecord}
    (whole : ∀ record ∈ records, record.Fits) (few : records.length ≤ maxStates)
    (visited : peer.store.currentState.mergeAll (Snapshot.updatesOf records) ∈ seen) :
    let left := ((Peer.mk { peer.core with recoveries := [digest] } peer.store).handle now
      (.recoverReply digest
        ((teller.reply name records).findSome? (SyncAction.answer? name)))).1
    left.Ready group seen ∧
      left.store.currentState =
        peer.store.currentState.mergeAll (Snapshot.updatesOf records) := by
  have dropped : ({ peer.core with recoveries := [digest] } : SyncCore).dropRecovery digest =
      { peer.core with recoveries := [] } := by
    unfold SyncCore.dropRecovery
    simp
  have waited : (Peer.mk { peer.core with recoveries := [] } peer.store).Ready group seen :=
    ready.with_core rfl rfl rfl rfl
  unfold handle SyncCore.handle
  rw [if_pos ready.sound.running]
  simp only [dropped]
  exact waited.merge teller name whole few visited

/-! ## One advertisement -/

/-- The advertisement is said, heard, and answered or recovered from. -/
theorem Ready.advertise_eq (speaking : speaker.Ready group seen) (hearer : Peer)
    (clock : Nat → Instant) :
    speaker.advertise hearer clock =
      let speaker' : Peer := ⟨(speaker.core.advertise (clock 0)).1, speaker.store⟩
      let name := (SyncName.advertise speaker.core.root).toName group
      let heard := hearer.handle (clock 1) (.interest name)
      let both :=
        match heard.2.findSome? SyncAction.awaited? with
        | none => (heard.1, speaker')
        | some digest => heard.1.recover speaker' digest clock
      ((both.2.handle (clock 5)
        (.advertReply (heard.2.findSome? (SyncAction.answer? name)))).1, both.1) := by
  have said : speaker.handle (clock 0) .advertDue =
      (⟨(speaker.core.advertise (clock 0)).1, speaker.store⟩,
        [.ask (.advertise speaker.core.root)
          (speaker.core.interestOf (.advertise speaker.core.root))]) := by
    unfold handle SyncCore.handle
    rw [if_pos speaking.sound.running]
    rfl
  have name : (speaker.core.interestOf (.advertise speaker.core.root)).name =
      (SyncName.advertise speaker.core.root).toName group := by
    rw [← speaking.sound.group_eq]
    rfl
  unfold advertise
  rw [said, ← name]
  rfl

/-- Two peers that can come to agree: both are ready, digests tell the states seen apart, and
the join of the two states is one of these and fits into a message. -/
structure Meeting (group : Name) (seen : List Snapshot) (speaker hearer : Peer) : Prop where
  speaking : speaker.Ready group seen
  hearing : hearer.Ready group seen
  blank : Snapshot.empty ∈ seen
  distinct : Set.InjOn Snapshot.digest {state | state ∈ seen}
  joined : speaker.store.currentState ⊔ hearer.store.currentState ∈ seen
  few : (speaker.store.currentState ⊔ hearer.store.currentState).size ≤ maxStates

/-- What an advertisement leaves when it has been handled to the end: the hearer has the
join of the states, and the speaker has that or what it had. -/
structure Joined (group : Name) (seen : List Snapshot) (speaker hearer : Peer)
    (left : Peer × Peer) : Prop where
  speaking : left.1.Ready group seen
  hearing : left.2.Ready group seen
  hearer_eq : left.2.store.currentState = speaker.store.currentState ⊔ hearer.store.currentState
  speaker_eq : left.1.store.currentState = speaker.store.currentState ∨
    left.1.store.currentState = speaker.store.currentState ⊔ hearer.store.currentState

/-- The speaker goes on from its advertisement as it was. -/
theorem Ready.said (speaking : speaker.Ready group seen) (now : Instant) :
    (Peer.mk (speaker.core.advertise now).1 speaker.store).Ready group seen :=
  speaking.with_core rfl rfl rfl speaking.idle

/-- Having said its advertisement, the speaker can still come to agree with the hearer. -/
theorem Meeting.said (meeting : Meeting group seen speaker hearer) (now : Instant) :
    Meeting group seen ⟨(speaker.core.advertise now).1, speaker.store⟩ hearer :=
  { meeting with speaking := meeting.speaking.said now }

/-- Peers with the same root have the same state. -/
theorem Meeting.advertise_root (meeting : Meeting group seen speaker hearer)
    (same : speaker.core.root = hearer.core.root) (clock : Nat → Instant) :
    Joined group seen speaker hearer (speaker.advertise hearer clock) := by
  have states : speaker.store.currentState = hearer.store.currentState := by
    apply meeting.distinct meeting.speaking.sound.current meeting.hearing.sound.current
    rw [← meeting.speaking.sound.root_eq, ← meeting.hearing.sound.root_eq, same]
  obtain ⟨after, kept⟩ := (meeting.speaking.said (clock 0)).expire (clock 5)
  rw [meeting.speaking.advertise_eq, same]
  simp only [meeting.hearing.hear_root, List.findSome?_nil]
  refine ⟨after, meeting.hearing, ?_, Or.inl kept⟩
  rw [states, sup_idem]

/-- A known root was recorded with the speaker's state, above which the hearer is. -/
theorem Meeting.advertise_known (meeting : Meeting group seen speaker hearer)
    (away : speaker.core.root ≠ hearer.core.root) {old : Snapshot}
    (known : hearer.store.snapshot speaker.core.root = some old) (clock : Nat → Instant) :
    Joined group seen speaker hearer (speaker.advertise hearer clock) := by
  obtain ⟨speaking, hearing, blank, distinct, joined, few⟩ := meeting
  have same : old = speaker.store.currentState := by
    rw [speaking.sound.root_eq] at known
    exact hearing.sound.eq_of_snapshot blank distinct speaking.sound.current known
  subst same
  have below : speaker.store.currentState ≤ hearer.store.currentState :=
    hearing.sound.log.below_of_snapshot known
  have merged : speaker.store.currentState.mergeAll (Snapshot.updatesOf
      (hearer.told speaker.store.currentState hearer.store.currentState)) =
        speaker.store.currentState ⊔ hearer.store.currentState := by
    rw [updatesOf_told]
    exact Snapshot.mergeAll_updatesOf_diff (le_refl _)
  have whole := hearing.fits_told (fun _ => speaking.fits.of_mem_currentState)
    (fun _ => hearing.fits.of_mem_currentState)
  have short := (length_told_le hearer _ _).trans few
  obtain ⟨after, state⟩ := (speaking.said (clock 0)).take_advertReply (clock 5) hearer.core
    ((SyncName.advertise speaker.core.root).toName group) whole short (merged ▸ joined)
  rw [speaking.advertise_eq]
  simp only [hearing.hear_known away known, findSome?_awaited_reply]
  exact ⟨after, hearing, (sup_eq_right.mpr below).symm, Or.inr (state.trans merged)⟩

/-- The full state of a peer fits into a message and takes another peer to the join. -/
theorem Ready.full_state (giving : speaker.Ready group seen) (hearer : Peer)
    (few : (speaker.store.currentState ⊔ hearer.store.currentState).size ≤ maxStates) :
    (∀ record ∈ speaker.told Snapshot.empty speaker.store.currentState, record.Fits) ∧
      (speaker.told Snapshot.empty speaker.store.currentState).length ≤ maxStates ∧
      hearer.store.currentState.mergeAll
          (Snapshot.updatesOf (speaker.told Snapshot.empty speaker.store.currentState)) =
        speaker.store.currentState ⊔ hearer.store.currentState := by
  refine ⟨?_, ?_, ?_⟩
  · apply giving.fits_told
    · intro entry member
      cases member
    · exact fun _ => giving.fits.of_mem_currentState
  · apply (length_told_le speaker _ _).trans
    apply le_trans _ few
    rw [sup_eq_right.mpr (Snapshot.empty_le _)]
    exact Snapshot.size_le_of_le le_sup_left
  · rw [updatesOf_told, sup_comm]
    exact Snapshot.mergeAll_updatesOf_diff (Snapshot.empty_le _)

/-- A recovery that is under way takes the asker to the join. -/
theorem Meeting.recover (meeting : Meeting group seen speaker hearer)
    (away : speaker.core.root ≠ hearer.core.root)
    (unknown : hearer.store.snapshot speaker.core.root = none) (clock : Nat → Instant) :
    let asker : Peer := ⟨{ hearer.core with recoveries := [speaker.core.root] }, hearer.store⟩
    let left := asker.recover speaker speaker.core.root clock
    left.1.Ready group seen ∧
      left.1.store.currentState = speaker.store.currentState ⊔ hearer.store.currentState ∧
      left.2 = speaker := by
  intro asker
  obtain ⟨giving, asking, blank, distinct, joined, few⟩ := meeting
  obtain ⟨whole, short, merged⟩ := giving.full_state hearer few
  have asks : asker.handle (clock 2) (.recoverDue speaker.core.root) =
      (asker, [.ask (.recover speaker.core.root)
        (asker.core.interestOf (.recover speaker.core.root))]) :=
    handle_recoverDue asking.sound.running away unknown
  have name : (asker.core.interestOf (.recover speaker.core.root)).name =
      (SyncName.recover speaker.core.root).toName group := by
    rw [← asking.sound.group_eq]
    rfl
  have known : speaker.store.snapshot speaker.core.root = some speaker.store.currentState :=
    MemoryStore.snapshot_of_find? giving.sound.kept
  have origin := giving.sound.snapshot_origin blank distinct
  obtain ⟨recovered, state⟩ := asking.take_recoverReply (clock 4) speaker.core.root speaker.core
    ((SyncName.recover speaker.core.root).toName group) whole short (merged ▸ joined)
  unfold Peer.recover
  rw [asks]
  simp only [List.findSome?_cons, SyncAction.asked?, name, giving.hear_recover known origin]
  exact ⟨recovered, state.trans merged, trivial⟩

/-- An unknown root is recovered from the speaker's full state. -/
theorem Meeting.advertise_unknown (meeting : Meeting group seen speaker hearer)
    (away : speaker.core.root ≠ hearer.core.root)
    (unknown : hearer.store.snapshot speaker.core.root = none) (clock : Nat → Instant) :
    Joined group seen speaker hearer (speaker.advertise hearer clock) := by
  have said := meeting.said (clock 0)
  obtain ⟨recovered, state, same⟩ := said.recover away unknown clock
  obtain ⟨after, kept⟩ := said.speaking.expire (clock 5)
  have kept : (handle _ (clock 5) (.advertReply none)).1.store.currentState =
      speaker.store.currentState := kept
  rw [← same] at after kept
  rw [meeting.speaking.advertise_eq]
  simp only [meeting.hearing.hear_unknown away unknown, List.findSome?_cons, SyncAction.awaited?,
    SyncAction.answer?, List.findSome?_nil]
  exact ⟨after, recovered, state, Or.inl kept⟩

/-- Whatever the hearer knows, it has the join of the states in the end. -/
theorem Meeting.advertise (meeting : Meeting group seen speaker hearer) (clock : Nat → Instant) :
    Joined group seen speaker hearer (speaker.advertise hearer clock) := by
  by_cases same : speaker.core.root = hearer.core.root
  · exact meeting.advertise_root same clock
  · cases found : hearer.store.snapshot speaker.core.root with
    | some old => exact meeting.advertise_known same found clock
    | none => exact meeting.advertise_unknown same found clock

/-! ## Both advertisements -/

/-- The two peers that an advertisement leaves join to what the two before it did. -/
theorem Joined.sup_eq {left : Peer × Peer} (joined : Joined group seen speaker hearer left) :
    left.2.store.currentState ⊔ left.1.store.currentState =
      speaker.store.currentState ⊔ hearer.store.currentState := by
  rw [joined.hearer_eq]
  rcases joined.speaker_eq with same | same
  · rw [same, sup_eq_left]
    exact le_sup_left
  · rw [same, sup_idem]

/-- The two peers that an advertisement leaves can meet again, with their parts exchanged. -/
theorem Meeting.turn (meeting : Meeting group seen speaker hearer) {left : Peer × Peer}
    (joined : Joined group seen speaker hearer left) : Meeting group seen left.2 left.1 where
  speaking := joined.hearing
  hearing := joined.speaking
  blank := meeting.blank
  distinct := meeting.distinct
  joined := by
    rw [joined.sup_eq]
    exact meeting.joined
  few := by
    rw [joined.sup_eq]
    exact meeting.few

/-- After both advertisements, both peers have the join of the states and its digest. -/
theorem Meeting.advertise_both (meeting : Meeting group seen speaker hearer)
    (clock later : Nat → Instant) :
    let first := speaker.advertise hearer clock
    let second := first.2.advertise first.1 later
    second.1.store.currentState = speaker.store.currentState ⊔ hearer.store.currentState ∧
      second.2.store.currentState = speaker.store.currentState ⊔ hearer.store.currentState ∧
      second.1.core.root = second.2.core.root := by
  intro first second
  have heard : Joined group seen speaker hearer first := meeting.advertise clock
  have back : Joined group seen first.2 first.1 second := (meeting.turn heard).advertise later
  have there : second.2.store.currentState =
      speaker.store.currentState ⊔ hearer.store.currentState :=
    back.hearer_eq.trans heard.sup_eq
  have here : second.1.store.currentState =
      speaker.store.currentState ⊔ hearer.store.currentState := by
    rcases back.speaker_eq with kept | raised
    · exact kept.trans heard.hearer_eq
    · exact raised.trans heard.sup_eq
  refine ⟨here, there, ?_⟩
  rw [back.speaking.sound.root_eq, back.hearing.sound.root_eq, here, there]

theorem recoveries_of_idle {core : SyncCore} (rest : core.phase = .idle) :
    core.recoveries = [] := by
  unfold SyncCore.phase at rest
  split at rest
  · cases rest
  · rename_i bare
    simpa using bare

/-- Two peers of a group that are at rest, wherever their runs have taken them, converge once
each has heard the other's advertisement to the end: both have the higher number of every
device, and the same root.  It is assumed that no two of the states that occur have the
same digest, that the devices of both fit into a message, and that 64 bits can tell the
lengths of all names. -/
theorem converge {device other : DeviceId} {config configOther : SyncConfig}
    (group : config.group = configOther.group) {start startOther : Instant}
    {inputs inputsOther : List (Instant × PeerInput)} {peer peerOther : Peer}
    (reached : peer = (spawn device config start).run inputs)
    (reachedOther : peerOther = (spawn other configOther startOther).run inputsOther)
    (rest : peer.core.phase = .idle) (restOther : peerOther.core.phase = .idle)
    (fits : peer.store.Fits) (fitsOther : peerOther.store.Fits)
    (few : (peer.store.currentState ⊔ peerOther.store.currentState).size ≤ maxStates)
    (distinct : Set.InjOn Snapshot.digest
      {state | state ∈ peer.store.currentState ⊔ peerOther.store.currentState ::
        ((spawn device config start).states inputs ++
          (spawn other configOther startOther).states inputsOther)})
    (clock later : Nat → Instant) :
    let first := peer.advertise peerOther clock
    let second := first.2.advertise first.1 later
    (∀ device, second.1.store.currentState.seqOf device =
        max (peer.store.currentState.seqOf device) (peerOther.store.currentState.seqOf device)) ∧
      (∀ device, second.2.store.currentState.seqOf device =
        max (peer.store.currentState.seqOf device) (peerOther.store.currentState.seqOf device)) ∧
      second.1.core.root = second.2.core.root := by
  intro first second
  have blank : Snapshot.empty ∈ peer.store.currentState ⊔ peerOther.store.currentState ::
      ((spawn device config start).states inputs ++
        (spawn other configOther startOther).states inputsOther) :=
    List.mem_cons_of_mem _ (List.mem_append_left _ (current_mem_states _ inputs))
  have here : peer.Ready config.group _ :=
    { sound := by
        rw [reached]
        exact (sound_spawn device config start blank).run fun state member =>
          List.mem_cons_of_mem _ (List.mem_append_left _ member)
      idle := recoveries_of_idle rest
      fits }
  have there : peerOther.Ready config.group _ :=
    { sound := by
        rw [reachedOther, group]
        exact (sound_spawn other configOther startOther blank).run fun state member =>
          List.mem_cons_of_mem _ (List.mem_append_right _ member)
      idle := recoveries_of_idle restOther
      fits := fitsOther }
  have meeting : Meeting config.group _ peer peerOther :=
    ⟨here, there, blank, distinct, List.mem_cons_self, few⟩
  obtain ⟨left, right, roots⟩ := meeting.advertise_both clock later
  refine ⟨?_, ?_, roots⟩
  · intro device
    rw [left, Snapshot.seqOf_sup]
  · intro device
    rw [right, Snapshot.seqOf_sup]

/-- The inputs of a device that publishes a number and advertises it in vain. -/
def publishing (seq : Seq) : List (Instant × PeerInput) :=
  [(1, .publish seq), (2, .event .advertDue), (3, .event (.advertReply none))]

/-- Two devices that have not heard of each other. -/
def strangers : Peer × Peer :=
  ((spawn ⟨.ofTexts ["a"]⟩ .standard 0).run (publishing 5),
    (spawn ⟨.ofTexts ["b"]⟩ .standard 0).run (publishing 3))

/-- The states that occur with the two, their join among them. -/
def strangerStates : List Snapshot :=
  strangers.1.store.currentState ⊔ strangers.2.store.currentState ::
    ((spawn ⟨.ofTexts ["a"]⟩ .standard 0).states (publishing 5) ++
      (spawn ⟨.ofTexts ["b"]⟩ .standard 0).states (publishing 3))

/-- Two strangers get to know each other's numbers. -/
theorem converge_strangers :
    let first := strangers.1.advertise strangers.2 id
    let second := first.2.advertise first.1 id
    second.1.store.currentState.seqOf ⟨.ofTexts ["a"]⟩ = 5 ∧
      second.2.store.currentState.seqOf ⟨.ofTexts ["b"]⟩ = 3 ∧
      second.1.core.root = second.2.core.root := by
  have reached : strangers.1 = (spawn ⟨.ofTexts ["a"]⟩ .standard 0).run (publishing 5) := by
    rw [strangers]
  have reachedOther : strangers.2 = (spawn ⟨.ofTexts ["b"]⟩ .standard 0).run (publishing 3) := by
    rw [strangers]
  have rest : strangers.1.core.phase = .idle := by decide +kernel
  have restOther : strangers.2.core.phase = .idle := by decide +kernel
  have fits : strangers.1.store.Fits := ⟨by decide +kernel, by decide +kernel⟩
  have fitsOther : strangers.2.store.Fits := ⟨by decide +kernel, by decide +kernel⟩
  have few : (strangers.1.store.currentState ⊔ strangers.2.store.currentState).size ≤
      maxStates := by decide +kernel
  have distinct : ∀ state ∈ strangerStates, ∀ same ∈ strangerStates,
      state.digest = same.digest → state = same := by decide +kernel
  have told := converge rfl reached reachedOther rest restOther fits fitsOther few
    (fun state here same there => distinct state here same there) id id
  have high : max (strangers.1.store.currentState.seqOf ⟨.ofTexts ["a"]⟩)
      (strangers.2.store.currentState.seqOf ⟨.ofTexts ["a"]⟩) = 5 := by decide +kernel
  have low : max (strangers.1.store.currentState.seqOf ⟨.ofTexts ["b"]⟩)
      (strangers.2.store.currentState.seqOf ⟨.ofTexts ["b"]⟩) = 3 := by decide +kernel
  exact ⟨(told.1 _).trans high, (told.2.1 _).trans low, told.2.2⟩

end Peer

end DigestSync
