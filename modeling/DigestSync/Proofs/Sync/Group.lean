import DigestSync.Proofs.Sync.Message
import DigestSync.Proofs.Sync.Tidings
import DigestSync.Sync.Group

set_option autoImplicit false

/-! # No number is invented

All data that a core puts on the network tell differences between states of its log.  So if
its log and all that it hears keep below some bounds, then so do the log that it is left
with and all that it tells.  The bounds that matter are the largest numbers that the devices
have published themselves.
-/

namespace DigestSync

open scoped SeqOrder

/-! ## What is told -/

/-- All data that the turn puts on the network tell a difference that its log knows. -/
def SyncTurn.Grounded (turn : SyncTurn) : Prop :=
  ∀ data ∈ turn.told, ∃ old new records,
    turn.volume.findDifferences old new false = .ok records ∧
      data.content = (StateMessage.ofStates records).encode

namespace SyncCore

variable {core : SyncCore}

theorem grounded_of_told_nil {turn : SyncTurn} (silent : turn.told = []) : turn.Grounded := by
  intro data member
  rw [silent] at member
  cases member

/-- A reply with a known difference is grounded. -/
theorem grounded_reply {volume : Volume} {old new : Digest} {records : List DeltaRecord}
    (found : volume.findDifferences old new false = .ok records) (speaker next : SyncCore)
    (name : Name) : (SyncTurn.mk next volume (speaker.reply name records)).Grounded := by
  intro data member
  refine ⟨old, new, records, found, ?_⟩
  unfold SyncTurn.told reply at member
  dsimp only at member
  split at member
  · cases member
  · cases List.mem_singleton.mp member
    rfl

theorem grounded_onAdvertisement (volume : Volume) (name : Name) (digest : Digest) :
    (SyncTurn.mk (core.onAdvertisement volume name digest).1 volume
      (core.onAdvertisement volume name digest).2).Grounded := by
  unfold onAdvertisement
  split
  · exact grounded_of_told_nil rfl
  · split
    · exact grounded_of_told_nil rfl
    · unfold planRecovery
      split <;> exact grounded_of_told_nil rfl
    · split
      · exact grounded_of_told_nil rfl
      · rename_i found
        exact grounded_reply found core core name

theorem grounded_onInterest (volume : Volume) (name : Name) :
    (core.onInterest volume name).Grounded := by
  unfold onInterest
  split
  · exact grounded_of_told_nil rfl
  · exact grounded_onAdvertisement volume name _
  · unfold onRecoveryRequest
    split
    · split
      · rename_i found
        exact grounded_reply found core core name
      · exact grounded_of_told_nil rfl
    · exact grounded_of_told_nil rfl

theorem told_onAnswer (volume : Volume) (now : Instant) (answer : Option Data) :
    (core.onAnswer volume now answer).told = [] := by
  unfold onAnswer
  split
  · split
    · rfl
    · unfold noteMerge
      split
      · rfl
      · split
        · rfl
        · split
          · rfl
          · dsimp only [SyncTurn.told]
            split <;> rfl
  · rfl

theorem told_onRecoverDue (volume : Volume) (digest : Digest) :
    (SyncTurn.mk (core.onRecoverDue volume digest).1 volume
      (core.onRecoverDue volume digest).2).told = [] := by
  unfold onRecoverDue
  split
  · rfl
  · split <;> rfl

theorem grounded_noteChange (volume : Volume) (now : Instant) :
    (core.noteChange volume now).2.Grounded := by
  unfold noteChange
  split
  · exact grounded_of_told_nil rfl
  · dsimp only
    split
    · exact grounded_of_told_nil rfl
    · split
      · exact grounded_of_told_nil rfl
      · rename_i found
        exact grounded_reply found core _ _

theorem grounded_publish (volume : Volume) (now : Instant) (seq : Seq) :
    (core.publish volume now seq).2.Grounded := by
  unfold publish
  split
  · exact grounded_of_told_nil rfl
  · exact grounded_noteChange _ now

theorem grounded_handle (volume : Volume) (now : Instant) (event : SyncEvent) :
    (core.handle volume now event).Grounded := by
  unfold handle
  split
  · cases event with
    | interest name => exact grounded_onInterest volume name
    | advertDue => exact grounded_of_told_nil rfl
    | advertReply answer => exact grounded_of_told_nil (told_onAnswer _ _ _)
    | recoverDue digest => exact grounded_of_told_nil (told_onRecoverDue volume digest)
    | recoverReply digest answer => exact grounded_of_told_nil (told_onAnswer _ _ _)
  · exact grounded_of_told_nil rfl

end SyncCore

theorem Peer.grounded_turn (peer : Peer) (now : Instant) (input : PeerInput) :
    (peer.turn now input).Grounded := by
  cases input with
  | event event => exact SyncCore.grounded_handle _ now event
  | publish seq => exact SyncCore.grounded_publish _ now seq
  | noteChange => exact SyncCore.grounded_noteChange _ now

/-! ## Bounds -/

variable {bound : DeviceId → Seq}

/-- The record can be sent, and a number that it tells keeps below the bound. -/
structure DeltaRecord.Within (bound : DeviceId → Seq) (record : DeltaRecord) : Prop where
  fits : record.Fits
  upto : record.kind = .update → record.seq ≤ bound record.device

/-- The data were sent with records within the bounds. -/
def Data.Within (bound : DeviceId → Seq) (data : Data) : Prop :=
  ∃ records, data.content = (StateMessage.ofStates records).encode ∧
    ∀ record ∈ records, record.Within bound

/-- Whoever takes such data finds records within the bounds. -/
theorem Data.Within.of_decode {data : Data} (within : data.Within bound) {message : StateMessage}
    (read : StateMessage.decode data.content = .ok message) :
    ∀ record ∈ message.states, record.Within bound := by
  obtain ⟨records, content, inside⟩ := within
  rw [content] at read
  intro record member
  exact inside record
    (StateMessage.subset_of_decode (fun record there => (inside record there).fits) read member)

/-- Whoever takes the tiding of a device finds nothing but records and numbers within the
bounds. -/
def Tiding.Within (bound : DeviceId → Seq) (own : DeviceId) : Tiding → Prop
  | .answer content => ∀ message, StateMessage.decode content = .ok message →
      ∀ record ∈ message.states, record.Within bound
  | .published seq => seq ≤ bound own

theorem Tiding.Within.le_of_tells {own device : DeviceId} {tiding : Tiding} {seq : Seq}
    (within : tiding.Within bound own) (tells : tiding.Tells own device seq) :
    seq ≤ bound device := by
  cases tells with
  | update read listed kind => exact (within _ read _ listed).upto kind
  | publish seq => exact within

/-- An input brings a tiding within the bounds if its answer and its number are. -/
theorem PeerInput.within_tiding {own : DeviceId} {input : PeerInput}
    (heard : ∀ data ∈ input.answer?, data.Within bound)
    (given : ∀ seq, input = .publish seq → seq ≤ bound own) :
    ∀ tiding ∈ input.tiding?, tiding.Within bound own := by
  intro tiding brought
  cases input with
  | event event =>
    obtain ⟨data, answer, rfl⟩ := Option.map_eq_some_iff.mp brought
    exact fun message read => (heard data answer).of_decode read
  | publish seq =>
    cases brought
    exact given seq rfl
  | noteChange => cases brought

namespace MemoryStore

variable {store : MemoryStore}

/-- Both states of a known difference are found in the log. -/
theorem exists_of_findDifferences {old new : Digest} {includeOld : Bool}
    {records : List DeltaRecord}
    (found : store.findDifferences old new includeOld = .ok records) :
    ∃ before after, store.snapshot old = some before ∧ store.snapshot new = some after ∧
      records = (before.diff after includeOld).map fun record =>
        { record with locator := store.locator record.device } := by
  unfold findDifferences at found
  split at found
  · cases found
  · split at found
    · cases found
    · cases found
      exact ⟨_, _, ‹_›, ‹_›, rfl⟩

/-- A known difference is within the bounds of the log that knows it. -/
theorem within_of_findDifferences (log : store.LogSound) (fits : store.Fits)
    (upto : ∀ device, store.currentState.seqOf device ≤ bound device) {old new : Digest}
    {includeOld : Bool} {records : List DeltaRecord}
    (found : store.findDifferences old new includeOld = .ok records) :
    ∀ record ∈ records, record.Within bound := by
  obtain ⟨before, after, first, last, rfl⟩ := exists_of_findDifferences found
  have listed : ∀ {state : Snapshot} {digest : Digest}, store.snapshot digest = some state →
      ∀ entry ∈ state.entries, entry.1.name.Fits ∧ entry.2 ≤ bound entry.1 := by
    intro state digest known entry member
    have below : state ≤ store.currentState := log.below_of_snapshot known
    have number : state.seqOf entry.1 = entry.2 := Snapshot.seqOf_of_mem member
    obtain ⟨present, there, same⟩ := List.mem_map.mp
      (Snapshot.device_mem_of_le below (List.mem_map_of_mem member))
    exact ⟨same ▸ fits.of_mem_currentState there, number ▸ (below entry.1).trans (upto entry.1)⟩
  intro record member
  obtain ⟨bare, inside, rfl⟩ := List.mem_map.mp member
  have place : ∀ locator ∈ store.locator bare.device, locator.Fits :=
    fun locator there => fits.of_locator there
  rcases Snapshot.mem_diff.mp inside with ⟨come, there, -, rfl⟩ | ⟨gone, there, -, rfl⟩
  · exact ⟨⟨(listed last come there).1, place⟩, fun _ => (listed last come there).2⟩
  · refine ⟨⟨(listed first gone there).1, place⟩, ?_⟩
    rintro ⟨⟩

theorem Fits.hear (fits : store.Fits) {own : DeviceId} (device : own.name.Fits)
    {tiding? : Option Tiding} (within : ∀ tiding ∈ tiding?, tiding.Within bound own) :
    (store.hear own tiding?).Fits := by
  cases tiding? with
  | none => exact fits
  | some tiding =>
    cases tiding with
    | answer content =>
      simp only [MemoryStore.hear]
      split
      · rename_i message read
        exact fits.takeRecords fun record member => (within _ rfl message read record member).fits
      · exact fits
    | published seq => exact fits.updateDeviceSeq device seq

/-- A log takes a tiding within the bounds without leaving them. -/
theorem seqOf_hear_le (upto : ∀ device, store.currentState.seqOf device ≤ bound device)
    {own : DeviceId} {tiding? : Option Tiding}
    (within : ∀ tiding ∈ tiding?, tiding.Within bound own) (device : DeviceId) :
    (store.hear own tiding?).currentState.seqOf device ≤ bound device := by
  rw [currentState_hear]
  rcases (Snapshot.isGreatest_seqOf_mergeAll store.currentState
    ((tiding?.map (Tiding.entries own)).getD []) device).1 with former | told
  · exact former ▸ upto device
  · cases tiding? with
    | none => cases told
    | some tiding => exact (within tiding rfl).le_of_tells (Tiding.mem_entries_iff.mp told)

end MemoryStore

/-! ## Peers -/

namespace Peer

/-- The log is sound, and all its numbers keep below the bounds. -/
structure Within (bound : DeviceId → Seq) (peer : Peer) : Prop where
  rooted : peer.Rooted
  log : peer.store.LogSound
  fits : peer.store.Fits
  own : peer.core.device.name.Fits
  upto : ∀ device, peer.store.currentState.seqOf device ≤ bound device

variable {peer : Peer}

theorem within_spawn {device : DeviceId} (own : device.name.Fits) (config : SyncConfig)
    (now : Instant) : (spawn device config now).Within bound where
  rooted := rooted_resume .empty device config now
  log := MemoryStore.logSound_empty.remember
  fits := ⟨nofun, nofun⟩
  own := own
  upto _ := Snapshot.zero_le_seq _

theorem Within.advance {tiding? : Option Tiding} {turn : SyncTurn} (within : peer.Within bound)
    (advances : peer.Advances tiding? turn)
    (heard : ∀ tiding ∈ tiding?, tiding.Within bound peer.core.device) :
    (ofTurn turn).Within bound := by
  have own : (ofTurn turn).core.device = peer.core.device := advances.device
  have fits : (peer.store.hear peer.core.device tiding?).Fits :=
    within.fits.hear within.own heard
  have upto := MemoryStore.seqOf_hear_le within.upto heard
  have log : (peer.store.hear peer.core.device tiding?).LogSound := by
    apply within.log.rise (MemoryStore.digests_hear _ _ _)
    rw [MemoryStore.currentState_hear]
    exact Snapshot.le_mergeAll _ _
  refine ⟨advances.rooted, ?_, ?_, own ▸ within.own, ?_⟩ <;>
    rcases advances.store_eq with kept | remembered
  · exact (congrArg MemoryStore.LogSound kept).mpr log
  · exact (congrArg MemoryStore.LogSound remembered).mpr log.remember
  · exact (congrArg MemoryStore.Fits kept).mpr fits
  · exact (congrArg MemoryStore.Fits remembered).mpr ⟨fits.devices, fits.locators⟩
  · show ∀ device, turn.volume.store.currentState.seqOf device ≤ bound device
    rw [kept]
    exact upto
  · show ∀ device, turn.volume.store.currentState.seqOf device ≤ bound device
    rw [remembered]
    exact upto

/-- If what an input brings and what it publishes are within the bounds, then so are the
peer that it leaves and all that this puts on the network. -/
theorem Within.turn (within : peer.Within bound) (now : Instant) (input : PeerInput)
    (heard : ∀ data ∈ input.answer?, data.Within bound)
    (given : ∀ seq, input = .publish seq → seq ≤ bound peer.core.device) :
    (ofTurn (peer.turn now input)).Within bound ∧
      ∀ data ∈ (peer.turn now input).told, data.Within bound := by
  have advances := within.rooted.advances_turn now input
  have after := within.advance advances (PeerInput.within_tiding heard given)
  refine ⟨after, ?_⟩
  intro data member
  obtain ⟨old, new, told, found, content⟩ := peer.grounded_turn now input data member
  rw [advances.medium, Volume.findDifferences_ofStore] at found
  exact ⟨told, content,
    MemoryStore.within_of_findDifferences after.log after.fits after.upto found⟩

end Peer

/-! ## Groups -/

namespace Group

/-- All peers and all that has been put on the network keep below the bounds, and the peers
are those of the roster. -/
structure Within (roster : List Member) (bound : DeviceId → Seq) (group : Group) : Prop where
  devices : group.peers.map (fun peer => peer.core.device) = roster.map Member.device
  peers : ∀ peer ∈ group.peers, peer.Within bound
  messages : ∀ data ∈ group.messages, data.Within bound

variable {roster : List Member} {group : Group}

theorem within_gather (fits : ∀ member ∈ roster, member.device.name.Fits) :
    (gather roster).Within roster bound where
  devices := by
    unfold gather
    rw [List.map_map]
    rfl
  peers := by
    intro peer there
    obtain ⟨member, listed, rfl⟩ := List.mem_map.mp there
    exact Peer.within_spawn (fits member listed) _ _
  messages := nofun

/-- A number that is published is one of those that the device of its peer has published. -/
theorem Within.publishedBy_eq (within : group.Within roster bound) {event : GroupEvent}
    {peer : Peer} (there : group.peers[event.place]? = some peer) {seq : Seq}
    (given : event.input = .publish seq) :
    publishedBy roster peer.core.device event = some seq := by
  have device : (roster.map Member.device)[event.place]? = some peer.core.device := by
    rw [← within.devices, List.getElem?_map, there]
    rfl
  rw [List.getElem?_map] at device
  obtain ⟨member, listed, same⟩ := Option.map_eq_some_iff.mp device
  unfold publishedBy
  rw [given, listed]
  exact if_pos same

/-- An event keeps a group within the bounds if the number that it publishes is. -/
theorem Within.step (within : group.Within roster bound) {event : GroupEvent}
    (given : ∀ device seq, publishedBy roster device event = some seq → seq ≤ bound device) :
    (group.step event).Within roster bound := by
  unfold Group.step
  split
  · exact within
  · rename_i peer there
    split
    · rename_i sent
      have heard : ∀ data ∈ event.input.answer?, data.Within bound := by
        intro data answer
        unfold brings at sent
        rw [answer] at sent
        exact within.messages data (of_decide_eq_true sent)
      have inside := within.peers peer (List.mem_of_getElem? there)
      obtain ⟨after, told⟩ := inside.turn event.now event.input heard fun seq published =>
        given _ _ (within.publishedBy_eq there published)
      constructor
      case devices =>
        have device : (Peer.ofTurn (peer.turn event.now event.input)).core.device =
            peer.core.device := (inside.rooted.advances_turn event.now event.input).device
        obtain ⟨inRange, here⟩ := List.getElem?_eq_some_iff.mp there
        subst here
        rw [← within.devices, List.map_set, device]
        have inMap : event.place < (group.peers.map fun peer => peer.core.device).length := by
          rwa [List.length_map]
        have unmoved := List.set_getElem_self inMap
        rwa [List.getElem_map] at unmoved
      case peers =>
        intro other member
        rcases List.mem_or_eq_of_mem_set member with old | rfl
        · exact within.peers other old
        · exact after
      case messages =>
        intro data member
        rcases List.mem_append.mp member with old | new
        · exact within.messages data old
        · exact told data new
    · exact within

theorem Within.run (within : group.Within roster bound) {events : List GroupEvent}
    (given : ∀ device, ∀ seq ∈ published roster events device, seq ≤ bound device) :
    (group.run events).Within roster bound := by
  induction events generalizing group with
  | nil => exact within
  | cons event rest ih =>
    apply ih (within.step _)
    · intro device seq later
      apply given
      unfold published
      rw [List.filterMap_cons]
      split
      · exact later
      · exact List.mem_cons_of_mem _ later
    · intro device seq now
      apply given
      unfold published
      rw [List.filterMap_cons, now]
      exact List.mem_cons_self

theorem le_highest {events : List GroupEvent} {device : DeviceId} {seq : Seq}
    (member : seq ∈ published roster events device) : seq ≤ highest roster events device := by
  unfold highest
  generalize published roster events device = numbers at member
  induction numbers with
  | nil => cases member
  | cons first rest ih =>
    rcases List.mem_cons.mp member with rfl | later
    · exact le_max_left _ _
    · exact (ih later).trans (le_max_right _ _)

/-- Whatever happens to the members of a group, who know nothing at the start, and whatever
becomes of what they put on the network: no member has a number of any device that is
higher than the largest one that the device's own core was given so far, and no message
says one, neither as it was sent nor as it is taken.  A device without a core, or whose core
was given nothing, is not listed by anyone.  It is assumed that 64 bits can tell the
lengths of the devices' names. -/
theorem invents_no_number (roster : List Member)
    (fits : ∀ member ∈ roster, member.device.name.Fits) (events : List GroupEvent) :
    let group := (gather roster).run events
    (∀ peer ∈ group.peers, ∀ device,
      peer.store.currentState.seqOf device ≤ highest roster events device) ∧
    (∀ data ∈ group.messages,
      (∃ records, data.content = (StateMessage.ofStates records).encode ∧
        ∀ record ∈ records, record.kind = .update →
          record.seq ≤ highest roster events record.device) ∧
      ∀ message, StateMessage.decode data.content = .ok message →
        ∀ record ∈ message.states, record.kind = .update →
          record.seq ≤ highest roster events record.device) ∧
    ∀ device, published roster events device = [] →
      ∀ peer ∈ group.peers, peer.store.currentState.get? device = none := by
  intro group
  have within : group.Within roster (highest roster events) :=
    (within_gather fits).run fun device seq member => le_highest member
  refine ⟨?_, ?_, ?_⟩
  · intro peer member
    exact (within.peers peer member).upto
  · intro data member
    have inside := within.messages data member
    constructor
    · obtain ⟨records, content, all⟩ := inside
      exact ⟨records, content, fun record there => (all record there).upto⟩
    · exact fun message read record there => (inside.of_decode read record there).upto
  · intro device nothing peer member
    have upto := (within.peers peer member).upto device
    have zero : highest roster events device = 0 := by
      unfold highest
      rw [nothing]
      rfl
    rw [zero] at upto
    rw [Snapshot.get?_eq, if_pos (le_antisymm upto (Snapshot.zero_le_seq _))]

/-- Two devices. -/
def pair : List Member := [⟨⟨.ofTexts ["a"]⟩, .standard, 0⟩, ⟨⟨.ofTexts ["b"]⟩, .standard, 0⟩]

/-- The first one publishes a number. -/
def announcement : List GroupEvent := [⟨0, 1, .publish 5⟩]

/-- What it then says reaches the second one. -/
def hearing : List GroupEvent :=
  ((gather pair).run announcement).messages.map fun data =>
    ⟨1, 2, .event (.advertReply (some data))⟩

/-- Both know the number, and neither knows a higher one. -/
theorem invents_no_number_pair :
    ((gather pair).run (announcement ++ hearing)).peers.map (fun peer =>
        peer.store.currentState.seqOf ⟨.ofTexts ["a"]⟩) = [5, 5] ∧
      ∀ peer ∈ ((gather pair).run (announcement ++ hearing)).peers,
        peer.store.currentState.seqOf ⟨.ofTexts ["a"]⟩ ≤ 5 := by
  have fits : ∀ member ∈ pair, member.device.name.Fits := by decide +kernel
  have known : ((gather pair).run (announcement ++ hearing)).peers.map (fun peer =>
      peer.store.currentState.seqOf ⟨.ofTexts ["a"]⟩) = [5, 5] := by decide +kernel
  have top : highest pair (announcement ++ hearing) ⟨.ofTexts ["a"]⟩ = 5 := by decide +kernel
  refine ⟨known, ?_⟩
  intro peer member
  rw [← top]
  exact (invents_no_number pair fits (announcement ++ hearing)).1 peer member _

end Group

end DigestSync
