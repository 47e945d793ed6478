import DigestSync.Proofs.Sync.Advance
import DigestSync.Sync.Timing

set_option autoImplicit false

/-! # Changes put an advertisement off

Whenever a peer advertises, it sets its timer anew.  What its device tells of a change sets
the timer as well, be it to a later time than before; so each time it does, it puts the next
advertisement off by up to the delay for local changes.  The interval between two
advertisements has no bound but this one.
-/

namespace DigestSync

namespace SyncCore

variable {core : SyncCore} {volume : Volume} {now : Instant}

/-- What a turn does to the timer: it is set to the end of the interval if the core
advertises; else it may be set to the end of the delay if there was word of a change, and is
left alone if not. -/
inductive Clocked (core : SyncCore) (now : Instant) (change : Bool) (turn : SyncTurn) : Prop where
  | advert (out : turn.actions.any SyncAction.isAdvert = true)
      (next : turn.core.nextAdvert = now + core.config.effectiveInterval)
  | kept (quiet : turn.actions.any SyncAction.isAdvert = false)
      (next : turn.core.nextAdvert = core.nextAdvert)
  | delayed (told : change = true) (quiet : turn.actions.any SyncAction.isAdvert = false)
      (next : turn.core.nextAdvert = now + core.config.localChangeDelay)

theorem quiet_reply (name : Name) (records : List DeltaRecord) :
    (core.reply name records).any SyncAction.isAdvert = false := by
  unfold reply
  split <;> rfl

theorem clocked_onAdvertisement (name : Name) (digest : Digest) :
    core.Clocked now false ⟨(core.onAdvertisement volume name digest).1, volume,
      (core.onAdvertisement volume name digest).2⟩ := by
  unfold onAdvertisement planRecovery
  split
  · exact .kept rfl rfl
  · split
    · exact .kept rfl rfl
    · split <;> exact .kept rfl rfl
    · split
      · exact .kept rfl rfl
      · exact .kept (quiet_reply name _) rfl

theorem clocked_onInterest (name : Name) : core.Clocked now false (core.onInterest volume name) := by
  unfold onInterest
  split
  · exact .kept rfl rfl
  · exact clocked_onAdvertisement name _
  · refine .kept ?_ rfl
    unfold onRecoveryRequest
    split
    · split
      · exact quiet_reply name _
      · rfl
    · rfl

theorem clocked_noteMerge : core.Clocked now false (core.noteMerge volume now) := by
  unfold noteMerge
  split
  · exact .kept rfl rfl
  · split
    · exact .kept rfl rfl
    · split
      · exact .kept rfl rfl
      · rename_i delta _
        cases delta <;> exact .advert rfl rfl

theorem clocked_onAnswer (answer : Option Data) :
    core.Clocked now false (core.onAnswer volume now answer) := by
  unfold onAnswer
  split
  · split
    · exact .kept rfl rfl
    · exact clocked_noteMerge
  · exact .kept rfl rfl

theorem clocked_onRecoverDue (digest : Digest) :
    core.Clocked now false ⟨(core.onRecoverDue volume digest).1, volume,
      (core.onRecoverDue volume digest).2⟩ := by
  unfold onRecoverDue
  split
  · exact .kept rfl rfl
  · split <;> exact .kept rfl rfl

/-- No event touches the timer without an advertisement. -/
theorem clocked_handle (event : SyncEvent) : core.Clocked now false (core.handle volume now event) := by
  unfold handle
  split
  · cases event with
    | interest name => exact clocked_onInterest name
    | advertDue => exact .advert rfl rfl
    | advertReply answer =>
      have clocked : Clocked { core with advertsInFlight := core.advertsInFlight - 1 } now false
          (onAnswer { core with advertsInFlight := core.advertsInFlight - 1 } volume now answer) :=
        clocked_onAnswer answer
      cases clocked with
      | advert out next => exact .advert out next
      | kept quiet next => exact .kept quiet next
      | delayed told => cases told
    | recoverDue digest => exact clocked_onRecoverDue digest
    | recoverReply digest answer =>
      have clocked : (core.dropRecovery digest).Clocked now false
          ((core.dropRecovery digest).onAnswer volume now answer) := clocked_onAnswer answer
      cases clocked with
      | advert out next => exact .advert out next
      | kept quiet next => exact .kept quiet next
      | delayed told => cases told
  · exact .kept rfl rfl

theorem clocked_noteChange : core.Clocked now true (core.noteChange volume now).2 := by
  unfold noteChange
  split
  · exact .kept rfl rfl
  · dsimp only
    split
    · exact .delayed rfl rfl rfl
    · split
      · exact .kept rfl rfl
      · exact .delayed rfl (quiet_reply _ _) rfl

theorem clocked_publish (seq : Seq) : core.Clocked now true (core.publish volume now seq).2 := by
  unfold publish
  split
  · exact .kept rfl rfl
  · exact clocked_noteChange

end SyncCore

namespace Peer

variable {peer : Peer} {now last : Instant}

theorem config_react (peer : Peer) (now : Instant) (input : PeerInput) :
    (peer.react now input).core.config = peer.core.config := by
  rw [react_eq]
  exact (peer.steady_turn now input).config

theorem config_undergoAll (peer : Peer) (events : List PeerEvent) :
    (peer.undergoAll events).core.config = peer.core.config := by
  induction events generalizing peer with
  | nil => rfl
  | cons event rest ih =>
    refine (ih (peer.undergo event)).trans ?_
    cases event with
    | input now input => exact peer.config_react now input
    | call call => rfl

theorem clocked_turn (peer : Peer) (now : Instant) (input : PeerInput) :
    peer.core.Clocked now input.tellsOfChange (peer.turn now input) := by
  cases input with
  | event event => exact SyncCore.clocked_handle event
  | publish seq => exact SyncCore.clocked_publish seq
  | noteChange => exact SyncCore.clocked_noteChange

/-- A peer that advertises sets its timer to the end of the interval. -/
theorem nextAdvert_of_advertises {input : PeerInput} (out : peer.advertises now input = true) :
    (peer.react now input).core.nextAdvert = now + peer.core.config.effectiveInterval := by
  rw [react_eq]
  cases peer.clocked_turn now input with
  | advert _ next => exact next
  | kept quiet _ => exact absurd (out.symm.trans quiet) (by decide)
  | delayed _ quiet _ => exact absurd (out.symm.trans quiet) (by decide)

/-- Without an advertisement, the timer is put off by the delay at most, and only by word of
a change. -/
theorem nextAdvert_le_of_quiet {input : PeerInput} (quiet : ¬ peer.advertises now input = true)
    (early : now ≤ peer.core.nextAdvert) :
    (peer.react now input).core.nextAdvert ≤ peer.core.nextAdvert +
      (if input.tellsOfChange = true then 1 else 0) * peer.core.config.localChangeDelay := by
  rw [react_eq]
  cases peer.clocked_turn now input with
  | advert out _ => exact absurd out quiet
  | kept _ next => exact next.trans_le (Nat.le_add_right _ _)
  | delayed told _ next =>
    refine next.trans_le ?_
    rw [if_pos told, Nat.one_mul]
    exact Nat.add_le_add_right early _

/-- As long as a peer does not advertise, nothing happens to it later than its timer, put off
once for each word of a change. -/
theorem Punctual.le_of_quiet {between late : List PeerEvent} {due : Instant} {input : PeerInput}
    (punctual : peer.Punctual last (between ++ .input due input :: late))
    (quiet : peer.advertTimes between = []) :
    due ≤ peer.core.nextAdvert +
      between.countP PeerEvent.tellsOfChange * peer.core.config.localChangeDelay := by
  induction between generalizing peer last with
  | nil => exact punctual.2.1.trans (Nat.le_add_right _ _)
  | cons event rest ih =>
    cases event with
    | call call =>
      have later : (peer.undergo (.call call)).Punctual last (rest ++ _) := punctual
      have bound := ih later quiet
      rwa [List.countP_cons_of_neg Bool.false_ne_true]
    | input now told =>
      obtain ⟨-, early, -, later⟩ := punctual
      rw [advertTimes] at quiet
      split at quiet
      · cases quiet
      · rename_i silent
        have step := nextAdvert_le_of_quiet silent early
        have rest_le := ih later quiet
        rw [config_react] at rest_le
        rw [List.countP_cons, Nat.add_mul, Nat.add_comm (_ * _), ← Nat.add_assoc]
        exact rest_le.trans (Nat.add_le_add_right step _)

theorem Punctual.drop {early late : List PeerEvent} (punctual : peer.Punctual last (early ++ late)) :
    ∃ since, (peer.undergoAll early).Punctual since late := by
  induction early generalizing peer last with
  | nil => exact ⟨last, punctual⟩
  | cons event rest ih =>
    cases event with
    | input now input => exact ih punctual.2.2.2
    | call call =>
      have later : (peer.undergo (.call call)).Punctual last _ := punctual
      exact ih later

/-! ## The worst case -/

/-- Word of a change at the very time of each advertisement puts it off, some times over;
then the peer advertises. -/
def pestering (delay : Duration) (due : Instant) : Nat → List PeerEvent
  | 0 => []
  | count + 1 => .input due .noteChange :: pestering delay (due + delay) count

theorem length_pestering (delay : Duration) (due : Instant) (count : Nat) :
    (pestering delay due count).length = count := by
  induction count generalizing due with
  | zero => rfl
  | succ count ih => exact congrArg Nat.succ (ih (due + delay))

theorem tellsOfChange_pestering (delay : Duration) (due : Instant) (count : Nat) :
    ∀ event ∈ pestering delay due count, event.tellsOfChange = true := by
  induction count generalizing due with
  | zero => nofun
  | succ count ih => exact List.forall_mem_cons.mpr ⟨rfl, ih (due + delay)⟩

theorem Rooted.turn_noteChange (rooted : peer.Rooted) (now : Instant) :
    peer.turn now .noteChange =
      ⟨{ peer.core with nextAdvert := now + peer.core.config.localChangeDelay },
        .ofStore peer.store.rememberState.2, []⟩ := by
  have same : peer.store.rememberState.1 = peer.core.root := rooted.root_eq.symm
  unfold turn SyncCore.noteChange
  simp only [Volume.rememberState_ofStore, same, if_true]

/-- Word that the state has changed puts the timer off even if it has not. -/
theorem Rooted.nextAdvert_noteChange (rooted : peer.Rooted) (now : Instant) :
    peer.advertises now .noteChange = false ∧
      (peer.react now .noteChange).core.nextAdvert =
        now + peer.core.config.localChangeDelay := by
  rw [react_eq]
  unfold advertises
  rw [rooted.turn_noteChange]
  exact ⟨rfl, rfl⟩

theorem Rooted.advertises_advertDue (rooted : peer.Rooted) (now : Instant) :
    peer.advertises now (.event .advertDue) = true := by
  have turn_eq : peer.turn now (.event .advertDue) =
      ⟨(peer.core.advertise now).1, .ofStore peer.store, (peer.core.advertise now).2⟩ :=
    if_pos rooted.running
  unfold advertises
  rw [turn_eq]
  rfl

/-- The pestered peer advertises once, after all the delays. -/
theorem Rooted.pestered (rooted : peer.Rooted) {due : Instant} (count : Nat)
    (next : peer.core.nextAdvert = due) (since : last ≤ due) :
    let delay := peer.core.config.localChangeDelay
    let events := pestering delay due count ++ [.input (due + count * delay) (.event .advertDue)]
    peer.Punctual last events ∧ peer.advertTimes events = [due + count * delay] := by
  induction count generalizing peer last due with
  | zero =>
    intro delay events
    have at_due : due + 0 * delay = peer.core.nextAdvert := by rw [next, Nat.zero_mul, Nat.add_zero]
    have out := rooted.advertises_advertDue (due + 0 * delay)
    refine ⟨⟨?_, at_due.le, fun _ => at_due, trivial⟩, ?_⟩
    · exact since.trans (Nat.le_add_right _ _)
    · show advertTimes peer [.input (due + 0 * delay) (.event .advertDue)] = _
      rw [advertTimes, if_pos out, advertTimes]
  | succ count ih =>
    intro delay events
    obtain ⟨silent, later⟩ := rooted.nextAdvert_noteChange due
    have config := peer.config_react due .noteChange
    obtain ⟨punctual, times⟩ := ih (rooted.react due .noteChange) later (Nat.le_add_right _ _)
    rw [config] at punctual times
    have at_due : due + (count + 1) * delay = due + delay + count * delay := by
      rw [Nat.add_mul, Nat.one_mul, Nat.add_comm (count * delay), Nat.add_assoc]
    refine ⟨⟨since, next.ge, nofun, ?_⟩, ?_⟩
    · rw [at_due]
      exact punctual
    · show advertTimes peer (.input due .noteChange :: _) = _
      rw [advertTimes, if_neg (by simp [silent]), at_due]
      exact times

/-- However often the device tells of changes, and whatever else happens to a peer whose timer
is punctual: the next thing after an advertisement, be it the next advertisement, is not later
than the interval and one delay for each word of a change since.  It may be as late as that:
there are runs with any number of changes, in which the peer does not advertise any earlier. -/
theorem advertises_within (store : MemoryStore) (device : DeviceId) (config : SyncConfig)
    (start : Instant) :
    let first := resume store device config start
    (∀ early between late said told since due,
      first.Punctual start (early ++ .input since said :: (between ++ .input due told :: late)) →
      (first.undergoAll early).advertises since said = true →
      (first.undergoAll (early ++ [.input since said])).advertTimes between = [] →
      due ≤ since + config.effectiveInterval +
        between.countP PeerEvent.tellsOfChange * config.localChangeDelay) ∧
    ∀ count, ∃ between : List PeerEvent, between.length = count ∧
      (∀ event ∈ between, event.tellsOfChange = true) ∧
      let due := start + config.effectiveInterval + count * config.localChangeDelay
      let events := .input start (.event .advertDue) ::
        (between ++ [.input due (.event .advertDue)])
      first.Punctual start events ∧ first.advertTimes events = [start, due] := by
  intro first
  constructor
  · intro early between late said told since due punctual out quiet
    obtain ⟨_, -, -, -, later⟩ := punctual.drop
    have there : (first.undergoAll early).react since said =
        first.undergoAll (early ++ [.input since said]) := by
      unfold undergoAll
      rw [List.foldl_append]
      rfl
    have next := nextAdvert_of_advertises out
    have settings : (first.undergoAll early).core.config = config :=
      first.config_undergoAll early
    rw [there] at later next
    have bound := later.le_of_quiet quiet
    rw [first.config_undergoAll, next, settings] at bound
    exact bound
  · intro count
    have rooted : first.Rooted := rooted_resume store device config start
    have out := rooted.advertises_advertDue start
    have next := nextAdvert_of_advertises out
    have after := (rooted.react start (.event .advertDue)).pestered count next
      (Nat.le_add_right start _)
    rw [config_react] at after
    refine ⟨pestering config.localChangeDelay (start + config.effectiveInterval) count,
      length_pestering _ _ count, tellsOfChange_pestering _ _ count, ?_, ?_⟩
    · exact ⟨Nat.le_refl _, Nat.le_refl _, fun _ => rfl, after.1⟩
    · show advertTimes first (.input start (.event .advertDue) :: _) = _
      rw [advertTimes, if_pos out]
      exact congrArg _ after.2

/-- Word of two changes, each shortly before the advertisement that is due. -/
def unrest : List PeerEvent :=
  [.input (Duration.ofMillis 3990) .noteChange, .input (Duration.ofMillis 4030) .noteChange]

/-- A device advertises, tells of two changes, and advertises again. -/
def restless : List PeerEvent :=
  .input 0 (.event .advertDue) :: (unrest ++ [.input (Duration.ofMillis 4080) (.event .advertDue)])

/-- The advertisement comes within the interval and two delays. -/
theorem advertises_within_restless :
    Duration.ofMillis 4080 ≤
      0 + SyncConfig.standard.effectiveInterval + 2 * SyncConfig.standard.localChangeDelay := by
  have punctual : (resume .empty ⟨.ofTexts ["a"]⟩ .standard 0).Punctual 0 restless := by
    decide +kernel
  have out : (resume .empty ⟨.ofTexts ["a"]⟩ .standard 0).advertises 0 (.event .advertDue) =
      true := by
    decide +kernel
  have quiet : ((resume .empty ⟨.ofTexts ["a"]⟩ .standard 0).undergoAll
      [.input 0 (.event .advertDue)]).advertTimes unrest = [] := by
    decide +kernel
  have two : unrest.countP PeerEvent.tellsOfChange = 2 := rfl
  have bound := (advertises_within .empty ⟨.ofTexts ["a"]⟩ .standard 0).1 [] unrest []
    (.event .advertDue) (.event .advertDue) 0 (Duration.ofMillis 4080) punctual out quiet
  rwa [two] at bound

/-- The advertisement does not come within the interval and one delay. -/
theorem one_delay_not_enough :
    let first := resume .empty ⟨.ofTexts ["a"]⟩ .standard 0
    first.Punctual 0 restless ∧ first.advertTimes restless = [0, Duration.ofMillis 4080] ∧
      SyncConfig.standard.effectiveInterval + SyncConfig.standard.localChangeDelay <
        Duration.ofMillis 4080 := by
  decide +kernel

end Peer

end DigestSync
