import DigestSync.Proofs.Sync.Advance
import DigestSync.Sync.Loop

set_option autoImplicit false

/-! # What a peer has on its books

A peer counts its advertisements that are under way, and lists the digests whose recovery
is.  Both are right at all times: whenever something comes back, just that is taken off the
books, and whenever something is called for, just that is put on them.  For a digest this
may go on for a while, from the wait over the request to its outcome, but there never are
two of these at once.
-/

namespace DigestSync

/-- What the event is a part of. -/
def SyncEvent.undertaking? : SyncEvent → Option Undertaking
  | .advertReply _ => some .advertisement
  | .recoverDue digest => some (.recovery digest)
  | .recoverReply digest _ => some (.recovery digest)
  | .interest _ | .advertDue => none

/-- What the action sets going. -/
def SyncAction.undertaking? : SyncAction → Option Undertaking
  | .ask saying _ => some saying.undertaking
  | .await digest _ => some (.recovery digest)
  | .put _ | .report _ => none

namespace SyncCore

variable {core : SyncCore} {volume : Volume} {now : Instant}

/-- How often the core has something on its books. -/
def booked (core : SyncCore) : Undertaking → Nat
  | .advertisement => core.advertsInFlight
  | .recovery digest => if digest ∈ core.recoveries then 1 else 0

/-- The core with what the event is a part of taken off its books. -/
def settled (core : SyncCore) (event : SyncEvent) : SyncCore :=
  match event.undertaking? with
  | none => core
  | some .advertisement => { core with advertsInFlight := core.advertsInFlight - 1 }
  | some (.recovery digest) => core.dropRecovery digest

/-- Just what the turn sets going is put on the books of the core. -/
def Books (core : SyncCore) (turn : SyncTurn) : Prop :=
  ∀ undertaking, turn.core.booked undertaking =
    core.booked undertaking + (turn.actions.filterMap SyncAction.undertaking?).count undertaking

/-- Taking something off the books does just that. -/
theorem booked_settled {event : SyncEvent} {undertaking : Undertaking}
    (part : event.undertaking? = some undertaking) (listed : 0 < core.booked undertaking)
    (other : Undertaking) :
    core.booked other = (core.settled event).booked other + [undertaking].count other := by
  rw [settled, part]
  cases undertaking with
  | advertisement =>
    have listed : 0 < core.advertsInFlight := listed
    cases other with
    | advertisement =>
      show core.advertsInFlight = core.advertsInFlight - 1 + 1
      omega
    | recovery digest => rfl
  | recovery digest =>
    cases other with
    | advertisement => rfl
    | recovery another =>
      by_cases same : another = digest
      · subst same
        have member : another ∈ core.recoveries := by
          by_contra missing
          simp only [booked, if_neg missing, Nat.lt_irrefl] at listed
        simp [booked, dropRecovery, member]
      · have apart : Undertaking.recovery digest ≠ .recovery another :=
          fun equal => same (Undertaking.recovery.inj equal).symm
        simp [booked, dropRecovery, same, apart]

/-! ## Turns -/

/-- A turn that sets nothing going and leaves the books alone. -/
theorem books_of_quiet {turn : SyncTurn} (adverts : turn.core.advertsInFlight = core.advertsInFlight)
    (recoveries : turn.core.recoveries = core.recoveries)
    (quiet : turn.actions.filterMap SyncAction.undertaking? = []) : core.Books turn := by
  intro undertaking
  rw [quiet]
  cases undertaking with
  | advertisement => exact adverts
  | recovery digest =>
    show (if digest ∈ turn.core.recoveries then 1 else 0) = _
    rw [recoveries]
    rfl

theorem undertaking_reply (name : Name) (records : List DeltaRecord) :
    (core.reply name records).filterMap SyncAction.undertaking? = [] := by
  unfold reply
  split <;> rfl

theorem books_advertise :
    core.Books ⟨(core.advertise now).1, volume, (core.advertise now).2⟩ := by
  rintro (_ | digest) <;> rfl

theorem books_planRecovery (digest : Digest) :
    core.Books ⟨(core.planRecovery digest).1, volume, (core.planRecovery digest).2⟩ := by
  unfold planRecovery
  split
  · exact books_of_quiet rfl rfl rfl
  · rename_i missing
    have missing : digest ∉ core.recoveries := fun member =>
      missing (List.contains_iff_mem.mpr member)
    rintro (_ | other)
    · rfl
    · by_cases same : other = digest
      · subst same
        simp [booked, SyncAction.undertaking?, missing]
      · have apart : Undertaking.recovery digest ≠ .recovery other :=
          fun equal => same (Undertaking.recovery.inj equal).symm
        simp [booked, SyncAction.undertaking?, same, apart]

theorem books_onAdvertisement (name : Name) (digest : Digest) :
    core.Books ⟨(core.onAdvertisement volume name digest).1, volume,
      (core.onAdvertisement volume name digest).2⟩ := by
  unfold onAdvertisement
  split
  · exact books_of_quiet rfl rfl rfl
  · split
    · exact books_of_quiet rfl rfl rfl
    · exact books_planRecovery digest
    · split
      · exact books_of_quiet rfl rfl rfl
      · exact books_of_quiet rfl rfl (undertaking_reply name _)

theorem books_onInterest (name : Name) : core.Books (core.onInterest volume name) := by
  unfold onInterest
  split
  · exact books_of_quiet rfl rfl rfl
  · exact books_onAdvertisement name _
  · refine books_of_quiet rfl rfl ?_
    unfold onRecoveryRequest
    split
    · split
      · exact undertaking_reply name _
      · rfl
    · rfl

theorem books_noteChange : core.Books (core.noteChange volume now).2 := by
  unfold noteChange
  split
  · exact books_of_quiet rfl rfl rfl
  · dsimp only
    split
    · exact books_of_quiet rfl rfl rfl
    · split
      · exact books_of_quiet rfl rfl rfl
      · exact books_of_quiet rfl rfl (undertaking_reply _ _)

theorem books_publish (seq : Seq) : core.Books (core.publish volume now seq).2 := by
  unfold publish
  split
  · exact books_of_quiet rfl rfl rfl
  · exact books_noteChange

theorem books_noteMerge : core.Books (core.noteMerge volume now) := by
  unfold noteMerge
  split
  · exact books_of_quiet rfl rfl rfl
  · split
    · exact books_of_quiet rfl rfl rfl
    · split
      · exact books_of_quiet rfl rfl rfl
      · rename_i delta _
        -- A report sets nothing going, so that it may be left out.
        rintro (_ | digest)
        · cases delta <;> rfl
        · cases delta <;> rfl

theorem books_onAnswer (answer : Option Data) : core.Books (core.onAnswer volume now answer) := by
  unfold onAnswer
  split
  · split
    · exact books_of_quiet rfl rfl rfl
    · exact books_noteMerge
  · exact books_of_quiet rfl rfl rfl

/-- When a recovery is due, it either is given up or goes on. -/
theorem books_onRecoverDue (store : MemoryStore) {digest : Digest}
    (listed : digest ∈ core.recoveries) :
    (core.dropRecovery digest).Books
      ⟨(core.onRecoverDue (.ofStore store) digest).1, .ofStore store,
        (core.onRecoverDue (.ofStore store) digest).2⟩ := by
  unfold onRecoverDue
  rw [Volume.isKnown_ofStore]
  split
  · exact books_of_quiet rfl rfl rfl
  · cases store.isKnown digest with
    | true => exact books_of_quiet rfl rfl rfl
    | false =>
      have part : (SyncEvent.recoverDue digest).undertaking? = some (.recovery digest) := rfl
      have booked : 0 < core.booked (.recovery digest) := by simp [booked, listed]
      exact booked_settled part booked

/-- An event is taken off the books of a running core, if it is on them; beyond that, just
what the turn sets going is put on them. -/
theorem books_handle (running : core.running = true) (store : MemoryStore) {event : SyncEvent}
    (listed : ∀ undertaking, event.undertaking? = some undertaking → 0 < core.booked undertaking) :
    (core.settled event).Books (core.handle (.ofStore store) now event) := by
  unfold handle
  rw [if_pos running]
  cases event with
  | interest name => exact books_onInterest name
  | advertDue => exact books_advertise
  | advertReply answer => exact books_onAnswer answer
  | recoverDue digest =>
    apply books_onRecoverDue store
    by_contra missing
    have listed := listed _ rfl
    simp only [booked, if_neg missing, Nat.lt_irrefl] at listed
  | recoverReply digest answer => exact books_onAnswer answer

end SyncCore

/-! ## Loops -/

namespace SyncLoop

variable {loop : SyncLoop}

/-- All that is under way. -/
def underWay (loop : SyncLoop) : List Undertaking :=
  loop.asked.map SyncName.undertaking ++ loop.waits.map .recovery ++
    loop.events.filterMap SyncEvent.undertaking?

/-- The books of a running peer agree with what is under way for it, and say what it has
published; and all that comes back to it is a part of something. -/
structure Booked (loop : SyncLoop) : Prop where
  balanced : ∀ undertaking,
    loop.peer.core.booked undertaking = loop.underWay.count undertaking
  parts : ∀ event ∈ loop.events, ∃ undertaking, event.undertaking? = some undertaking
  running : loop.peer.core.running = true
  published : loop.phase = loop.peer.core.phase

/-- What a turn calls for is under way afterwards. -/
theorem count_underWay_tell (loop : SyncLoop) (now : Instant) (input : PeerInput)
    (undertaking : Undertaking) :
    (loop.tell now input).underWay.count undertaking =
      loop.underWay.count undertaking +
        ((loop.peer.turn now input).actions.filterMap SyncAction.undertaking?).count
          undertaking := by
  have split (actions : List SyncAction) :
      (actions.filterMap SyncAction.undertaking?).count undertaking =
        ((actions.filterMap SyncAction.saying?).map SyncName.undertaking).count undertaking +
          ((actions.filterMap SyncAction.awaited?).map Undertaking.recovery).count
            undertaking := by
    induction actions with
    | nil => rfl
    | cons action rest ih =>
      cases action <;>
        simp only [List.filterMap_cons, SyncAction.undertaking?, SyncAction.saying?,
          SyncAction.awaited?, List.map_cons, List.count_cons, ih] <;> omega
  simp only [underWay, tell, List.map_append, List.count_append, split]
  omega

/-- Being told of an input keeps the books right, if they are once what the input is a part
of is taken off them. -/
theorem booked_tell (core : SyncCore) {now : Instant} {input : PeerInput}
    (balanced : ∀ undertaking, core.booked undertaking = loop.underWay.count undertaking)
    (books : core.Books (loop.peer.turn now input))
    (parts : ∀ event ∈ loop.events, ∃ undertaking, event.undertaking? = some undertaking)
    (running : loop.peer.core.running = true) : (loop.tell now input).Booked where
  balanced := by
    intro undertaking
    rw [count_underWay_tell, ← balanced]
    exact books undertaking
  parts := parts
  running := (loop.peer.steady_turn now input).running.trans running
  published := rfl

/-- Being told of something that is no part of anything keeps the books right. -/
theorem Booked.tell (booked : loop.Booked) {now : Instant} {input : PeerInput}
    (books : loop.peer.core.Books (loop.peer.turn now input)) : (loop.tell now input).Booked :=
  booked_tell _ booked.balanced books booked.parts booked.running

/-- Being told of what has come back keeps the books right. -/
theorem Booked.tell_event (booked : loop.Booked) {event : SyncEvent} {rest : List SyncEvent}
    (first : loop.events = event :: rest) (now : Instant) :
    ({ loop with events := rest }.tell now (.event event)).Booked := by
  obtain ⟨undertaking, part⟩ := booked.parts event (first ▸ List.mem_cons_self)
  have split (other : Undertaking) : loop.underWay.count other =
      ({ loop with events := rest } : SyncLoop).underWay.count other + [undertaking].count other := by
    unfold underWay
    rw [first, List.filterMap_cons_some part]
    simp only [List.count_append, List.count_cons, List.count_nil]
    omega
  have listed : 0 < loop.peer.core.booked undertaking := by
    rw [booked.balanced, split, List.count_singleton_self]
    omega
  apply booked_tell (loop.peer.core.settled event)
  · intro other
    have taken := SyncCore.booked_settled part listed other
    rw [booked.balanced, split] at taken
    omega
  · apply SyncCore.books_handle booked.running loop.peer.store
    intro other same
    cases part.symm.trans same
    exact listed
  · intro other member
    exact booked.parts other (first ▸ List.mem_cons_of_mem _ member)
  · exact booked.running

/-- What is taken out of a list and put at the end of the events is under way as before. -/
theorem Booked.move (booked : loop.Booked) {asked : List SyncName} {waits : List Digest}
    {event : SyncEvent} {undertaking : Undertaking} (part : event.undertaking? = some undertaking)
    (moved : (loop.asked.map SyncName.undertaking ++ loop.waits.map Undertaking.recovery).Perm
      (undertaking :: (asked.map SyncName.undertaking ++ waits.map Undertaking.recovery))) :
    ({ loop with asked, waits, events := loop.events ++ [event] } : SyncLoop).Booked where
  balanced := by
    intro other
    have before : loop.underWay.count other = _ := List.count_append
    rw [booked.balanced, before, moved.count_eq]
    simp only [underWay, List.filterMap_append, List.filterMap_cons_some part, List.filterMap_nil,
      List.count_append, List.count_cons, List.count_nil]
    omega
  parts := by
    intro other member
    rcases List.mem_append.mp member with old | new
    · exact booked.parts other old
    · rw [List.mem_singleton.mp new]
      exact ⟨undertaking, part⟩
  running := booked.running
  published := booked.published

theorem outcome_undertaking (answer : Option Data) (saying : SyncName) :
    (saying.outcome answer).undertaking? = some saying.undertaking := by
  cases saying <;> rfl

/-- Whatever happens, the books stay right. -/
theorem Booked.step (booked : loop.Booked) (step : LoopStep) : (loop.step step).Booked := by
  cases step with
  | hear now name =>
    apply booked.tell
    exact SyncCore.books_handle booked.running loop.peer.store nofun
  | publish now seq => exact booked.tell (SyncCore.books_publish seq)
  | noteChange now => exact booked.tell SyncCore.books_noteChange
  | advertise now =>
    apply booked.tell
    exact SyncCore.books_handle booked.running loop.peer.store nofun
  | handle now =>
    simp only [SyncLoop.step]
    split
    · exact booked
    · rename_i first
      exact booked.tell_event first now
  | settle place answer =>
    simp only [SyncLoop.step]
    split
    · exact booked
    · rename_i saying found
      obtain ⟨inside, rfl⟩ := List.getElem?_eq_some_iff.mp found
      refine booked.move (outcome_undertaking answer _) ?_
      have moved := ((List.getElem_cons_eraseIdx_perm inside).map SyncName.undertaking).symm
      exact moved.append_right _
  | elapse place =>
    simp only [SyncLoop.step]
    split
    · exact booked
    · rename_i digest found
      obtain ⟨inside, rfl⟩ := List.getElem?_eq_some_iff.mp found
      refine booked.move rfl ?_
      have moved := ((List.getElem_cons_eraseIdx_perm inside).map Undertaking.recovery).symm
      exact (moved.append_left _).trans List.perm_middle
  | call call => exact ⟨booked.balanced, booked.parts, booked.running, booked.published⟩

theorem Booked.run (booked : loop.Booked) (steps : List LoopStep) : (loop.run steps).Booked := by
  induction steps generalizing loop with
  | nil => exact booked
  | cons step rest ih => exact ih (booked.step step)

theorem booked_start (store : MemoryStore) (device : DeviceId) (config : SyncConfig)
    (now : Instant) : (start store device config now).Booked where
  balanced := by rintro (_ | digest) <;> rfl
  parts := nofun
  running := rfl
  published := rfl

/-! ## Counts -/

theorem count_advertisement (loop : SyncLoop) :
    loop.underWay.count .advertisement = loop.advertsOut := by
  have asked : (loop.asked.map SyncName.undertaking).count .advertisement =
      loop.asked.countP (fun saying => saying.undertaking = .advertisement) := by
    rw [List.count_eq_countP, List.countP_map]
    exact List.countP_congr fun saying _ => by simp
  have waits : (loop.waits.map Undertaking.recovery).count .advertisement = 0 := by
    rw [List.count_eq_zero]
    simp
  have events : (loop.events.filterMap SyncEvent.undertaking?).count .advertisement =
      loop.events.countP SyncEvent.isAdvertReply := by
    rw [List.count_eq_countP, List.countP_filterMap]
    exact List.countP_congr fun event _ => by
      cases event <;> simp [SyncEvent.undertaking?, SyncEvent.isAdvertReply]
  unfold underWay advertsOut
  rw [List.count_append, List.count_append, asked, waits, events, Nat.add_zero]

theorem count_recovery (loop : SyncLoop) (digest : Digest) :
    loop.underWay.count (.recovery digest) = loop.recoveriesOut digest := by
  have asked : (loop.asked.map SyncName.undertaking).count (.recovery digest) =
      loop.asked.count (.recover digest) := by
    rw [List.count_eq_countP, List.count_eq_countP, List.countP_map]
    exact List.countP_congr fun saying _ => by cases saying <;> simp [SyncName.undertaking]
  have waits : (loop.waits.map Undertaking.recovery).count (.recovery digest) =
      loop.waits.count digest := by
    rw [List.count_eq_countP, List.count_eq_countP, List.countP_map]
    exact List.countP_congr fun other _ => by simp
  have events : (loop.events.filterMap SyncEvent.undertaking?).count (.recovery digest) =
      loop.events.count (.recoverDue digest) +
        loop.events.countP (SyncEvent.isRecoverReply digest) := by
    induction loop.events with
    | nil => rfl
    | cons event rest ih =>
      cases event <;>
        simp [SyncEvent.undertaking?, SyncEvent.isRecoverReply, List.filterMap_cons,
          List.count_cons, List.countP_cons, ih] <;> omega
  unfold underWay recoveriesOut
  rw [List.count_append, List.count_append, asked, waits, events]
  omega

theorem Booked.isQuiet_iff (booked : loop.Booked) :
    loop.IsQuiet ↔ ∀ undertaking, loop.peer.core.booked undertaking = 0 := by
  have events : loop.events = [] ↔ loop.events.filterMap SyncEvent.undertaking? = [] := by
    constructor
    · intro none
      rw [none]
      rfl
    · intro none
      refine List.eq_nil_iff_forall_not_mem.mpr fun event member => ?_
      obtain ⟨undertaking, part⟩ := booked.parts event member
      exact Option.some_ne_none _ (part.symm.trans (List.filterMap_eq_nil_iff.mp none event member))
  calc loop.IsQuiet ↔ loop.underWay = [] := by
        unfold IsQuiet underWay
        rw [events, List.append_eq_nil_iff, List.append_eq_nil_iff, List.map_eq_nil_iff,
          List.map_eq_nil_iff, and_assoc]
    _ ↔ ∀ undertaking, loop.underWay.count undertaking = 0 := by
        rw [List.eq_nil_iff_forall_not_mem]
        exact forall_congr' fun undertaking => List.count_eq_zero.symm
    _ ↔ ∀ undertaking, loop.peer.core.booked undertaking = 0 :=
        forall_congr' fun undertaking => by rw [booked.balanced]

end SyncLoop

namespace SyncCore

variable {core : SyncCore}

theorem exists_booked_recovery_iff :
    (∃ digest, core.booked (.recovery digest) ≠ 0) ↔ core.recoveries ≠ [] := by
  constructor
  · rintro ⟨digest, listed⟩ none
    simp [booked, none] at listed
  · intro some
    obtain ⟨digest, member⟩ := List.exists_mem_of_ne_nil _ some
    exact ⟨digest, by simp [booked, member]⟩

theorem phase_eq_recoveryPending_iff :
    core.phase = .recoveryPending ↔ ∃ digest, core.booked (.recovery digest) ≠ 0 := by
  rw [exists_booked_recovery_iff]
  unfold phase
  cases core.recoveries with
  | nil =>
    simp only [List.isEmpty_nil, ne_eq, not_true_eq_false, iff_false]
    by_cases quiet : core.advertsInFlight = 0 <;> simp [quiet]
  | cons digest rest => simp

theorem phase_eq_idle_iff :
    core.phase = .idle ↔ ∀ undertaking, core.booked undertaking = 0 := by
  constructor
  · intro idle
    have none : ¬ ∃ digest, core.booked (.recovery digest) ≠ 0 := by
      rw [← phase_eq_recoveryPending_iff, idle]
      nofun
    rintro (_ | digest)
    · have blank : core.recoveries = [] := by
        by_contra some
        exact none (exists_booked_recovery_iff.mpr some)
      by_contra some
      have some : core.advertsInFlight ≠ 0 := some
      simp [phase, blank, some] at idle
    · by_contra some
      exact none ⟨digest, some⟩
  · intro none
    have blank : core.recoveries = [] := by
      by_contra some
      obtain ⟨digest, listed⟩ := exists_booked_recovery_iff.mpr some
      exact listed (none _)
    have adverts : core.advertsInFlight = 0 := none .advertisement
    simp [phase, blank, adverts]

end SyncCore

namespace SyncLoop

/-- Whatever has happened: a peer counts its advertisements that are neither answered nor
over, and those of which it does not know yet that they are; it lists just the digests for
which there is a wait, a recovery that is due, a request or the outcome of one, and there is
one of these at a time; and it has published that it waits for nothing just if nothing is
under way, and for a recovery just if there is one. -/
theorem books_balance (store : MemoryStore) (device : DeviceId) (config : SyncConfig)
    (now : Instant) (steps : List LoopStep) :
    let loop := (start store device config now).run steps
    loop.peer.core.advertsInFlight = loop.advertsOut ∧
      (∀ digest, loop.recoveriesOut digest =
        if digest ∈ loop.peer.core.recoveries then 1 else 0) ∧
      (loop.phase = .idle ↔ loop.IsQuiet) ∧
      (loop.phase = .recoveryPending ↔ ∃ digest, loop.recoveriesOut digest ≠ 0) := by
  intro loop
  have booked : loop.Booked := (booked_start store device config now).run steps
  have recoveries (digest : Digest) :
      loop.peer.core.booked (.recovery digest) = loop.recoveriesOut digest := by
    rw [booked.balanced, count_recovery]
  refine ⟨?_, fun digest => (recoveries digest).symm, ?_, ?_⟩
  · rw [← count_advertisement]
    exact booked.balanced .advertisement
  · rw [booked.published, booked.isQuiet_iff]
    exact SyncCore.phase_eq_idle_iff
  · rw [booked.published, SyncCore.phase_eq_recoveryPending_iff]
    exact exists_congr fun digest => by rw [recoveries]

end SyncLoop

end DigestSync
