import DigestSync.Proofs.Fetch.Retrieval

set_option autoImplicit false

/-! # The sweep of an attempt

An attempt sweeps over its range: each record before the next one to request has arrived or is in
flight.  Filling the window stops when it is full or nothing is left to request, so a request is in
flight for as long as a record is missing, and an attempt fails for no other reason than a request
that is not answered.  A record is requested for the first time when the sweep comes to it, and so
after all smaller ones.

The highest number is left out throughout, since the sweep cannot go on beyond it.
-/

namespace DigestSync

open scoped SeqOrder

namespace FetchAction

variable {actions : List FetchAction} {action : FetchAction} {seq : Seq}

theorem requested_append (early late : List FetchAction) :
    requested (early ++ late) = requested early ++ requested late := List.filterMap_append

theorem requested_append_singleton (asks : action.requested? = some seq) :
    requested (actions ++ [action]) = requested actions ++ [seq] := by
  have alone : requested [action] = [seq] := List.filterMap_cons_some asks
  rw [requested_append, alone]

theorem requested_append_of_silent (silent : action.requested? = none) :
    requested (actions ++ [action]) = requested actions := by
  have nothing : requested [action] = [] := List.filterMap_cons_none silent
  rw [requested_append, nothing, List.append_nil]

theorem delivered_append_singleton (hands : action.delivered? = some seq) :
    delivered (actions ++ [action]) = delivered actions ++ [seq] := by
  have alone : delivered [action] = [seq] := List.filterMap_cons_some hands
  rw [delivered_append, alone]

theorem delivered_append_of_silent (silent : action.delivered? = none) :
    delivered (actions ++ [action]) = delivered actions := by
  have nothing : delivered [action] = [] := List.filterMap_cons_none silent
  rw [delivered_append, nothing, List.append_nil]

/-- To request a record once more is no first request. -/
theorem firstRequests_again (asks : action.requested? = some seq)
    (before : seq ∈ requested actions) :
    firstRequests (actions ++ [action]) = firstRequests actions := by
  have none : [seq].removeAll (requested actions) = [] := by simp [List.removeAll, before]
  rw [firstRequests, requested_append_singleton asks, List.eraseDups_append, none]
  exact List.append_nil _

/-- A record beyond all those requested may be requested in its turn. -/
theorem firstRequests_beyond (ordered : (firstRequests actions).Pairwise (· < ·))
    (asks : action.requested? = some seq) (beyond : ∀ other ∈ requested actions, other < seq) :
    (firstRequests (actions ++ [action])).Pairwise (· < ·) := by
  have fresh : seq ∉ requested actions := fun before => lt_irrefl seq (beyond seq before)
  have alone : [seq].removeAll (requested actions) = [seq] := by simp [List.removeAll, fresh]
  rw [firstRequests, requested_append_singleton asks, List.eraseDups_append, alone]
  refine List.pairwise_append.mpr ⟨ordered, List.pairwise_singleton _ _, ?_⟩
  intro early member late here
  obtain rfl : late = seq := by simpa using here
  exact beyond early (by simpa [firstRequests] using member)

end FetchAction

open FetchAction

namespace Fetcher

variable {fetcher : Fetcher} {config : FetchConfig} {window : Window}
  {actions : List FetchAction} {seq : Seq}

/-! ## Looking for a record -/

theorem isTaken_iff :
    fetcher.isTaken window seq = true ↔
      fetcher.progress.isReceived seq = true ∨ seq ∈ window.inFlight := by
  simp [isTaken]

/-- The search passes over taken records only. -/
theorem isTaken_of_passed {start : Seq} (beyond : start ≤ seq) (inside : seq ≤ fetcher.task.maxSeq)
    (passed : ∀ free ∈ fetcher.nextFree window start, seq < free) :
    fetcher.isTaken window seq = true := by
  fun_induction fetcher.nextFree window start with
  | case1 start below taken ih =>
    rcases eq_or_lt_of_le beyond with rfl | further
    · exact taken
    · refine ih ?_ passed
      rw [UInt64.le_iff_toNat_le, toNat_succ (succ_toNat_lt_of_lt below)]
      exact UInt64.lt_iff_toNat_lt.mp further
  | case2 start below free => exact absurd (passed start rfl) (not_lt.mpr beyond)
  | case3 start notBelow last => exact absurd (passed start rfl) (not_lt.mpr beyond)
  | case4 start notBelow notLast =>
    -- The search has come to the end of the range, which is taken or lies behind it.
    have last : start = fetcher.task.maxSeq :=
      le_antisymm (beyond.trans inside) (not_lt.mp notBelow)
    obtain rfl : seq = start := le_antisymm (last ▸ inside) beyond
    simpa [last] using notLast

/-! ## What holds in every attempt -/

/-- Of the records of the task, each requested for the first time after the smaller ones, those
handed over have arrived, each once. -/
structure Course (fetcher : Fetcher) (actions : List FetchAction) : Prop where
  sound : fetcher.progress.Sound
  floor : fetcher.task.minSeq ≤ fetcher.progress.next
  within : ∀ seq ∈ requested actions, fetcher.task.contains seq = true
  ordered : (firstRequests actions).Pairwise (· < ·)
  once : (delivered actions).Nodup
  handed : ∀ seq ∈ delivered actions,
    seq ∈ requested actions ∧ fetcher.progress.isReceived seq = true

theorem course_nil (sound : fetcher.progress.Sound)
    (floor : fetcher.task.minSeq ≤ fetcher.progress.next) : fetcher.Course [] where
  sound := sound
  floor := floor
  within := nofun
  ordered := List.Pairwise.nil
  once := List.nodup_nil
  handed := nofun

namespace Course

variable (course : fetcher.Course actions)

include course

/-- A record of the task may be requested, if not for the first time out of turn. -/
theorem request (contained : fetcher.task.contains seq = true)
    (ordered : (firstRequests (actions ++ [fetcher.requestOf config seq])).Pairwise (· < ·)) :
    fetcher.Course (actions ++ [fetcher.requestOf config seq]) := by
  refine ⟨course.sound, course.floor, ?_, ordered, ?_, ?_⟩
  · rw [requested_append_singleton rfl, List.forall_mem_append]
    exact ⟨course.within, List.forall_mem_singleton.mpr contained⟩
  · rw [delivered_append_of_silent rfl]
    exact course.once
  · rw [requested_append_singleton rfl, delivered_append_of_silent rfl]
    exact fun other member => (course.handed other member).imp_left (List.mem_append_left _)

/-- A record that was requested and is missing may be handed over. -/
theorem accept (before : seq ∈ requested actions)
    (missing : fetcher.progress.isReceived seq = false) (low : seq.toNat + 1 < 2 ^ 64)
    (content : Bytes) :
    (fetcher.accept seq).Course (actions ++ [.deliver fetcher.task seq content]) := by
  have same : requested (actions ++ [.deliver fetcher.task seq content]) = requested actions :=
    requested_append_of_silent rfl
  have grown : delivered (actions ++ [.deliver fetcher.task seq content]) =
      delivered actions ++ [seq] := delivered_append_singleton rfl
  have arrived := Progress.isReceived_mark course.sound low
  have fresh : seq ∉ delivered actions := by
    intro member
    have already := (course.handed seq member).2
    rw [missing] at already
    cases already
  refine ⟨Progress.sound_mark course.sound low,
    course.floor.trans (Progress.next_le_mark course.sound low), same.symm ▸ course.within, ?_,
    ?_, ?_⟩
  · rw [firstRequests, same]
    exact course.ordered
  · rw [grown]
    exact course.once.append (List.nodup_singleton seq) (List.disjoint_singleton.mpr fresh)
  · rw [grown, same, List.forall_mem_append]
    refine ⟨fun other member => ?_, List.forall_mem_singleton.mpr ⟨before, ?_⟩⟩
    · exact (course.handed other member).imp_right fun there => (arrived other).mpr (Or.inr there)
    · exact (arrived seq).mpr (Or.inl rfl)

/-- The end of the attempt may be told. -/
theorem finish : fetcher.Course (actions ++ [.finish fetcher.task]) := by
  have asked : requested (actions ++ [.finish fetcher.task]) = requested actions :=
    requested_append_of_silent rfl
  have handed : delivered (actions ++ [.finish fetcher.task]) = delivered actions :=
    delivered_append_of_silent rfl
  obtain ⟨sound, floor, within, ordered, once, settled⟩ := course
  refine ⟨sound, floor, asked.symm ▸ within, ?_, handed.symm ▸ once, ?_⟩
  · rwa [firstRequests, asked]
  · rwa [handed, asked]

end Course

/-! ## What holds while an attempt goes on -/

/-- The window goes on where the records requested so far end, and those before are taken. -/
structure Sweeps (fetcher : Fetcher) (config : FetchConfig) (window : Window)
    (actions : List FetchAction) : Prop where
  course : fetcher.Course actions
  pending : fetcher.Pending window
  fits : window.inFlight.length ≤ capacity config
  swept : ∀ seq, fetcher.task.contains seq = true → seq < window.nextRequest →
    fetcher.isTaken window seq = true
  asked : ∀ seq ∈ window.inFlight, seq ∈ requested actions
  passed : ∀ seq ∈ requested actions, seq < window.nextRequest

/-- A record in flight is missing, so that not all has arrived. -/
theorem Pending.isComplete_eq_false (pending : fetcher.Pending window)
    (waiting : seq ∈ window.inFlight) : fetcher.isComplete = false := by
  obtain ⟨inside, missing⟩ := pending.missing seq waiting
  refine Bool.eq_false_iff.mpr fun complete => ?_
  have arrived := Progress.isReceived_of_isComplete complete
    ((fetcher.task.contains_iff seq).mp inside).2
  rw [missing] at arrived
  cases arrived

/-- An attempt starts where the records that have arrived end. -/
theorem sweeps_start (sound : fetcher.progress.Sound)
    (floor : fetcher.task.minSeq ≤ fetcher.progress.next) (config : FetchConfig) :
    fetcher.Sweeps config (.start fetcher.progress.next) [] where
  course := course_nil sound floor
  pending := ⟨List.nodup_nil, nofun, floor⟩
  fits := Nat.zero_le _
  swept := fun seq _ before => isTaken_iff.mpr <| Or.inl <|
    (fetcher.progress.isReceived_iff seq).mpr (Or.inl (UInt64.lt_iff_toNat_lt.mp before))
  asked := nofun
  passed := nofun

namespace Sweeps

/-- The next record that is not taken is requested for the first time. -/
theorem request (sweeps : fetcher.Sweeps config window actions)
    (room : window.inFlight.length < capacity config)
    (found : fetcher.nextFree window window.nextRequest = some seq)
    (low : seq.toNat + 1 < 2 ^ 64) :
    fetcher.Sweeps config
      { window with nextRequest := seq + 1, inFlight := window.inFlight ++ [seq] }
      (actions ++ [fetcher.requestOf config seq]) := by
  obtain ⟨after, inside, -⟩ := nextFree_spec found
  have asked : requested (actions ++ [fetcher.requestOf config seq]) = requested actions ++ [seq] :=
    requested_append_singleton rfl
  have beyond : ∀ other ∈ requested actions, other < seq :=
    fun other member => lt_of_lt_of_le (sweeps.passed other member) after
  have next : ∀ other : Seq, other < seq + 1 ↔ other ≤ seq := by
    intro other
    rw [UInt64.lt_iff_toNat_lt, UInt64.le_iff_toNat_le, toNat_succ low, Nat.lt_succ_iff]
  have pending := sweeps.pending.request low found
  constructor
  case course =>
    have contained := (pending.missing seq (by simp)).1
    exact sweeps.course.request contained (firstRequests_beyond sweeps.course.ordered rfl beyond)
  case pending => exact pending
  case fits =>
    rw [List.length_append]
    exact room
  case swept =>
    intro other contained before
    have upto : other ≤ seq := (next other).mp before
    rw [isTaken_iff, List.mem_append, List.mem_singleton]
    rcases eq_or_lt_of_le upto with here | behind
    · exact Or.inr (Or.inr here)
    · -- The search has passed over whatever lies between.
      have taken : fetcher.isTaken window other = true := by
        by_cases already : other < window.nextRequest
        · exact sweeps.swept other contained already
        · refine isTaken_of_passed (not_lt.mp already) (upto.trans inside) ?_
          rw [found]
          exact fun free here => Option.mem_some.mp here ▸ behind
      exact (isTaken_iff.mp taken).imp_right Or.inl
  case asked =>
    rw [asked]
    exact fun other member => (List.mem_append.mp member).elim
      (fun old => List.mem_append_left _ (sweeps.asked other old)) (List.mem_append_right _)
  case passed =>
    rw [asked, List.forall_mem_append]
    exact ⟨fun other member => (next other).mpr (le_of_lt (beyond other member)),
      List.forall_mem_singleton.mpr ((next seq).mpr (le_refl seq))⟩

/-- A request whose time is over goes out again. -/
theorem again (sweeps : fetcher.Sweeps config window actions) (waiting : seq ∈ window.inFlight) :
    fetcher.Sweeps config { window with inFlight := window.inFlight.erase seq ++ [seq] }
      (actions ++ [fetcher.requestOf config seq]) := by
  have before : seq ∈ requested actions := sweeps.asked seq waiting
  have same : ∀ other, other ∈ requested (actions ++ [fetcher.requestOf config seq]) ↔
      other ∈ requested actions := by
    intro other
    rw [requested_append_singleton rfl, List.mem_append, List.mem_singleton]
    exact or_iff_left_of_imp fun here => here ▸ before
  have stays : ∀ other, other ∈ window.inFlight.erase seq ++ [seq] ↔ other ∈ window.inFlight := by
    intro other
    rw [List.mem_append, List.mem_singleton, sweeps.pending.distinct.mem_erase_iff]
    by_cases here : other = seq
    · simp [here, waiting]
    · simp [here]
  constructor
  case course =>
    refine sweeps.course.request (sweeps.course.within seq before) ?_
    rw [firstRequests_again rfl before]
    exact sweeps.course.ordered
  case pending => exact sweeps.pending.again waiting
  case fits =>
    have length : (window.inFlight.erase seq ++ [seq]).length = window.inFlight.length := by
      have positive := List.length_pos_of_mem waiting
      rw [List.length_append, List.length_erase_of_mem waiting, List.length_singleton]
      omega
    exact length ▸ sweeps.fits
  case swept =>
    intro other contained already
    rw [isTaken_iff, stays, ← isTaken_iff]
    exact sweeps.swept other contained already
  case asked =>
    exact fun other member => (same other).mpr (sweeps.asked other ((stays other).mp member))
  case passed => exact fun other member => sweeps.passed other ((same other).mp member)

/-- A record that arrives leaves the window. -/
theorem accept (sweeps : fetcher.Sweeps config window actions) (waiting : seq ∈ window.inFlight)
    (low : seq.toNat + 1 < 2 ^ 64) (now : Instant) (content : Bytes) :
    (fetcher.accept seq).Sweeps config
      { window with inFlight := window.inFlight.erase seq, lastArrival := some now }
      (actions ++ [.deliver fetcher.task seq content]) := by
  have same : requested (actions ++ [.deliver fetcher.task seq content]) = requested actions :=
    requested_append_of_silent rfl
  have arrived := Progress.isReceived_mark sweeps.course.sound low
  constructor
  case course =>
    exact sweeps.course.accept (sweeps.asked seq waiting) (sweeps.pending.missing seq waiting).2
      low content
  case pending => exact sweeps.pending.accept sweeps.course.sound low now
  case fits => exact List.length_erase_le.trans sweeps.fits
  case swept =>
    intro other contained already
    rw [isTaken_iff, sweeps.pending.distinct.mem_erase_iff]
    have before := isTaken_iff.mp (sweeps.swept other contained already)
    by_cases here : other = seq
    · exact Or.inl ((arrived other).mpr (Or.inl here))
    · exact before.imp (fun there => (arrived other).mpr (Or.inr there)) fun there => ⟨here, there⟩
  case asked =>
    rw [same]
    exact fun other member => sweeps.asked other (List.mem_of_mem_erase member)
  case passed =>
    rw [same]
    exact sweeps.passed

/-! ## Filling the window -/

theorem fill (sweeps : fetcher.Sweeps config window actions)
    (low : ∀ seq ∈ requested (fetcher.fill config window).2, seq.toNat + 1 < 2 ^ 64) :
    fetcher.Sweeps config (fetcher.fill config window).1
      (actions ++ (fetcher.fill config window).2) := by
  fun_induction fetcher.fill config window generalizing actions with
  | case1 => simpa using sweeps
  | case2 window room seq found filled requests step ih =>
    rw [step] at ih
    have more : requested (fetcher.requestOf config seq :: requests) = seq :: requested requests :=
      List.filterMap_cons_some rfl
    rw [more, List.forall_mem_cons] at low
    have onwards := ih (sweeps.request room found low.1) low.2
    rwa [List.append_assoc, List.singleton_append] at onwards
  | case3 => simpa using sweeps

end Sweeps

/-- Filling stops when the window is full or nothing is left to request. -/
theorem fill_stops (fetcher : Fetcher) (config : FetchConfig) (window : Window) :
    capacity config ≤ (fetcher.fill config window).1.inFlight.length ∨
      fetcher.nextFree (fetcher.fill config window).1
        (fetcher.fill config window).1.nextRequest = none := by
  fun_induction fetcher.fill config window with
  | case1 window room none => exact Or.inr none
  | case2 window room seq found filled requests step ih =>
    rw [step] at ih
    exact ih
  | case3 window full => exact Or.inl (not_lt.mp full)

/-- While a record is missing, a request is in flight once the window is filled. -/
theorem Sweeps.inFlight_ne_nil (sweeps : fetcher.Sweeps config window actions)
    (incomplete : fetcher.isComplete = false)
    (stops : capacity config ≤ window.inFlight.length ∨
      fetcher.nextFree window window.nextRequest = none) : window.inFlight ≠ [] := by
  intro empty
  rcases stops with full | none
  · rw [empty, List.length_nil] at full
    exact absurd full (not_le.mpr (lt_of_lt_of_le Nat.one_pos (le_max_right config.width 1)))
  · -- The first missing record is in the range, and so requested.
    have inside : fetcher.progress.next ≤ fetcher.task.maxSeq :=
      not_lt.mp (of_decide_eq_false incomplete)
    have taken : fetcher.isTaken window fetcher.progress.next = true := by
      by_cases already : fetcher.progress.next < window.nextRequest
      · exact sweeps.swept _
          ((fetcher.task.contains_iff _).mpr ⟨sweeps.course.floor, inside⟩) already
      · exact isTaken_of_passed (not_lt.mp already) inside (by rw [none]; nofun)
    rw [isTaken_iff, sweeps.course.sound.isReceived_next, empty] at taken
    simp at taken

/-! ## Steps of an attempt -/

/-- The outcome of a step of an attempt, with what was called for before it. -/
structure Advances (task : FetchTask) (config : FetchConfig) (before : List FetchAction)
    (turn : FetchTurn) : Prop where
  same : turn.fetcher.task = task
  course : turn.fetcher.Course (before ++ turn.actions)
  going : turn.ending = none →
    turn.fetcher.Sweeps config turn.window (before ++ turn.actions) ∧ turn.window.inFlight ≠ []

variable {before : List FetchAction}

/-- An attempt that goes on while a record is missing does not come to a halt. -/
theorem advances_proceed (sweeps : fetcher.Sweeps config window (before ++ actions))
    (incomplete : fetcher.isComplete = false)
    (low : ∀ seq ∈ requested (fetcher.proceed config window actions).actions,
      seq.toNat + 1 < 2 ^ 64) :
    (fetcher.proceed config window actions).ending = none ∧
      Advances fetcher.task config before (fetcher.proceed config window actions) := by
  have filled := sweeps.fill fun seq member => low seq <| by
    rw [proceed, requested_append]
    exact List.mem_append_right _ member
  have stays := filled.inFlight_ne_nil incomplete (fill_stops fetcher config window)
  rw [List.append_assoc] at filled
  refine ⟨?_, rfl, filled.course, fun _ => ⟨filled, stays⟩⟩
  simpa [proceed] using stays

theorem advances_begin (sound : fetcher.progress.Sound)
    (floor : fetcher.task.minSeq ≤ fetcher.progress.next)
    (low : ∀ seq ∈ requested (fetcher.begin config).actions, seq.toNat + 1 < 2 ^ 64) :
    (fetcher.begin config).ending ≠ some .failed ∧
      Advances fetcher.task config [] (fetcher.begin config) := by
  let begun : Fetcher := { fetcher with attempts := fetcher.attempts + 1 }
  unfold begin at low ⊢
  dsimp only at low ⊢
  split at low <;> rename_i whole
  · have course : begun.Course [] := course_nil sound floor
    rw [if_pos whole]
    exact ⟨nofun, rfl, course.finish, nofun⟩
  · have incomplete : begun.isComplete = false := Bool.eq_false_iff.mpr whole
    have soundStill : begun.progress.Sound := sound
    have sweeps : begun.Sweeps config (.start fetcher.progress.next) ([] ++ []) :=
      sweeps_start soundStill floor config
    obtain ⟨going, advances⟩ := advances_proceed sweeps incomplete low
    rw [if_neg whole]
    exact ⟨by rw [going]; nofun, advances⟩

theorem advances_receive (sweeps : fetcher.Sweeps config window before)
    (waiting : seq ∈ window.inFlight) (now : Instant) (answer : Option Bytes)
    (low : ∀ other ∈ requested (before ++ (fetcher.receive config window now seq answer).actions),
      other.toNat + 1 < 2 ^ 64) :
    ((fetcher.receive config window now seq answer).ending = some .failed →
        answer = none ∧ window.isActive now config.segmentTimeout = false) ∧
      Advances fetcher.task config before (fetcher.receive config window now seq answer) := by
  rw [requested_append, List.forall_mem_append] at low
  obtain ⟨lowBefore, low⟩ := low
  cases answer with
  | some content =>
    have accepted := sweeps.accept waiting (lowBefore seq (sweeps.asked seq waiting)) now content
    unfold receive at low ⊢
    dsimp only at low ⊢
    split at low <;> rename_i whole
    · rw [if_pos whole]
      have finished := accepted.course.finish
      rw [List.append_assoc] at finished
      exact ⟨nofun, rfl, finished, nofun⟩
    · rw [if_neg whole]
      obtain ⟨going, advances⟩ := advances_proceed accepted (Bool.eq_false_iff.mpr whole) low
      exact ⟨by rw [going]; nofun, advances⟩
  | none =>
    have incomplete := sweeps.pending.isComplete_eq_false waiting
    unfold receive at low ⊢
    dsimp only at low ⊢
    split at low <;> rename_i active
    · rw [if_pos active]
      obtain ⟨going, advances⟩ := advances_proceed (sweeps.again waiting) incomplete low
      exact ⟨by rw [going]; nofun, advances⟩
    · rw [if_neg active]
      refine ⟨fun _ => ⟨rfl, Bool.eq_false_iff.mpr active⟩, rfl, ?_, nofun⟩
      rw [List.append_nil]
      exact sweeps.course

/-! ## Bounds of the requests -/

theorem le_of_mem_requested_fill (member : seq ∈ requested (fetcher.fill config window).2) :
    seq ≤ fetcher.task.maxSeq := by
  fun_induction fetcher.fill config window with
  | case1 => cases member
  | case2 window room first found filled requests step ih =>
    rw [step] at ih
    have more : requested (fetcher.requestOf config first :: requests) =
        first :: requested requests := List.filterMap_cons_some rfl
    rw [more] at member
    rcases List.mem_cons.mp member with rfl | later
    · exact (nextFree_spec found).2.1
    · exact ih later
  | case3 => cases member

theorem le_of_mem_requested_proceed
    (member : seq ∈ requested (fetcher.proceed config window actions).actions)
    (prior : ∀ other ∈ requested actions, other ≤ fetcher.task.maxSeq) :
    seq ≤ fetcher.task.maxSeq := by
  rw [proceed, requested_append] at member
  exact (List.mem_append.mp member).elim (prior seq) le_of_mem_requested_fill

/-- The requests of an attempt do not go beyond the range. -/
theorem le_of_mem_requested_begin (member : seq ∈ requested (fetcher.begin config).actions) :
    seq ≤ fetcher.task.maxSeq := by
  unfold begin at member
  dsimp only at member
  split at member
  · cases member
  · have upTo := le_of_mem_requested_proceed member nofun
    exact upTo

theorem le_of_mem_requested_receive {now : Instant} {answer : Option Bytes} {other : Seq}
    (inside : seq ≤ fetcher.task.maxSeq)
    (member : other ∈ requested (fetcher.receive config window now seq answer).actions) :
    other ≤ fetcher.task.maxSeq := by
  unfold receive at member
  cases answer with
  | some content =>
    dsimp only at member
    split at member
    · cases member
    · have upTo := le_of_mem_requested_proceed member nofun
      exact upTo
  | none =>
    dsimp only at member
    split at member
    · refine le_of_mem_requested_proceed member fun again here => ?_
      exact List.mem_singleton.mp here ▸ inside
    · cases member

end Fetcher

/-! ## Whole retrievals -/

namespace Retrieval

/-- What every event keeps. -/
structure Sweeping (task : FetchTask) (retrieval : Retrieval) : Prop where
  same : retrieval.fetcher.task = task
  course : retrieval.fetcher.Course retrieval.current
  going : ∀ config window, retrieval.attempt = some (config, window) → retrieval.ending = none ∧
    retrieval.fetcher.Sweeps config window retrieval.current ∧ window.inFlight ≠ []

variable {task : FetchTask} {retrieval : Retrieval}

theorem sweeping_start {fetcher : Fetcher} (sound : fetcher.progress.Sound)
    (floor : fetcher.task.minSeq ≤ fetcher.progress.next) :
    (start fetcher).Sweeping fetcher.task where
  same := rfl
  course := Fetcher.course_nil sound floor
  going := nofun

/-- To take over the outcome of a step keeps all. -/
theorem sweeping_absorb {config : FetchConfig} {turn : FetchTurn}
    (advances : Fetcher.Advances task config retrieval.current turn) :
    (retrieval.absorb config turn).Sweeping task := by
  refine ⟨advances.same, advances.course, ?_⟩
  intro other window going
  rw [attempt_absorb] at going
  split at going
  · rename_i ended
    cases going
    exact ⟨ended, advances.going ended⟩
  · cases going

/-- As long as the highest number is not requested, every event keeps all. -/
theorem Sweeping.react (sweeping : retrieval.Sweeping task) (event : RetrievalEvent)
    (low : ∀ seq ∈ requested (retrieval.react event).current, seq.toNat + 1 < 2 ^ 64) :
    (retrieval.react event).Sweeping task := by
  obtain ⟨rfl, course, going⟩ := sweeping
  rcases retrieval.react_cases event with same | ⟨config, rfl, idle, step⟩ |
    ⟨config, window, now, seq, answer, rfl, under, waiting, step⟩ | ⟨resolve, now, rfl, idle, step⟩
  · rw [same]
    exact ⟨rfl, course, going⟩
  · rw [step] at low ⊢
    exact sweeping_absorb (Fetcher.advances_begin course.sound course.floor low).2
  · obtain ⟨-, sweeps, -⟩ := going config window under
    rw [step] at low ⊢
    exact sweeping_absorb (Fetcher.advances_receive sweeps waiting now answer low).2
  · rw [step]
    exact ⟨rfl, { course with }, fun config window under => absurd under (by simp [idle])⟩

/-- In a range that ends below the highest number, this is never requested. -/
theorem Sweeping.low_react (sweeping : retrieval.Sweeping task)
    (low : task.maxSeq.toNat + 1 < 2 ^ 64) (event : RetrievalEvent) :
    ∀ seq ∈ requested (retrieval.react event).current, seq.toNat + 1 < 2 ^ 64 := by
  obtain ⟨rfl, course, going⟩ := sweeping
  have upTo : ∀ seq, retrieval.fetcher.task.contains seq = true →
      seq ≤ retrieval.fetcher.task.maxSeq :=
    fun seq inside => ((retrieval.fetcher.task.contains_iff seq).mp inside).2
  refine fun seq member => succ_toNat_lt_of_le_of_low ?_ low
  have before : seq ∈ requested retrieval.current → seq ≤ retrieval.fetcher.task.maxSeq :=
    fun old => upTo seq (course.within seq old)
  rcases retrieval.react_cases event with same | ⟨config, rfl, idle, step⟩ |
    ⟨config, window, now, first, answer, rfl, under, waiting, step⟩ |
    ⟨resolve, now, rfl, idle, step⟩
  · rw [same] at member
    exact before member
  · rw [step] at member
    exact Fetcher.le_of_mem_requested_begin member
  · have inside := ((going config window under).2.1.pending.missing first waiting).1
    rw [step, absorb, requested_append] at member
    exact (List.mem_append.mp member).elim before
      (Fetcher.le_of_mem_requested_receive (upTo first inside))
  · rw [step] at member
    exact before member

theorem Sweeping.run (sweeping : retrieval.Sweeping task) (low : task.maxSeq.toNat + 1 < 2 ^ 64)
    (events : List RetrievalEvent) : (retrieval.run events).Sweeping task := by
  induction events generalizing retrieval with
  | nil => exact sweeping
  | cons event rest ih => exact ih (sweeping.react event (sweeping.low_react low event))

/-- No attempt fails as it begins. -/
theorem Sweeping.begin_ne_failed (sweeping : retrieval.Sweeping task)
    (low : task.maxSeq.toNat + 1 < 2 ^ 64) (idle : retrieval.attempt = none)
    (config : FetchConfig) : (retrieval.react (.begin config)).ending ≠ some .failed := by
  have bounded := sweeping.low_react low (.begin config)
  simp only [Retrieval.react, idle] at bounded ⊢
  exact (Fetcher.advances_begin sweeping.course.sound sweeping.course.floor bounded).1

/-- An attempt that is under way fails for no other reason than a request that is not answered while
no record arrives. -/
theorem Sweeping.failed_react (sweeping : retrieval.Sweeping task)
    (low : task.maxSeq.toNat + 1 < 2 ^ 64) {config : FetchConfig} {window : Window}
    (under : retrieval.attempt = some (config, window)) {event : RetrievalEvent}
    (failed : (retrieval.react event).ending = some .failed) :
    ∃ now, ∃ seq ∈ window.inFlight, event = .resolve now seq none ∧
      window.isActive now config.segmentTimeout = false := by
  have bounded := sweeping.low_react low event
  obtain ⟨going, sweeps, -⟩ := sweeping.going config window under
  rcases retrieval.react_cases event with same | ⟨other, rfl, idle, step⟩ |
    ⟨other, held, now, seq, answer, rfl, there, waiting, step⟩ | ⟨resolve, now, rfl, idle, step⟩
  · rw [same, going] at failed
    cases failed
  · rw [under] at idle
    cases idle
  · cases there.symm.trans under
    rw [step] at failed bounded
    obtain ⟨rfl, silent⟩ := (Fetcher.advances_receive sweeps waiting now answer bounded).1 failed
    exact ⟨now, seq, waiting, rfl, silent⟩
  · rw [under] at idle
    cases idle

/-- Over all attempts of a fetcher whose range ends below the highest number, whatever has arrived
before, and however the requests are answered: while an attempt is under way, a request is in flight
and no more than the window holds, each for another record of the range that is missing; the records
of the range before the next one to request have arrived or are in flight; and the attempt fails
only by a request that is not answered while no record arrives.  No attempt fails as it begins.  The
records of an attempt are requested for the first time in ascending order. -/
theorem window_never_stalls (fetcher : Fetcher) {arrivals : List Seq}
    (low : fetcher.task.maxSeq.toNat + 1 < 2 ^ 64)
    (arrived : ∀ seq ∈ arrivals, seq.toNat + 1 < 2 ^ 64)
    (reached : fetcher.progress = .after fetcher.task.minSeq arrivals)
    (events : List RetrievalEvent) :
    let retrieval := (start fetcher).run events
    (∀ config window, retrieval.attempt = some (config, window) →
      window.inFlight ≠ [] ∧ window.inFlight.Nodup ∧
        window.inFlight.length ≤ max 1 config.width ∧
        (∀ seq ∈ window.inFlight, fetcher.task.contains seq = true ∧
          retrieval.fetcher.progress.isReceived seq = false) ∧
        (∀ seq, fetcher.task.contains seq = true → seq < window.nextRequest →
          retrieval.fetcher.progress.isReceived seq = true ∨ seq ∈ window.inFlight) ∧
        ∀ event, (retrieval.react event).ending = some .failed →
          ∃ now, ∃ seq ∈ window.inFlight, event = .resolve now seq none ∧
            window.isActive now config.segmentTimeout = false) ∧
    (retrieval.attempt = none →
      ∀ config, (retrieval.react (.begin config)).ending ≠ some .failed) ∧
    (firstRequests retrieval.current).Pairwise (· < ·) := by
  intro retrieval
  obtain ⟨sound, floor⟩ := reached ▸ Progress.sound_after arrived
  have sweeping : retrieval.Sweeping fetcher.task := (sweeping_start sound floor).run low events
  refine ⟨fun config window under => ?_, sweeping.begin_ne_failed low, sweeping.course.ordered⟩
  obtain ⟨-, sweeps, stays⟩ := sweeping.going config window under
  refine ⟨stays, sweeps.pending.distinct, max_comm config.width 1 ▸ sweeps.fits, ?_, ?_,
    fun event => sweeping.failed_react low under⟩
  · exact sweeping.same ▸ sweeps.pending.missing
  · exact sweeping.same ▸ fun seq inside before =>
      Fetcher.isTaken_iff.mp (sweeps.swept seq inside before)

/-- The second record of five has arrived before.  In a window of two the third one arrives, and the
first one is requested once more. -/
def gapEvents : List RetrievalEvent :=
  [.begin { FetchConfig.standard with width := 2 }, .resolve 5 3 (some []), .resolve 7 1 none,
    .resolve 8 4 (some [])]

/-- The first and the last record are in flight then. -/
theorem window_never_stalls_gap :
    let task : FetchTask := ⟨⟨.ofTexts ["p"]⟩, .ofTexts ["a"], 1, 5, .normal⟩
    let fetcher : Fetcher := { Fetcher.start task .broadcast 0 0 with progress := .after 1 [2] }
    let retrieval := (start fetcher).run gapEvents
    task.maxSeq.toNat + 1 < 2 ^ 64 ∧ requested retrieval.current = [1, 3, 4, 1, 5] ∧
      (firstRequests retrieval.current).Pairwise (· < ·) ∧
      ∀ config window, retrieval.attempt = some (config, window) →
        window.inFlight.length ≤ 2 ∧ window.inFlight ≠ [] := by
  intro task fetcher retrieval
  have low : task.maxSeq.toNat + 1 < 2 ^ 64 := by decide
  have arrived : ∀ seq ∈ [(2 : Seq)], seq.toNat + 1 < 2 ^ 64 :=
    List.forall_mem_singleton.mpr (by decide)
  obtain ⟨holds, -, ordered⟩ := window_never_stalls fetcher low arrived rfl gapEvents
  refine ⟨low, by decide +kernel, ordered, fun config window under => ?_⟩
  obtain ⟨stays, -, fits, -⟩ := holds config window under
  have width : retrieval.attempt.map (·.1.width) = some 2 := by decide +kernel
  rw [under] at width
  have two : config.width = 2 := Option.some.inj width
  rw [two] at fits
  exact ⟨fits, stays⟩

end Retrieval

end DigestSync
