import DigestSync.Fetch.Retrieval
import DigestSync.Proofs.Fetch.Progress
import DigestSync.Proofs.Fetch.Window

set_option autoImplicit false

/-! # Every record is handed over once

The records handed over in all attempts so far are those of the task that have arrived,
each once, and none of them was requested afterwards.  A request goes out only for a
record that has not arrived, and only a record whose request is in flight can be handed
over; every step of an attempt keeps this.  An attempt is completed when all has
arrived, and says so once.
-/

namespace DigestSync

open scoped SeqOrder

namespace FetchAction

/-- The later action does not request what the earlier one handed over. -/
def NotAgain (early late : FetchAction) : Prop :=
  ∀ seq, early.delivered? = some seq → late.requested? ≠ some seq

theorem delivered_append (early late : List FetchAction) :
    delivered (early ++ late) = delivered early ++ delivered late := List.filterMap_append

end FetchAction

open FetchAction

/-- What was called for so far agrees with what has arrived. -/
structure Ledger (task : FetchTask) (progress : Progress) (trace : List FetchAction) : Prop where
  sound : progress.Sound
  floor : task.minSeq ≤ progress.next
  arrived : ∀ seq, task.minSeq ≤ seq →
    (progress.isReceived seq = true ↔ seq ∈ delivered trace)
  distinct : (delivered trace).Nodup
  within : ∀ seq ∈ delivered trace, task.contains seq = true
  settled : trace.Pairwise NotAgain

namespace Ledger

variable {task : FetchTask} {progress : Progress} {trace : List FetchAction}

theorem start (task : FetchTask) : Ledger task (Progress.start task.minSeq) [] where
  sound := Progress.sound_start _
  floor := le_refl _
  arrived := by
    intro seq above
    have above := UInt64.le_iff_toNat_le.mp above
    rw [Progress.isReceived_iff]
    simp [Progress.start, Run.covers_nil, delivered, above]
  distinct := List.nodup_nil
  within := by simp [delivered]
  settled := List.Pairwise.nil

theorem not_delivered (ledger : Ledger task progress trace) {seq : Seq}
    (missing : progress.isReceived seq = false) : seq ∉ delivered trace := by
  intro member
  obtain ⟨above, -⟩ := (task.contains_iff seq).mp (ledger.within seq member)
  rw [(ledger.arrived seq above).mpr member] at missing
  cases missing

/-- Whatever hands nothing over and requests only what has not arrived may be called
for. -/
theorem append (ledger : Ledger task progress trace) {more : List FetchAction}
    (silent : ∀ action ∈ more, action.delivered? = none)
    (missing : ∀ action ∈ more, ∀ seq, action.requested? = some seq →
      progress.isReceived seq = false) : Ledger task progress (trace ++ more) := by
  have same : delivered (trace ++ more) = delivered trace := by
    have none : delivered more = [] := List.filterMap_eq_nil_iff.mpr silent
    rw [delivered_append, none, List.append_nil]
  constructor
  case sound => exact ledger.sound
  case floor => exact ledger.floor
  case arrived =>
    rw [same]
    exact ledger.arrived
  case distinct =>
    rw [same]
    exact ledger.distinct
  case within =>
    rw [same]
    exact ledger.within
  case settled =>
    refine List.pairwise_append.mpr ⟨ledger.settled, ?_, ?_⟩
    · refine List.pairwise_of_forall_mem_list ?_
      intro early member late _ seq handed
      rw [silent early member] at handed
      cases handed
    · intro early member late inside seq handed asked
      exact ledger.not_delivered (missing late inside seq asked)
        (List.mem_filterMap.mpr ⟨early, member, handed⟩)

/-- A record that has not arrived may be requested. -/
theorem request {fetcher : Fetcher} (ledger : Ledger fetcher.task progress trace) {seq : Seq}
    (missing : progress.isReceived seq = false) (config : FetchConfig) :
    Ledger fetcher.task progress (trace ++ [fetcher.requestOf config seq]) := by
  apply ledger.append
  · intro action member
    rw [List.mem_singleton.mp member]
    rfl
  · intro action member other asked
    rw [List.mem_singleton.mp member] at asked
    cases asked
    exact missing

/-- A record of the task that has not arrived may be handed over. -/
theorem deliver (ledger : Ledger task progress trace)
    (low : task.maxSeq.toNat + 1 < 2 ^ 64) {seq : Seq} (inside : task.contains seq = true)
    (missing : progress.isReceived seq = false) (content : Bytes) :
    Ledger task (progress.mark seq) (trace ++ [.deliver task seq content]) := by
  have bound := succ_toNat_lt_of_le_of_low ((task.contains_iff seq).mp inside).2 low
  have grown : delivered (trace ++ [.deliver task seq content]) = delivered trace ++ [seq] :=
    delivered_append _ _
  constructor
  case sound => exact Progress.sound_mark ledger.sound bound
  case floor => exact ledger.floor.trans (Progress.next_le_mark ledger.sound bound)
  case arrived =>
    intro other above
    rw [Progress.isReceived_mark ledger.sound bound, ledger.arrived other above, grown,
      List.mem_append, List.mem_singleton, or_comm]
  case distinct =>
    rw [grown]
    exact List.Nodup.append ledger.distinct (List.nodup_singleton _)
      (by simpa using ledger.not_delivered missing)
  case within =>
    intro other member
    rw [grown] at member
    rcases List.mem_append.mp member with old | new
    · exact ledger.within other old
    · rw [List.mem_singleton.mp new]
      exact inside
  case settled =>
    refine List.pairwise_append.mpr ⟨ledger.settled, List.pairwise_singleton _ _, ?_⟩
    intro early _ late member other _
    rw [List.mem_singleton.mp member]
    simp [requested?]

end Ledger

/-! ## Steps of an attempt -/

/-- The outcome of a step of an attempt, with what was called for before it. -/
structure Outcome (task : FetchTask) (trace : List FetchAction) (turn : FetchTurn) : Prop where
  same : turn.fetcher.task = task
  ledger : Ledger task turn.fetcher.progress (trace ++ turn.actions)
  pending : turn.ending = none → turn.fetcher.Pending turn.window
  completed : turn.ending = some .completed → turn.fetcher.isComplete = true ∧
    ∃ body, turn.actions = body ++ [.finish task] ∧ ∀ action ∈ body, action.isFinish = false
  unfinished : turn.ending ≠ some .completed → ∀ action ∈ turn.actions, action.isFinish = false

namespace Fetcher

variable {trace : List FetchAction} {config : FetchConfig} {window : Window}

/-- A step that goes on has called for something that is no end, and fills the
window. -/
theorem outcome_proceed (fetcher : Fetcher) {actions : List FetchAction}
    (ledger : Ledger fetcher.task fetcher.progress (trace ++ actions))
    (low : fetcher.task.maxSeq.toNat + 1 < 2 ^ 64) (pending : fetcher.Pending window)
    (unfinished : ∀ action ∈ actions, action.isFinish = false) :
    Outcome fetcher.task trace (fetcher.proceed config window actions) := by
  have missing : ∀ action ∈ (fetcher.fill config window).2, ∃ seq,
      action = fetcher.requestOf config seq ∧ fetcher.progress.isReceived seq = false :=
    fun action => missing_of_mem_fill
  constructor
  case same => rfl
  case ledger =>
    show Ledger _ _ (trace ++ (actions ++ (fetcher.fill config window).2))
    rw [← List.append_assoc]
    refine ledger.append (fun action member => ?_) fun action member other asked => ?_
    · obtain ⟨seq, rfl, -⟩ := missing action member
      rfl
    · obtain ⟨seq, rfl, absent⟩ := missing action member
      cases asked
      exact absent
  case pending => exact fun _ => pending_fill low pending
  case completed =>
    intro ended
    simp only [proceed] at ended
    split at ended <;> cases ended
  case unfinished =>
    intro _ action member
    rcases List.mem_append.mp member with old | new
    · exact unfinished action old
    · obtain ⟨seq, rfl, -⟩ := missing action new
      rfl

variable {fetcher : Fetcher}

/-- When all has arrived, the attempt says so and is completed. -/
theorem outcome_completed {body : List FetchAction}
    (ledger : Ledger fetcher.task fetcher.progress (trace ++ body))
    (complete : fetcher.isComplete = true) (unfinished : ∀ action ∈ body, action.isFinish = false) :
    Outcome fetcher.task trace
      ⟨fetcher, window, body ++ [.finish fetcher.task], some .completed⟩ := by
  constructor
  case same => rfl
  case ledger =>
    show Ledger _ _ (trace ++ (body ++ [.finish fetcher.task]))
    rw [← List.append_assoc]
    exact ledger.append (by simp [delivered?]) (by simp [requested?])
  case pending =>
    intro going
    cases going
  case completed =>
    intro _
    exact ⟨complete, body, rfl, unfinished⟩
  case unfinished =>
    intro going
    exact absurd rfl going

/-- The attempt fails with nothing called for. -/
theorem outcome_failed (ledger : Ledger fetcher.task fetcher.progress trace) :
    Outcome fetcher.task trace ⟨fetcher, window, [], some .failed⟩ := by
  constructor
  case same => rfl
  case ledger => rwa [List.append_nil]
  case pending =>
    intro going
    cases going
  case completed =>
    intro ended
    cases ended
  case unfinished => simp

theorem outcome_begin (ledger : Ledger fetcher.task fetcher.progress trace)
    (low : fetcher.task.maxSeq.toNat + 1 < 2 ^ 64) (config : FetchConfig) :
    Outcome fetcher.task trace (fetcher.begin config) := by
  let begun : Fetcher := { fetcher with attempts := fetcher.attempts + 1 }
  have bare : Ledger begun.task begun.progress (trace ++ []) := by
    rwa [List.append_nil]
  unfold begin
  simp only
  split
  · rename_i complete
    have whole : begun.isComplete = true := complete
    exact outcome_completed bare whole (by simp)
  · have pending : begun.Pending (Window.start fetcher.progress.next) :=
      ⟨List.nodup_nil, by simp [Window.start], ledger.floor⟩
    exact outcome_proceed begun bare low pending (by simp)

theorem outcome_receive (ledger : Ledger fetcher.task fetcher.progress trace)
    (low : fetcher.task.maxSeq.toNat + 1 < 2 ^ 64) (pending : fetcher.Pending window)
    {seq : Seq} (waiting : seq ∈ window.inFlight) (now : Instant) (answer : Option Bytes) :
    Outcome fetcher.task trace (fetcher.receive config window now seq answer) := by
  obtain ⟨inside, missing⟩ := pending.missing seq waiting
  unfold receive
  cases answer with
  | some content =>
    have handed := ledger.deliver low inside missing content
    have upto := ((fetcher.task.contains_iff seq).mp inside).2
    have others := pending.accept ledger.sound (succ_toNat_lt_of_le_of_low upto low) now
    simp only
    split
    · rename_i complete
      exact outcome_completed handed complete (by simp [isFinish])
    · exact outcome_proceed (fetcher.accept seq) handed low others (by simp [isFinish])
  | none =>
    simp only
    split
    · have again := ledger.request missing config
      exact outcome_proceed fetcher again low (pending.again waiting)
        (by simp [requestOf, isFinish])
    · exact outcome_failed ledger

end Fetcher

/-! ## Whole retrievals -/

namespace Retrieval

/-- After a step the attempt goes on just if this has not ended it. -/
theorem attempt_absorb {config : FetchConfig} {turn : FetchTurn} (retrieval : Retrieval) :
    (retrieval.absorb config turn).attempt =
      if turn.ending = none then some (config, turn.window) else none := by
  cases ended : turn.ending <;> simp [absorb, ended]

/-- What an event does: nothing, a step of an attempt, or a pause after one. -/
theorem react_cases (retrieval : Retrieval) (event : RetrievalEvent) :
    retrieval.react event = retrieval ∨
    (∃ config, event = .begin config ∧ retrieval.attempt = none ∧
      retrieval.react event = { retrieval with past := retrieval.trace, current := [] }.absorb
        config (retrieval.fetcher.begin config)) ∨
    (∃ config window now seq answer, event = .resolve now seq answer ∧
      retrieval.attempt = some (config, window) ∧ seq ∈ window.inFlight ∧
      retrieval.react event =
        retrieval.absorb config (retrieval.fetcher.receive config window now seq answer)) ∨
    ∃ resolve now, event = .backOff resolve now ∧ retrieval.attempt = none ∧
      retrieval.react event =
        { retrieval with fetcher := retrieval.fetcher.failAttempt resolve now } := by
  cases event with
  | begin config =>
    cases under : retrieval.attempt with
    | some attempt => exact Or.inl (by simp only [react, under])
    | none => exact Or.inr (Or.inl ⟨config, rfl, rfl, by simp only [react, under]⟩)
  | resolve now seq answer =>
    cases under : retrieval.attempt with
    | none => exact Or.inl (by simp only [react, under])
    | some attempt =>
      obtain ⟨config, window⟩ := attempt
      by_cases waiting : seq ∈ window.inFlight
      · refine Or.inr (Or.inr (Or.inl ⟨config, window, now, seq, answer, rfl, rfl, waiting, ?_⟩))
        simp only [react, under, waiting, if_true]
      · exact Or.inl (by simp only [react, under, waiting, if_false])
  | backOff resolve now =>
    cases under : retrieval.attempt with
    | some attempt => exact Or.inl (by simp only [react, under])
    | none => exact Or.inr (Or.inr (Or.inr ⟨resolve, now, rfl, rfl, by simp only [react, under]⟩))

/-- What every event keeps. -/
structure Kept (task : FetchTask) (retrieval : Retrieval) : Prop where
  same : retrieval.fetcher.task = task
  ledger : Ledger task retrieval.fetcher.progress retrieval.trace
  going : ∀ attempt, retrieval.attempt = some attempt →
    retrieval.ending = none ∧ retrieval.fetcher.Pending attempt.2
  completed : retrieval.ending = some .completed → retrieval.fetcher.isComplete = true ∧
    ∃ body, retrieval.current = body ++ [.finish task] ∧
      ∀ action ∈ body, action.isFinish = false
  unfinished : retrieval.ending ≠ some .completed →
    ∀ action ∈ retrieval.current, action.isFinish = false

variable {task : FetchTask} {retrieval : Retrieval}

theorem kept_start (task : FetchTask) (hint : ForwardingHint) (maxPause : Duration)
    (now : Instant) : (start (Fetcher.start task hint maxPause now)).Kept task where
  same := rfl
  ledger := Ledger.start task
  going := fun attempt going => by cases going
  completed := fun ended => by cases ended
  unfinished := by simp [start]

/-- Taking over the outcome of a step keeps all, if no end was called for in this
attempt before. -/
theorem kept_absorb {turn : FetchTurn} (outcome : Outcome task retrieval.trace turn)
    (unfinished : ∀ action ∈ retrieval.current, action.isFinish = false)
    (config : FetchConfig) : (retrieval.absorb config turn).Kept task := by
  constructor
  case same => exact outcome.same
  case ledger =>
    have ledger := outcome.ledger
    rw [trace, List.append_assoc] at ledger
    exact ledger
  case going =>
    intro attempt going
    rw [attempt_absorb] at going
    split at going
    · rename_i ended
      cases going
      exact ⟨ended, outcome.pending ended⟩
    · cases going
  case completed =>
    intro ended
    obtain ⟨complete, body, actions, quiet⟩ := outcome.completed ended
    refine ⟨complete, retrieval.current ++ body, ?_, fun action member => ?_⟩
    · rw [List.append_assoc, ← actions]
      rfl
    · exact (List.mem_append.mp member).elim (unfinished action) (quiet action)
  case unfinished =>
    intro going action member
    exact (List.mem_append.mp member).elim (unfinished action) (outcome.unfinished going action)

theorem kept_react (kept : retrieval.Kept task) (low : task.maxSeq.toNat + 1 < 2 ^ 64)
    (event : RetrievalEvent) : (retrieval.react event).Kept task := by
  obtain rfl := kept.same
  rcases retrieval.react_cases event with same | ⟨config, rfl, idle, step⟩ |
    ⟨config, window, now, seq, answer, rfl, under, waiting, step⟩ | ⟨resolve, now, rfl, idle, step⟩
  · rw [same]
    exact kept
  · have outcome := Fetcher.outcome_begin kept.ledger low config
    rw [step]
    refine kept_absorb ?_ (by simp) config
    rwa [trace, List.append_nil]
  · obtain ⟨going, pending⟩ := kept.going _ under
    rw [step]
    refine kept_absorb ?_ (kept.unfinished (by simp [going])) config
    exact Fetcher.outcome_receive kept.ledger low pending waiting now answer
  · rw [step]
    exact ⟨rfl, kept.ledger, fun attempt going => absurd going (by simp [idle]),
      kept.completed, kept.unfinished⟩

theorem kept_run (kept : retrieval.Kept task) (low : task.maxSeq.toNat + 1 < 2 ^ 64)
    (events : List RetrievalEvent) : (retrieval.run events).Kept task := by
  induction events generalizing retrieval with
  | nil => exact kept
  | cons event rest ih => exact ih (kept_react kept low event)

/-- When an attempt is completed, its last action says so, and every record of the task
was handed over once before. -/
theorem Kept.count_of_completed (kept : retrieval.Kept task)
    (ended : retrieval.ending = some .completed) :
    ∃ body, retrieval.current = body ++ [.finish task] ∧
      (∀ action ∈ body, action.isFinish = false) ∧
      ∀ seq, task.contains seq = true →
        (delivered (retrieval.past ++ body)).count seq = 1 := by
  obtain ⟨complete, body, current, quiet⟩ := kept.completed ended
  have whole : delivered retrieval.trace = delivered (retrieval.past ++ body) := by
    rw [trace, current, ← List.append_assoc, delivered_append]
    exact List.append_nil _
  refine ⟨body, current, quiet, ?_⟩
  intro seq inside
  obtain ⟨above, upto⟩ := (task.contains_iff seq).mp inside
  have arrived : retrieval.fetcher.progress.isReceived seq = true :=
    Progress.isReceived_of_isComplete complete (kept.same ▸ upto)
  have handed := (kept.ledger.arrived seq above).mp arrived
  have distinct := kept.ledger.distinct
  rw [whole] at handed distinct
  exact List.count_eq_one_of_mem distinct handed

/-- Over all attempts of a fetcher whose range ends below the highest number, however
the requests are answered: every record is handed over at most once, and only if it is
one of the task; a record handed over is not requested afterwards; an attempt that is
completed ends with saying so, once, after every record of the task has been handed
over exactly once; and an attempt that failed has not said so. -/
theorem delivers_each_once (task : FetchTask) (low : task.maxSeq.toNat + 1 < 2 ^ 64)
    (hint : ForwardingHint) (maxPause : Duration) (now : Instant)
    (events : List RetrievalEvent) :
    let retrieval := (start (Fetcher.start task hint maxPause now)).run events
    (∀ seq, (delivered retrieval.trace).count seq ≤ 1 ∧
      (seq ∈ delivered retrieval.trace → task.contains seq = true)) ∧
    (∀ early action late seq, retrieval.trace = early ++ action :: late →
      action.delivered? = some seq → ∀ later ∈ late, later.requested? ≠ some seq) ∧
    (retrieval.ending = some .completed →
      ∃ body, retrieval.current = body ++ [.finish task] ∧
        (∀ action ∈ body, action.isFinish = false) ∧
        ∀ seq, task.contains seq = true →
          (delivered (retrieval.past ++ body)).count seq = 1) ∧
    (retrieval.ending = some .failed →
      ∀ action ∈ retrieval.current, action.isFinish = false) := by
  intro retrieval
  have kept : retrieval.Kept task := kept_run (kept_start task hint maxPause now) low events
  refine ⟨fun seq => ⟨?_, kept.ledger.within seq⟩, ?_, kept.count_of_completed, ?_⟩
  · exact List.nodup_iff_count_le_one.mp kept.ledger.distinct seq
  · intro early action late seq split handed later member
    have settled := kept.ledger.settled
    rw [split] at settled
    have following := (List.pairwise_append.mp settled).2.1
    exact (List.pairwise_cons.mp following).1 later member seq handed
  · exact fun failed => kept.unfinished (by rw [failed]; simp)

/-- Two records of three arrive in an attempt that fails, and the third one in the
next. -/
def interrupted : List RetrievalEvent :=
  let config := { FetchConfig.standard with width := 2 }
  [.begin config, .resolve 5 2 (some []), .resolve 6 1 none, .resolve 7 3 (some [1]),
    .resolve (Duration.ofSeconds 60) 1 none, .backOff (fun _ => Name.empty) 60,
    .begin config, .resolve (Duration.ofSeconds 70) 1 (some [])]

/-- The records of an interrupted retrieval are handed over once each. -/
theorem delivers_each_once_interrupted :
    let task : FetchTask := ⟨⟨.ofTexts ["p"]⟩, .ofTexts ["a"], 1, 3, .normal⟩
    let retrieval := (start (Fetcher.start task .broadcast 0 0)).run interrupted
    task.maxSeq.toNat + 1 < 2 ^ 64 ∧ retrieval.ending = some .completed ∧
      ∃ body, retrieval.current = body ++ [.finish task] ∧
        ∀ seq, task.contains seq = true →
          (delivered (retrieval.past ++ body)).count seq = 1 := by
  intro task retrieval
  have low : task.maxSeq.toNat + 1 < 2 ^ 64 := by decide
  have ended : retrieval.ending = some .completed := by decide +kernel
  obtain ⟨-, -, completes, -⟩ := delivers_each_once task low .broadcast 0 0 interrupted
  obtain ⟨body, current, -, counts⟩ := completes ended
  exact ⟨low, ended, body, current, counts⟩

end Retrieval

end DigestSync
