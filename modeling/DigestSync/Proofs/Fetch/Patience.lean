import DigestSync.Fetch.Patience
import DigestSync.Proofs.Fetch.Sweep
import Mathlib.Algebra.BigOperators.Group.List.Lemmas
import Mathlib.Algebra.Order.BigOperators.Group.List
import Mathlib.Algebra.Order.Group.Nat
import Mathlib.Data.List.Iterate

set_option autoImplicit false

/-! # How often records are requested

A record whose request was not answered is requested again only if another one has arrived less than
a request's time ago.  Over a patient transport that one has arrived since the last request, and so
each request of a record but the first one is charged to an arrival of its own.  A record arrives
once, which bounds all the requests of an attempt, and with them its length.
-/

namespace DigestSync

open FetchAction

open scoped SeqOrder

/-- Distinct records of a range are no more than these. -/
theorem FetchTask.length_le_of_nodup (task : FetchTask) {seqs : List Seq} (distinct : seqs.Nodup)
    (within : ∀ seq ∈ seqs, task.contains seq = true) :
    seqs.length ≤ task.maxSeq.toNat + 1 - task.minSeq.toNat := by
  have inside : seqs.map UInt64.toNat ⊆
      List.range' task.minSeq.toNat (task.maxSeq.toNat + 1 - task.minSeq.toNat) := by
    intro number member
    obtain ⟨seq, there, rfl⟩ := List.mem_map.mp member
    obtain ⟨above, upTo⟩ := (task.contains_iff seq).mp (within seq there)
    rw [UInt64.le_iff_toNat_le] at above upTo
    rw [List.mem_range'_1]
    omega
  have apart : (seqs.map UInt64.toNat).Nodup := distinct.map fun _ _ => UInt64.toNat_inj.mp
  have fewer := (List.subperm_of_subset apart inside).length_le
  rwa [List.length_map, List.length_range'] at fewer

/-- A window is active if a record has arrived less than a span ago. -/
theorem Window.isActive_iff {window : Window} {now : Instant} {span : Duration} :
    window.isActive now span = true ↔ ∃ arrival ∈ window.lastArrival, now - arrival < span := by
  unfold isActive
  cases window.lastArrival <;> simp

namespace Fetcher

variable {fetcher : Fetcher} {config : FetchConfig} {window : Window}
  {actions : List FetchAction} {clock : Instant} {deadline : Seq → Instant} {handled : Nat}
  {seq : Seq}

/-! ## While an attempt goes on -/

/-- No record in flight was requested more often than once beyond the arrivals, and no more often
than these if one of them came after its last request; nor were the other records.  Each request is
resolved or in flight. -/
structure Charged (config : FetchConfig) (window : Window) (actions : List FetchAction)
    (clock : Instant) (deadline : Seq → Instant) (handled : Nat) : Prop where
  distinct : window.inFlight.Nodup
  recent : ∀ arrival ∈ window.lastArrival, arrival ≤ clock
  idle : ∀ seq ∉ window.inFlight, (requested actions).count seq ≤ (delivered actions).length
  waiting : ∀ seq ∈ window.inFlight,
    (requested actions).count seq ≤ 1 + (delivered actions).length
  since : ∀ seq ∈ window.inFlight, ∀ arrival ∈ window.lastArrival,
    deadline seq < arrival + config.segmentTimeout →
      (requested actions).count seq ≤ (delivered actions).length
  balanced : (requested actions).length = handled + window.inFlight.length

namespace Charged

variable (charged : Charged config window actions clock deadline handled)

include charged

theorem count_le (seq : Seq) :
    (requested actions).count seq ≤ 1 + (delivered actions).length := by
  by_cases member : seq ∈ window.inFlight
  · exact charged.waiting seq member
  · exact (charged.idle seq member).trans (Nat.le_add_left _ _)

/-- A record that is not in flight may be requested. -/
theorem request (fresh : seq ∉ window.inFlight) (fetcher : Fetcher) (nextRequest : Seq) :
    Charged config { window with nextRequest, inFlight := window.inFlight ++ [seq] }
      (actions ++ [fetcher.requestOf config seq]) clock
      ((fetcher.requestOf config seq).date clock deadline) handled := by
  have asked : requested (actions ++ [fetcher.requestOf config seq]) = requested actions ++ [seq] :=
    requested_append_singleton rfl
  have same : delivered (actions ++ [fetcher.requestOf config seq]) = delivered actions :=
    delivered_append_of_silent rfl
  have others : ∀ other ≠ seq,
      (requested (actions ++ [fetcher.requestOf config seq])).count other =
        (requested actions).count other := by
    intro other apart
    rw [asked, List.count_append, List.count_singleton, if_neg (by simpa using apart.symm),
      Nat.add_zero]
  have here : (requested (actions ++ [fetcher.requestOf config seq])).count seq =
      1 + (requested actions).count seq := by
    rw [asked, List.count_append, List.count_singleton_self, Nat.add_comm]
  have few := charged.idle seq fresh
  constructor
  case distinct =>
    exact charged.distinct.append (List.nodup_singleton seq) (List.disjoint_singleton.mpr fresh)
  case recent => exact charged.recent
  case idle =>
    intro other absent
    obtain ⟨out, apart⟩ := not_or.mp (mt List.mem_append.mpr absent)
    rw [others other (by simpa using apart), same]
    exact charged.idle other out
  case waiting =>
    rw [List.forall_mem_append, List.forall_mem_singleton, same]
    refine ⟨fun other member => ?_, ?_⟩
    · rw [others other fun here => fresh (here ▸ member)]
      exact charged.waiting other member
    · exact here ▸ Nat.add_le_add_left few 1
  case since =>
    rw [List.forall_mem_append, List.forall_mem_singleton, same]
    refine ⟨fun other member arrival arrived early => ?_, fun arrival arrived early => ?_⟩
    · have apart : other ≠ seq := fun here => fresh (here ▸ member)
      rw [others other apart]
      refine charged.since other member arrival arrived ?_
      simpa [date, requestOf, apart] using early
    · -- The request goes out now, and nothing has arrived since.
      have after : clock < arrival := by simpa [date, requestOf, interestOf] using early
      exact absurd (charged.recent arrival arrived) (not_le.mpr after)
  case balanced =>
    rw [asked, List.length_append, List.length_append, charged.balanced, Nat.add_assoc]

/-- A request that is over leaves the window, if its record was not requested more often than
others have arrived. -/
theorem drop (member : seq ∈ window.inFlight)
    (few : (requested actions).count seq ≤ (delivered actions).length) {now : Instant}
    (later : clock ≤ now) :
    Charged config { window with inFlight := window.inFlight.erase seq } actions now deadline
      (handled + 1) := by
  constructor
  case distinct => exact charged.distinct.erase seq
  case recent => exact fun arrival arrived => (charged.recent arrival arrived).trans later
  case idle =>
    intro other absent
    by_cases here : other = seq
    · exact here ▸ few
    · exact charged.idle other (by simpa [charged.distinct.mem_erase_iff, here] using absent)
  case waiting =>
    exact fun other inside => charged.waiting other (List.mem_of_mem_erase inside)
  case since =>
    exact fun other inside => charged.since other (List.mem_of_mem_erase inside)
  case balanced =>
    have positive := List.length_pos_of_mem member
    rw [charged.balanced, List.length_erase_of_mem member]
    omega

/-- An arrival pays for one more request of each record. -/
theorem arrive (member : seq ∈ window.inFlight) (now : Instant) (task : FetchTask)
    (content : Bytes) :
    Charged config { window with inFlight := window.inFlight.erase seq, lastArrival := some now }
      (actions ++ [.deliver task seq content]) now deadline (handled + 1) := by
  have same : requested (actions ++ [.deliver task seq content]) = requested actions :=
    requested_append_of_silent rfl
  have grown : (delivered (actions ++ [.deliver task seq content])).length =
      1 + (delivered actions).length := by
    rw [delivered_append_singleton rfl, List.length_append, List.length_singleton, Nat.add_comm]
  have paid : ∀ other, (requested (actions ++ [.deliver task seq content])).count other ≤
      (delivered (actions ++ [.deliver task seq content])).length := by
    intro other
    rw [same, grown]
    exact charged.count_le other
  constructor
  case distinct => exact charged.distinct.erase seq
  case recent => exact fun arrival arrived => le_of_eq (Option.some.inj arrived).symm
  case idle => exact fun other _ => paid other
  case waiting => exact fun other _ => (paid other).trans (Nat.le_add_left _ _)
  case since => exact fun other _ _ _ _ => paid other
  case balanced =>
    have positive := List.length_pos_of_mem member
    rw [same, charged.balanced, List.length_erase_of_mem member]
    omega

/-- Filling the window keeps the charges. -/
theorem fill (fetcher : Fetcher) :
    Charged config (fetcher.fill config window).1 (actions ++ (fetcher.fill config window).2) clock
      ((fetcher.fill config window).2.foldl (date clock) deadline) handled := by
  fun_induction fetcher.fill config window generalizing actions deadline with
  | case1 => simpa using charged
  | case2 window room seq found filled requests step ih =>
    rw [step] at ih
    obtain ⟨-, -, free⟩ := nextFree_spec found
    have fresh : seq ∉ window.inFlight := by
      simp only [isTaken, Bool.or_eq_false_iff, List.contains_eq_mem,
        decide_eq_false_iff_not] at free
      exact free.2
    have onwards := ih (charged.request fresh fetcher (seq + 1))
    rwa [List.append_assoc, List.singleton_append] at onwards
  | case3 => simpa using charged

end Charged

/-! ## Steps of an attempt -/

/-- The outcome of a step of an attempt, with what was called for before it. -/
structure Charges (config : FetchConfig) (before : List FetchAction) (now : Instant)
    (deadline : Seq → Instant) (handled : Nat) (turn : FetchTurn) : Prop where
  count_le : ∀ seq, (requested (before ++ turn.actions)).count seq ≤
    1 + (delivered (before ++ turn.actions)).length
  handled_le : handled ≤ (requested (before ++ turn.actions)).length
  going : turn.ending = none → turn.window.inFlight ≠ [] ∧
    Charged config turn.window (before ++ turn.actions) now (turn.actions.foldl (date now) deadline)
      handled

variable {before : List FetchAction} {now : Instant}

theorem charges_proceed (fetcher : Fetcher)
    (charged : Charged config window (before ++ actions) now (actions.foldl (date now) deadline)
      handled) :
    Charges config before now deadline handled (fetcher.proceed config window actions) := by
  have filled := charged.fill fetcher
  rw [List.append_assoc, ← List.foldl_append] at filled
  refine ⟨filled.count_le, ?_, fun going => ⟨?_, filled⟩⟩
  · exact filled.balanced ▸ Nat.le_add_right handled _
  · simpa [proceed] using going

theorem charges_begin (fetcher : Fetcher) (config : FetchConfig) (now : Instant)
    (deadline : Seq → Instant) :
    Charges config [] now deadline 0 (fetcher.begin config) := by
  unfold begin
  dsimp only
  split
  · exact ⟨fun _ => Nat.zero_le _, Nat.zero_le _, nofun⟩
  · have charged : Charged config (.start fetcher.progress.next) ([] ++ []) now
        (([] : List FetchAction).foldl (date now) deadline) 0 :=
      ⟨List.nodup_nil, nofun, fun _ _ => Nat.zero_le _, nofun, nofun, rfl⟩
    exact charges_proceed _ charged

/-- A step of an attempt over a patient transport keeps the charges. -/
theorem charges_receive (charged : Charged config window before clock deadline handled)
    (fetcher : Fetcher) (waiting : seq ∈ window.inFlight) (later : clock ≤ now)
    {answer : Option Bytes} (patient : answer = none → deadline seq ≤ now) :
    Charges config before now deadline (handled + 1)
      (fetcher.receive config window now seq answer) := by
  unfold receive
  cases answer with
  | some content =>
    have arrived := charged.arrive waiting now fetcher.task content
    dsimp only
    split
    · have last : before ++ [.deliver fetcher.task seq content, .finish (fetcher.accept seq).task] =
          before ++ [.deliver fetcher.task seq content] ++ [.finish (fetcher.accept seq).task] :=
        List.append_cons _ _ _
      constructor
      case count_le =>
        rw [last, requested_append_of_silent rfl, delivered_append_of_silent rfl]
        exact arrived.count_le
      case handled_le =>
        rw [last, requested_append_of_silent rfl, arrived.balanced]
        exact Nat.le_add_right _ _
      case going => exact nofun
    · exact charges_proceed (fetcher.accept seq) arrived
  | none =>
    dsimp only
    split
    · rename_i active
      -- The last arrival came after the request that is over.
      obtain ⟨arrival, arrived, recent⟩ := Window.isActive_iff.mp active
      have past : arrival ≤ now := (charged.recent arrival arrived).trans later
      have few := charged.since seq waiting arrival arrived <|
        lt_of_le_of_lt (patient rfl) ((Nat.sub_lt_iff_lt_add' past).mp recent)
      have dropped := charged.drop waiting few later
      have again := dropped.request charged.distinct.not_mem_erase fetcher window.nextRequest
      exact charges_proceed fetcher again
    · have same : before ++ [] = before := List.append_nil before
      have balanced : handled + 1 ≤ (requested before).length := by
        have positive := List.length_pos_of_mem waiting
        rw [charged.balanced]
        omega
      exact ⟨same.symm ▸ charged.count_le, same.symm ▸ balanced, nofun⟩

/-! ## All requests of an attempt -/

/-- The requests of an attempt are no more than the records of the range, each requested once and
once more for each of them. -/
theorem Course.length_requested_le (course : fetcher.Course actions)
    (count_le : ∀ seq, (requested actions).count seq ≤ 1 + (delivered actions).length) :
    let size := fetcher.task.maxSeq.toNat + 1 - fetcher.task.minSeq.toNat
    (requested actions).length ≤ size * (size + 1) := by
  intro size
  have arrivals : (delivered actions).length ≤ size :=
    fetcher.task.length_le_of_nodup course.once fun seq member =>
      course.within seq (course.handed seq member).1
  have records : (requested actions).dedup.length ≤ size :=
    fetcher.task.length_le_of_nodup (List.nodup_dedup _) fun seq member =>
      course.within seq (List.mem_dedup.mp member)
  have each : ∀ count ∈ (requested actions).dedup.map ((requested actions).count ·),
      count ≤ size + 1 := by
    rw [List.forall_mem_map]
    intro seq _
    have few := count_le seq
    omega
  calc (requested actions).length
      = ((requested actions).dedup.map ((requested actions).count ·)).sum :=
        (List.sum_map_count_dedup_eq_length _).symm
    _ ≤ (requested actions).dedup.length * (size + 1) := by
        simpa using List.sum_le_card_nsmul _ (size + 1) each
    _ ≤ size * (size + 1) := Nat.mul_le_mul_right _ records

/-! ## One request at a time -/

/-- The search stays where it starts if the record there is not taken. -/
theorem nextFree_of_not_isTaken (within : seq ≤ fetcher.task.maxSeq)
    (free : fetcher.isTaken window seq = false) : fetcher.nextFree window seq = some seq := by
  rw [nextFree]
  rcases lt_or_eq_of_le within with below | rfl
  · simp [below, free]
  · simp [free]

/-- With room for one request, that of the next record is made. -/
theorem fill_of_idle (alone : config.width ≤ 1) (idle : window.inFlight = [])
    (within : window.nextRequest ≤ fetcher.task.maxSeq)
    (free : fetcher.isTaken window window.nextRequest = false) :
    fetcher.fill config window =
      (⟨window.nextRequest + 1, [window.nextRequest], window.lastArrival⟩,
        [fetcher.requestOf config window.nextRequest]) := by
  have one : capacity config = 1 := max_eq_right alone
  rw [fill, if_pos (by simp [idle, one]), nextFree_of_not_isTaken within free]
  dsimp only
  rw [fill, if_neg (by simp [idle, one]), idle, List.nil_append]

/-- The records before this one have arrived and no others, in a range that ends in the highest
number. -/
structure Fresh (fetcher : Fetcher) (seq : Seq) : Prop where
  endless : fetcher.task.maxSeq = -1
  progress : fetcher.progress = .start seq

theorem seq_le_highest (seq : Seq) : seq ≤ -1 := by
  rw [UInt64.le_iff_toNat_le]
  have bound := seq.toNat_lt
  have highest : (-1 : UInt64).toNat = 2 ^ 64 - 1 := by decide
  omega

namespace Fresh

variable (fresh : fetcher.Fresh seq)

include fresh

theorem isComplete_eq_false : fetcher.isComplete = false := by
  rw [isComplete, Progress.isComplete, fresh.endless]
  exact decide_eq_false (not_lt.mpr (seq_le_highest _))

theorem isTaken_eq_false (idle : window.inFlight = []) : fetcher.isTaken window seq = false := by
  simp [isTaken, Progress.isReceived, fresh.progress, Progress.start, idle]

theorem accept : (fetcher.accept seq).Fresh (seq + 1) where
  endless := fresh.endless
  progress := by
    simp [Fetcher.accept, fresh.progress, Progress.mark, Progress.start, Progress.settle]

/-- The request of the record is made, and the attempt goes on. -/
theorem proceed_eq (alone : config.width ≤ 1) (lastArrival : Option Instant)
    (actions : List FetchAction) :
    fetcher.proceed config ⟨seq, [], lastArrival⟩ actions =
      ⟨fetcher, ⟨seq + 1, [seq], lastArrival⟩, actions ++ [fetcher.requestOf config seq],
        none⟩ := by
  have filled : fetcher.fill config ⟨seq, [], lastArrival⟩ =
      (⟨seq + 1, [seq], lastArrival⟩, [fetcher.requestOf config seq]) :=
    fill_of_idle alone rfl (fresh.endless ▸ seq_le_highest seq) (fresh.isTaken_eq_false rfl)
  rw [proceed, filled]
  rfl

/-- The attempt starts with the request of the record. -/
theorem begin_eq (alone : config.width ≤ 1) :
    fetcher.begin config =
      ⟨{ fetcher with attempts := fetcher.attempts + 1 }, ⟨seq + 1, [seq], none⟩,
        [fetcher.requestOf config seq], none⟩ := by
  have started : Fresh { fetcher with attempts := fetcher.attempts + 1 } seq :=
    ⟨fresh.endless, fresh.progress⟩
  have first : fetcher.progress.next = seq := by rw [fresh.progress, Progress.start]
  unfold begin
  dsimp only
  rw [started.isComplete_eq_false, first, Window.start]
  exact started.proceed_eq alone none []

/-- An answer is followed by the next request. -/
theorem receive_eq (alone : config.width ≤ 1) (lastArrival : Option Instant) (now : Instant)
    (content : Bytes) :
    fetcher.receive config ⟨seq + 1, [seq], lastArrival⟩ now seq (some content) =
      ⟨fetcher.accept seq, ⟨seq + 1 + 1, [seq + 1], some now⟩,
        [.deliver fetcher.task seq content, fetcher.requestOf config (seq + 1)], none⟩ := by
  have next := fresh.accept
  unfold receive
  dsimp only
  rw [next.isComplete_eq_false, List.erase_cons_head]
  exact next.proceed_eq alone (some now) _

end Fresh

end Fetcher

/-! ## Whole attempts -/

namespace TimedAttempt

open Retrieval

/-- What every admitted resolution keeps. -/
structure Charged (attempt : TimedAttempt) (handled : Nat) : Prop where
  count_le : ∀ seq, (requested attempt.retrieval.current).count seq ≤
    1 + (delivered attempt.retrieval.current).length
  handled_le : handled ≤ (requested attempt.retrieval.current).length
  ended : attempt.retrieval.attempt = none → attempt.retrieval.ending ≠ none
  going : ∀ config window, attempt.retrieval.attempt = some (config, window) →
    window.inFlight ≠ [] ∧ Fetcher.Charged config window attempt.retrieval.current attempt.clock
      attempt.deadline handled

variable {attempt : TimedAttempt} {handled : Nat}

/-- To take over the outcome of a step keeps all. -/
theorem charged_absorb {retrieval : Retrieval} {config : FetchConfig} {turn : FetchTurn}
    {now : Instant} {deadline : Seq → Instant}
    (charges : Fetcher.Charges config retrieval.current now deadline handled turn) :
    Charged ⟨retrieval.absorb config turn, now, turn.actions.foldl (date now) deadline⟩
      handled := by
  obtain ⟨count_le, handled_le, going⟩ := charges
  refine ⟨count_le, handled_le, ?_, ?_⟩
  · intro idle still
    have ended : turn.ending = none := still
    rw [attempt_absorb, if_pos ended] at idle
    cases idle
  · intro other window under
    rw [attempt_absorb] at under
    split at under
    · rename_i ended
      cases under
      exact going ended
    · cases under

theorem charged_start (fetcher : Fetcher) (config : FetchConfig) (now : Instant) :
    (start fetcher config now).Charged 0 :=
  charged_absorb (Fetcher.charges_begin fetcher config now fun _ => now)

/-- A resolution that is admitted is a step of the attempt. -/
theorem react_of_admits {resolution : Resolution} (admits : attempt.Admits resolution) :
    ∃ config window, attempt.retrieval.attempt = some (config, window) ∧
      resolution.seq ∈ window.inFlight ∧
      let turn := attempt.retrieval.fetcher.receive config window resolution.now resolution.seq
        resolution.answer
      attempt.react resolution =
        ⟨attempt.retrieval.absorb config turn, resolution.now,
          turn.actions.foldl (date resolution.now) attempt.deadline⟩ := by
  obtain ⟨waiting, -⟩ := admits
  unfold inFlight at waiting
  split at waiting
  · cases waiting
  · rename_i config window under
    refine ⟨config, window, under, waiting, ?_⟩
    have step : attempt.retrieval.react resolution.event =
        attempt.retrieval.absorb config (attempt.retrieval.fetcher.receive config window
          resolution.now resolution.seq resolution.answer) := by
      simp only [Resolution.event, Retrieval.react, under, waiting, if_true]
    unfold react
    rw [step]
    simp only [absorb, List.drop_left]

theorem Charged.react (charged : attempt.Charged handled) {resolution : Resolution}
    (admits : attempt.Admits resolution) : (attempt.react resolution).Charged (handled + 1) := by
  obtain ⟨config, window, under, waiting, step⟩ := react_of_admits admits
  obtain ⟨-, later, patient⟩ := admits
  rw [step]
  exact charged_absorb <| Fetcher.charges_receive (charged.going config window under).2
    attempt.retrieval.fetcher waiting later patient

/-- Over a patient transport all this holds throughout. -/
theorem Charged.run (charged : attempt.Charged handled) {resolutions : List Resolution}
    (patient : attempt.Patient resolutions) :
    (attempt.run resolutions).Charged (handled + resolutions.length) := by
  induction resolutions generalizing attempt handled with
  | nil => exact charged
  | cons resolution rest ih =>
    obtain ⟨admits, later⟩ := patient
    have onwards := ih (charged.react admits) later
    rwa [Nat.add_right_comm, Nat.add_assoc] at onwards

/-- As long as the attempt is not over, a request is in flight, whose time will be over. -/
theorem Charged.admits (charged : attempt.Charged handled)
    (going : attempt.retrieval.ending = none) : ∃ resolution, attempt.Admits resolution := by
  cases under : attempt.retrieval.attempt with
  | none => exact absurd going (charged.ended under)
  | some pair =>
    obtain ⟨config, window⟩ := pair
    obtain ⟨seq, waiting⟩ := List.exists_mem_of_ne_nil _ (charged.going config window under).1
    have there : seq ∈ attempt.inFlight := by rwa [inFlight, under]
    exact ⟨⟨max attempt.clock (attempt.deadline seq), seq, none⟩, there, le_max_left _ _,
      fun _ => le_max_right _ _⟩

/-! ## Ranges -/

theorem retrieval_run (attempt : TimedAttempt) (resolutions : List Resolution) :
    (attempt.run resolutions).retrieval =
      attempt.retrieval.run (resolutions.map Resolution.event) := by
  induction resolutions generalizing attempt with
  | nil => rfl
  | cons resolution rest ih => exact ih (attempt.react resolution)

/-- A resolution adds to what was called for. -/
theorem current_prefix_react (attempt : TimedAttempt) (resolution : Resolution) :
    attempt.retrieval.current <+: (attempt.react resolution).retrieval.current := by
  unfold react
  simp only [Resolution.event, Retrieval.react]
  split
  · exact List.prefix_rfl
  · split
    · exact List.prefix_append _ _
    · exact List.prefix_rfl

theorem requested_subset_run (attempt : TimedAttempt) (resolutions : List Resolution) :
    requested attempt.retrieval.current ⊆
      requested (attempt.run resolutions).retrieval.current := by
  have grown : attempt.retrieval.current <+: (attempt.run resolutions).retrieval.current := by
    induction resolutions generalizing attempt with
    | nil => exact List.prefix_rfl
    | cons resolution rest ih =>
      exact (attempt.current_prefix_react resolution).trans (ih (attempt.react resolution))
  exact (grown.filterMap requested?).subset

/-- As long as the highest number is not requested, the attempt sweeps over its range. -/
theorem sweeping_run {task : FetchTask} (sweeping : attempt.retrieval.Sweeping task)
    {resolutions : List Resolution}
    (low : ∀ seq ∈ requested (attempt.run resolutions).retrieval.current,
      seq.toNat + 1 < 2 ^ 64) : (attempt.run resolutions).retrieval.Sweeping task := by
  induction resolutions generalizing attempt with
  | nil => exact sweeping
  | cons resolution rest ih =>
    have step : (attempt.react resolution).retrieval.Sweeping task :=
      sweeping.react resolution.event fun seq member =>
        low seq ((attempt.react resolution).requested_subset_run rest member)
    exact ih step low

/-- If the range ends below the highest number, or this is not requested, the attempt of a fetcher
sweeps over its range, whatever has arrived before. -/
theorem sweeping_start_run (fetcher : Fetcher) (config : FetchConfig) (now : Instant)
    (resolutions : List Resolution) {arrivals : List Seq}
    (arrived : ∀ seq ∈ arrivals, seq.toNat + 1 < 2 ^ 64)
    (reached : fetcher.progress = .after fetcher.task.minSeq arrivals)
    (low : fetcher.task.maxSeq.toNat + 1 < 2 ^ 64 ∨
      ∀ seq ∈ requested ((start fetcher config now).run resolutions).retrieval.current,
        seq.toNat + 1 < 2 ^ 64) :
    ((start fetcher config now).run resolutions).retrieval.Sweeping fetcher.task := by
  obtain ⟨sound, floor⟩ := reached ▸ Progress.sound_after arrived
  have fresh := sweeping_start sound floor
  rcases low with below | spared
  · rw [retrieval_run]
    exact (fresh.react (.begin config) (fresh.low_react below _)).run below _
  · have begun : (start fetcher config now).retrieval.Sweeping fetcher.task :=
      fresh.react (.begin config) fun seq member =>
        spared seq ((start fetcher config now).requested_subset_run resolutions member)
    exact sweeping_run begun spared

/-! ## Behind the highest number -/

/-- One request is under way, behind which nothing has arrived, in a range that ends in the highest
number. -/
structure Marches (attempt : TimedAttempt) (seq : Seq) : Prop where
  fresh : attempt.retrieval.fetcher.Fresh seq
  under : ∃ config lastArrival, config.width ≤ 1 ∧
    attempt.retrieval.attempt = some (config, ⟨seq + 1, [seq], lastArrival⟩)
  going : attempt.retrieval.ending = none

theorem marches_start {fetcher : Fetcher} {seq : Seq} (fresh : fetcher.Fresh seq)
    {config : FetchConfig} (alone : config.width ≤ 1) (now : Instant) :
    (start fetcher config now).Marches seq ∧
      requested (start fetcher config now).retrieval.current = [seq] := by
  have started : Fetcher.Fresh { fetcher with attempts := fetcher.attempts + 1 } seq :=
    ⟨fresh.endless, fresh.progress⟩
  unfold start
  dsimp only [Retrieval.react, Retrieval.start]
  rw [fresh.begin_eq alone]
  exact ⟨⟨started, ⟨config, none, alone, rfl⟩, rfl⟩, rfl⟩

/-- An answer is followed by the next request. -/
theorem Marches.react {seq : Seq} (marches : attempt.Marches seq) (content : Bytes) :
    let next := attempt.react ⟨attempt.clock, seq, some content⟩
    attempt.Admits ⟨attempt.clock, seq, some content⟩ ∧ next.Marches (seq + 1) ∧
      next.clock = attempt.clock ∧
      requested next.retrieval.current = requested attempt.retrieval.current ++ [seq + 1] := by
  intro next
  obtain ⟨config, lastArrival, alone, under⟩ := marches.under
  have admits : attempt.Admits ⟨attempt.clock, seq, some content⟩ := by
    refine ⟨?_, le_refl _, nofun⟩
    rw [inFlight, under]
    exact List.mem_singleton_self seq
  obtain ⟨other, window, same, -, step⟩ := react_of_admits admits
  rw [under, Option.some.injEq, Prod.mk.injEq] at same
  obtain ⟨rfl, rfl⟩ := same
  dsimp only at step
  rw [marches.fresh.receive_eq alone] at step
  rw [show next = _ from step]
  exact ⟨admits, ⟨marches.fresh.accept, ⟨config, _, alone, rfl⟩, rfl⟩, rfl, requested_append _ _⟩

/-- The answers to the request of a record and to those that follow, all at one time. -/
def answersFrom (now : Instant) (seq : Seq) (count : Nat) : List Resolution :=
  (List.iterate (· + 1) seq count).map fun seq => ⟨now, seq, some []⟩

theorem Marches.run {seq : Seq} (marches : attempt.Marches seq) (count : Nat) :
    let answers := answersFrom attempt.clock seq count
    attempt.Patient answers ∧ (attempt.run answers).retrieval.ending = none ∧
      requested (attempt.run answers).retrieval.current =
        requested attempt.retrieval.current ++ List.iterate (· + 1) (seq + 1) count := by
  induction count generalizing attempt seq with
  | zero => exact ⟨trivial, marches.going, (List.append_nil _).symm⟩
  | succ count ih =>
    obtain ⟨admits, onwards, same, asked⟩ := marches.react []
    obtain ⟨patient, going, later⟩ := ih onwards
    rw [same] at patient going later
    refine ⟨⟨admits, patient⟩, going, later.trans ?_⟩
    rw [asked, ← List.append_cons]
    rfl

/-- An attempt over a range that ends in the highest number, with one request at a time and all of
them answered, goes on as long as one likes, from the highest number to zero and further. -/
theorem requests_without_end {fetcher : Fetcher} (fresh : fetcher.Fresh fetcher.task.minSeq)
    {config : FetchConfig} (alone : config.width ≤ 1) (now : Instant) (count : Nat) :
    let answers := answersFrom now fetcher.task.minSeq count
    let attempt := (start fetcher config now).run answers
    (start fetcher config now).Patient answers ∧ attempt.retrieval.ending = none ∧
      requested attempt.retrieval.current =
        List.iterate (· + 1) fetcher.task.minSeq (count + 1) := by
  obtain ⟨marches, asked⟩ := marches_start fresh alone now
  obtain ⟨patient, going, requests⟩ := marches.run count
  rw [asked] at requests
  exact ⟨patient, going, requests⟩

/-! ## All requests -/

/-- An attempt over a patient transport requests each record once, and at most once more for each
record that has arrived.  Each resolution is of another request, and as long as the attempt is not
over there is one to come.  If the range ends below the highest number, or this is not requested,
the number of all requests is bounded by the size of the range, whatever has arrived before; so the
attempt is over after as many resolutions.  In a range that ends in the highest number it need not
come to an end, by `requests_without_end`. -/
theorem requests_bounded (fetcher : Fetcher) (config : FetchConfig) (now : Instant)
    {resolutions : List Resolution} (patient : (start fetcher config now).Patient resolutions) :
    let attempt := (start fetcher config now).run resolutions
    let asked := requested attempt.retrieval.current
    (∀ seq, asked.count seq ≤ 1 + (delivered attempt.retrieval.current).length) ∧
    resolutions.length ≤ asked.length ∧
    (attempt.retrieval.ending = none → ∃ resolution, attempt.Admits resolution) ∧
    ∀ arrivals, (∀ seq ∈ arrivals, seq.toNat + 1 < 2 ^ 64) →
      fetcher.progress = .after fetcher.task.minSeq arrivals →
      (fetcher.task.maxSeq.toNat + 1 < 2 ^ 64 ∨ ∀ seq ∈ asked, seq.toNat + 1 < 2 ^ 64) →
        let size := fetcher.task.maxSeq.toNat + 1 - fetcher.task.minSeq.toNat
        asked.length ≤ size * (size + 1) := by
  intro attempt asked
  have charged := (charged_start fetcher config now).run patient
  refine ⟨charged.count_le, Nat.zero_add resolutions.length ▸ charged.handled_le, charged.admits,
    ?_⟩
  intro arrivals arrived reached low
  have sweeping := sweeping_start_run fetcher config now resolutions arrived reached low
  have bounded := sweeping.course.length_requested_le charged.count_le
  rwa [sweeping.same] at bounded

/-- Of two records the second one arrives, the first one is requested once more, and the attempt
fails when that is not answered either. -/
def lateResolutions : List Resolution :=
  [⟨Duration.ofSeconds 10, 2, some []⟩, ⟨Duration.ofSeconds 30, 1, none⟩,
    ⟨Duration.ofSeconds 60, 1, none⟩]

/-- Three requests are made in all, and no more than six may be. -/
theorem requests_bounded_late :
    let fetcher := Fetcher.start ⟨⟨.ofTexts ["p"]⟩, .ofTexts ["a"], 1, 2, .normal⟩ .broadcast 0 0
    let attempt := (start fetcher .standard 0).run lateResolutions
    let asked := requested attempt.retrieval.current
    (start fetcher .standard 0).Patient lateResolutions ∧ asked = [1, 2, 1] ∧
      asked.count 1 ≤ 1 + (delivered attempt.retrieval.current).length ∧ asked.length ≤ 6 ∧
      attempt.retrieval.ending = some .failed := by
  intro fetcher attempt asked
  have patient : (start fetcher .standard 0).Patient lateResolutions := by decide +kernel
  obtain ⟨counts, -, -, bounded⟩ := requests_bounded fetcher .standard 0 patient
  refine ⟨patient, by decide +kernel, counts 1, ?_, by decide +kernel⟩
  exact bounded [] nofun rfl (Or.inl (by decide))

/-- A range of one record, that with the highest number.  The range is not over when the record has
arrived, and the attempt requests zero, one and so on; no number bounds its requests. -/
theorem requests_unbounded_highest :
    let task : FetchTask := ⟨⟨.ofTexts ["p"]⟩, .ofTexts ["a"], 0xFFFFFFFFFFFFFFFF,
      0xFFFFFFFFFFFFFFFF, .normal⟩
    let config := { FetchConfig.standard with width := 1 }
    let begun := start (Fetcher.start task .broadcast 0 0) config 0
    (∃ resolutions, begun.Patient resolutions ∧
      (begun.run resolutions).retrieval.ending = none ∧
      requested (begun.run resolutions).retrieval.current = [0xFFFFFFFFFFFFFFFF, 0, 1, 2]) ∧
    ¬∃ bound, ∀ resolutions, begun.Patient resolutions →
      (requested (begun.run resolutions).retrieval.current).length ≤ bound := by
  intro task config begun
  have fresh : (Fetcher.start task .broadcast 0 0).Fresh 0xFFFFFFFFFFFFFFFF := ⟨rfl, rfl⟩
  have alone : config.width ≤ 1 := le_refl 1
  have endless := requests_without_end fresh alone 0
  refine ⟨?_, ?_⟩
  · obtain ⟨patient, going, asked⟩ := endless 3
    exact ⟨_, patient, going, asked.trans (by decide)⟩
  · rintro ⟨bound, bounded⟩
    obtain ⟨patient, -, asked⟩ := endless bound
    have few := bounded _ patient
    rw [asked, List.length_iterate] at few
    omega

end TimedAttempt

end DigestSync
