import DigestSync.Fetch.Fetcher
import DigestSync.Proofs.Fetch.Progress
import DigestSync.Proofs.Task
import Mathlib.Data.List.Nodup

set_option autoImplicit false

/-! # The window of an attempt

The requests in flight are for distinct records of the task's range that have not
arrived.  Filling the window keeps this, and requests only such records.
-/

namespace DigestSync

open scoped SeqOrder

namespace Fetcher

variable {fetcher : Fetcher} {config : FetchConfig} {window : Window}

/-- The record found is one of the task, not before the start of the search, and is
not taken. -/
theorem nextFree_spec {seq free : Seq} (found : fetcher.nextFree window seq = some free) :
    seq ≤ free ∧ free ≤ fetcher.task.maxSeq ∧ fetcher.isTaken window free = false := by
  fun_induction fetcher.nextFree window seq with
  | case1 seq below taken ih =>
    obtain ⟨after, facts⟩ := ih found
    have step : seq ≤ seq + 1 := by
      rw [UInt64.le_iff_toNat_le, toNat_succ (succ_toNat_lt_of_lt below)]
      exact Nat.le_succ _
    exact ⟨step.trans after, facts⟩
  | case2 seq below open? =>
    cases found
    exact ⟨le_refl _, le_of_lt below, by simpa using open?⟩
  | case3 seq notBelow last =>
    cases found
    simp only [Bool.and_eq_true, decide_eq_true_eq, Bool.not_eq_true'] at last
    exact ⟨le_refl _, le_of_eq last.1, last.2⟩
  | case4 => cases found

/-- The requests in flight are for distinct records of the task that have not arrived,
and no record of the task before the first one is ever looked at. -/
structure Pending (fetcher : Fetcher) (window : Window) : Prop where
  distinct : window.inFlight.Nodup
  missing : ∀ seq ∈ window.inFlight,
    fetcher.task.contains seq = true ∧ fetcher.progress.isReceived seq = false
  first : fetcher.task.minSeq ≤ window.nextRequest

/-- A request for a record of the task that has not arrived goes out. -/
theorem Pending.add (pending : fetcher.Pending window) {seq : Seq}
    (contained : fetcher.task.contains seq = true)
    (missing : fetcher.progress.isReceived seq = false) (fresh : seq ∉ window.inFlight) :
    fetcher.Pending { window with inFlight := window.inFlight ++ [seq] } := by
  constructor
  case distinct =>
    apply List.Nodup.append pending.distinct (List.nodup_singleton _)
    rw [List.disjoint_singleton]
    exact fresh
  case missing =>
    intro other member
    rcases List.mem_append.mp member with old | new
    · exact pending.missing other old
    · rw [List.mem_singleton.mp new]
      exact ⟨contained, missing⟩
  case first => exact pending.first

/-- The first record that is not taken is requested. -/
theorem Pending.request (pending : fetcher.Pending window) {seq : Seq}
    (low : seq.toNat + 1 < 2 ^ 64)
    (found : fetcher.nextFree window window.nextRequest = some seq) :
    fetcher.Pending { window with
      nextRequest := seq + 1
      inFlight := window.inFlight ++ [seq] } := by
  obtain ⟨after, inside, free⟩ := nextFree_spec found
  simp only [isTaken, Bool.or_eq_false_iff, List.contains_eq_mem, decide_eq_false_iff_not] at free
  have contained : fetcher.task.contains seq = true :=
    (fetcher.task.contains_iff seq).mpr ⟨pending.first.trans after, inside⟩
  have added := pending.add contained free.1 free.2
  refine ⟨added.distinct, added.missing, ?_⟩
  have start := UInt64.le_iff_toNat_le.mp (pending.first.trans after)
  show fetcher.task.minSeq ≤ seq + 1
  rw [UInt64.le_iff_toNat_le, toNat_succ low]
  omega

/-- A request that is over leaves the window. -/
theorem Pending.erase (pending : fetcher.Pending window) (seq : Seq) :
    fetcher.Pending { window with inFlight := window.inFlight.erase seq } where
  distinct := pending.distinct.erase seq
  missing := fun other member => pending.missing other (List.mem_of_mem_erase member)
  first := pending.first

/-- A request whose time is over goes out again. -/
theorem Pending.again (pending : fetcher.Pending window) {seq : Seq}
    (waiting : seq ∈ window.inFlight) :
    fetcher.Pending { window with inFlight := window.inFlight.erase seq ++ [seq] } := by
  obtain ⟨contained, missing⟩ := pending.missing seq waiting
  exact (pending.erase seq).add contained missing pending.distinct.not_mem_erase

/-- A record that arrives leaves the others to wait for. -/
theorem Pending.accept (pending : fetcher.Pending window) (sound : fetcher.progress.Sound)
    {seq : Seq} (low : seq.toNat + 1 < 2 ^ 64) (now : Instant) :
    (fetcher.accept seq).Pending
      { window with inFlight := window.inFlight.erase seq, lastArrival := some now } := by
  refine ⟨pending.distinct.erase seq, ?_, pending.first⟩
  intro other member
  obtain ⟨apart, there⟩ := (pending.distinct.mem_erase_iff).mp member
  obtain ⟨contained, absent⟩ := pending.missing other there
  refine ⟨contained, Bool.eq_false_iff.mpr ?_⟩
  intro arrived
  rcases (Progress.isReceived_mark sound low other).mp arrived with here | before
  · exact apart here
  · rw [absent] at before
    cases before

theorem pending_fill (low : fetcher.task.maxSeq.toNat + 1 < 2 ^ 64)
    (pending : fetcher.Pending window) : fetcher.Pending (fetcher.fill config window).1 := by
  fun_induction fetcher.fill config window with
  | case1 => exact pending
  | case2 window room seq found filled actions step ih =>
    rw [step] at ih
    obtain ⟨-, inside, -⟩ := nextFree_spec found
    exact ih (pending.request (succ_toNat_lt_of_le_of_low inside low) found)
  | case3 => exact pending

/-- Only records that have not arrived are requested. -/
theorem missing_of_mem_fill {action : FetchAction}
    (member : action ∈ (fetcher.fill config window).2) :
    ∃ seq, action = fetcher.requestOf config seq ∧
      fetcher.progress.isReceived seq = false := by
  fun_induction fetcher.fill config window with
  | case1 => cases member
  | case2 window room seq found filled actions step ih =>
    rw [step] at ih
    rcases List.mem_cons.mp member with here | later
    · obtain ⟨-, -, free⟩ := nextFree_spec found
      simp only [isTaken, Bool.or_eq_false_iff] at free
      exact ⟨seq, here, free.1⟩
    · exact ih later
  | case3 => cases member

end Fetcher

end DigestSync
