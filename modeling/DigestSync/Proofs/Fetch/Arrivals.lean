import DigestSync.Fetch.Arrivals
import DigestSync.Proofs.Fetch.Progress
import Mathlib.Data.Finset.Filter
import Mathlib.Order.Bounds.Basic

set_option autoImplicit false

/-! # A progress holds what arrived

The bound of a progress is the first record that has not arrived, and what is stored beyond it has
arrived, so both are told by the records that were marked, in whatever order and however often.
Kept one by one, with a loop that drains them, the records beyond the bound are the same.
-/

namespace DigestSync

open scoped SeqOrder

/-- Below the highest number there is one more. -/
theorem succ_toNat_lt_of_ne {seq : UInt64} (low : seq ≠ 0xFFFFFFFFFFFFFFFF) :
    seq.toNat + 1 < 2 ^ 64 := by
  have bound := seq.toNat_lt
  have apart : seq.toNat ≠ (0xFFFFFFFFFFFFFFFF : UInt64).toNat := fun same =>
    low (UInt64.toNat_inj.mp same)
  have highest : (0xFFFFFFFFFFFFFFFF : UInt64).toNat = 2 ^ 64 - 1 := rfl
  omega

theorem lt_succ_iff {seq bound : UInt64} (low : bound.toNat + 1 < 2 ^ 64) :
    seq < bound + 1 ↔ seq ≤ bound := by
  rw [UInt64.lt_iff_toNat_lt, toNat_succ low, Nat.lt_succ_iff, UInt64.le_iff_toNat_le]

namespace Progress

variable {progress : Progress} {arrivals : List Seq}

/-- What is stored has arrived, and lies beyond the bound. -/
theorem Sound.covers_iff (sound : progress.Sound) (seq : Seq) :
    Run.Covers progress.ahead seq ↔ progress.next < seq ∧ progress.isReceived seq = true := by
  rw [isReceived_iff, UInt64.lt_iff_toNat_lt]
  constructor
  · intro covers
    exact ⟨sound.lt_of_covers covers, Or.inr covers⟩
  · rintro ⟨beyond, before | covers⟩
    · exact absurd beyond (Nat.lt_asymm before)
    · exact covers

theorem Sound.isLeast_next (sound : progress.Sound) :
    IsLeast {seq | ¬ progress.isReceived seq = true} progress.next := by
  refine ⟨?_, ?_⟩
  · change ¬ progress.isReceived progress.next = true
    rw [sound.isReceived_next]
    exact Bool.false_ne_true
  · intro seq missing
    by_contra before
    apply missing
    rw [isReceived_iff]
    exact Or.inl (UInt64.lt_iff_toNat_lt.mp (not_le.mp before))

/-- Everything up to a record has arrived exactly if the bound lies beyond it. -/
theorem Sound.isComplete_iff (sound : progress.Sound) (last : Seq) :
    progress.isComplete last = true ↔ ∀ seq ≤ last, progress.isReceived seq = true := by
  constructor
  · intro complete seq inside
    exact isReceived_of_isComplete complete inside
  · intro whole
    refine decide_eq_true (not_le.mp fun reached => ?_)
    have arrived := whole progress.next reached
    rw [sound.isReceived_next] at arrived
    cases arrived

/-- Exactly what was marked has arrived, and what lies before the range. -/
theorem isReceived_after (first : Seq) (low : ∀ seq ∈ arrivals, seq.toNat + 1 < 2 ^ 64)
    (seq : Seq) :
    (after first arrivals).isReceived seq = true ↔ seq < first ∨ seq ∈ arrivals := by
  induction arrivals using List.reverseRecOn with
  | nil =>
    rw [isReceived_iff, ← UInt64.lt_iff_toNat_lt]
    simp [after, start, Run.covers_nil]
  | append_singleton arrivals last ih =>
    have earlier : ∀ other ∈ arrivals, other.toNat + 1 < 2 ^ 64 :=
      fun other member => low other (List.mem_append_left _ member)
    have bound : last.toNat + 1 < 2 ^ 64 := low last (by simp)
    rw [after, List.foldl_append]
    refine (isReceived_mark (sound_after earlier).1 bound seq).trans ?_
    rw [ih earlier, List.mem_append, List.mem_singleton, or_left_comm, or_comm (a := seq = last)]

end Progress

namespace Arrivals

variable {arrivals : Arrivals} {seq : Seq} {early : Finset Seq} {seqs : List Seq}

/-- The record has arrived, or lies before the range. -/
def Holds (arrivals : Arrivals) (seq : Seq) : Prop := seq < arrivals.next ∨ seq ∈ arrivals.early

/-- What came early lies beyond the bound, and has a number after it. -/
structure Sound (arrivals : Arrivals) : Prop where
  beyond : ∀ seq ∈ arrivals.early, arrivals.next < seq
  low : ∀ seq ∈ arrivals.early, seq.toNat + 1 < 2 ^ 64

theorem Sound.isLeast_next (sound : arrivals.Sound) :
    IsLeast {seq | ¬ arrivals.Holds seq} arrivals.next := by
  refine ⟨?_, ?_⟩
  · rintro (before | early)
    · exact lt_irrefl _ before
    · exact lt_irrefl _ (sound.beyond _ early)
  · intro seq missing
    exact not_lt.mp fun before => missing (Or.inl before)

theorem Sound.mem_early_iff (sound : arrivals.Sound) :
    seq ∈ arrivals.early ↔ arrivals.next < seq ∧ arrivals.Holds seq := by
  constructor
  · intro early
    exact ⟨sound.beyond seq early, Or.inr early⟩
  · rintro ⟨beyond, before | early⟩
    · exact absurd beyond (lt_asymm before)
    · exact early

/-- However far the bound is drained, what has arrived stays the same. -/
theorem drain_spec (next : Seq) (upward : ∀ seq ∈ early, next ≤ seq)
    (low : ∀ seq ∈ early, seq.toNat + 1 < 2 ^ 64) :
    (drain next early).Sound ∧
      ∀ seq, (drain next early).Holds seq ↔ seq < next ∨ seq ∈ early := by
  fun_induction drain next early with
  | case1 next early there ih =>
    have bound := low next there
    obtain ⟨sound, holds⟩ := ih
      (fun seq member => by
        obtain ⟨other, early⟩ := Finset.mem_erase.mp member
        have above := lt_of_le_of_ne (upward seq early) other.symm
        exact not_lt.mp fun below => absurd ((lt_succ_iff bound).mp below) (not_le.mpr above))
      (fun seq member => low seq (Finset.mem_of_mem_erase member))
    refine ⟨sound, fun seq => ?_⟩
    rw [holds, lt_succ_iff bound, Finset.mem_erase, le_iff_lt_or_eq]
    by_cases here : seq = next
    · simp [here, there]
    · simp [here]
  | case2 next early absent =>
    refine ⟨⟨fun seq member => lt_of_le_of_ne (upward seq member) ?_, low⟩, fun seq => Iff.rfl⟩
    rintro rfl
    exact absent member

/-- Marking a record adds exactly this one to those that have arrived. -/
theorem Sound.mark (sound : arrivals.Sound) (bound : seq.toNat + 1 < 2 ^ 64) :
    (arrivals.mark seq).Sound ∧
      ∀ other, (arrivals.mark seq).Holds other ↔ other = seq ∨ arrivals.Holds other := by
  unfold Arrivals.mark
  split
  · rename_i before
    refine ⟨sound, fun other => ⟨Or.inr, ?_⟩⟩
    rintro (rfl | held)
    · exact Or.inl before
    · exact held
  · rename_i notBefore
    split
    · rename_i above
      refine ⟨⟨?_, ?_⟩, fun other => ?_⟩
      · exact (Finset.forall_mem_insert _ _ _).mpr ⟨above, sound.beyond⟩
      · exact (Finset.forall_mem_insert _ _ _).mpr ⟨bound, sound.low⟩
      · simp only [Holds, Finset.mem_insert]
        exact or_left_comm
    · rename_i notAfter
      have here : arrivals.next = seq := le_antisymm (not_lt.mp notBefore) (not_lt.mp notAfter)
      have bound : arrivals.next.toNat + 1 < 2 ^ 64 := here ▸ bound
      obtain ⟨drained, holds⟩ := drain_spec (arrivals.next + 1)
        (fun other early => not_lt.mp fun below =>
          absurd ((lt_succ_iff bound).mp below) (not_le.mpr (sound.beyond other early)))
        sound.low
      refine ⟨drained, fun other => ?_⟩
      rw [holds, lt_succ_iff bound, le_iff_lt_or_eq, ← here, Holds, or_comm (b := other = _),
        or_assoc]

/-- After some records exactly these have arrived, and what lies before the range. -/
theorem sound_after (first : Seq) (low : ∀ seq ∈ seqs, seq.toNat + 1 < 2 ^ 64) :
    (after first seqs).Sound ∧
      ∀ seq, (after first seqs).Holds seq ↔ seq < first ∨ seq ∈ seqs := by
  induction seqs using List.reverseRecOn with
  | nil => exact ⟨⟨by simp [after, start], by simp [after, start]⟩, by simp [after, start, Holds]⟩
  | append_singleton seqs last ih =>
    obtain ⟨sound, holds⟩ := ih fun seq member => low seq (List.mem_append_left _ member)
    obtain ⟨marked, adds⟩ := sound.mark (low last (by simp))
    rw [after, List.foldl_append]
    refine ⟨marked, fun seq => (adds seq).trans ?_⟩
    rw [holds, List.mem_append, List.mem_singleton, or_left_comm, or_comm (a := seq = last)]

end Arrivals

namespace Progress

variable {arrivals : List Seq}

/-- Whatever records are marked, in any order and with repetitions, but for the highest number:
those that have arrived are these and the ones before the range, the bound is the first one of the
range that was not marked, what is stored beyond it is what was marked there, and all is complete
up to a record exactly if everything up to it was marked.  Keeping the records beyond the bound one
by one, and draining them when the bound reaches them, comes to the same. -/
theorem holds_what_arrived (first : Seq)
    (low : ∀ seq ∈ arrivals, seq ≠ 0xFFFFFFFFFFFFFFFF) :
    (∀ seq, (after first arrivals).isReceived seq = true ↔ seq < first ∨ seq ∈ arrivals) ∧
      IsLeast {seq | first ≤ seq ∧ seq ∉ arrivals} (after first arrivals).next ∧
      (∀ seq, (∃ run ∈ (after first arrivals).ahead, run.contains seq = true) ↔
        (after first arrivals).next < seq ∧ seq ∈ arrivals) ∧
      (∀ last, (after first arrivals).isComplete last = true ↔
        ∀ seq, first ≤ seq → seq ≤ last → seq ∈ arrivals) ∧
      Arrivals.after first arrivals =
        ⟨(after first arrivals).next,
          arrivals.toFinset.filter fun seq => (after first arrivals).next < seq⟩ := by
  have low : ∀ seq ∈ arrivals, seq.toNat + 1 < 2 ^ 64 :=
    fun seq member => succ_toNat_lt_of_ne (low seq member)
  obtain ⟨sound, floor⟩ : (after first arrivals).Sound ∧ first ≤ (after first arrivals).next :=
    sound_after low
  obtain ⟨single, holds⟩ := Arrivals.sound_after first low
  have received := isReceived_after first low
  have missing : {seq | ¬ (after first arrivals).isReceived seq = true} =
      {seq | ¬ (Arrivals.after first arrivals).Holds seq} := by
    simp only [received, holds]
  have least := sound.isLeast_next
  have bound : (Arrivals.after first arrivals).next = (after first arrivals).next :=
    single.isLeast_next.unique (missing ▸ least)
  have beyond (seq : Seq) (above : (after first arrivals).next < seq) :
      seq < first ∨ seq ∈ arrivals ↔ seq ∈ arrivals :=
    or_iff_right (not_lt.mpr (floor.trans above.le))
  have stored : (Arrivals.after first arrivals).early =
      arrivals.toFinset.filter fun seq => (after first arrivals).next < seq := by
    ext seq
    rw [single.mem_early_iff, bound, holds, Finset.mem_filter, List.mem_toFinset,
      and_comm (a := seq ∈ arrivals)]
    exact and_congr_right (beyond seq)
  refine ⟨received, ?_, ?_, ?_, congrArg₂ Arrivals.mk bound stored⟩
  · simpa only [received, not_or, not_lt] using least
  · intro seq
    rw [← Run.Covers, sound.covers_iff, received]
    exact and_congr_right (beyond seq)
  · intro last
    rw [sound.isComplete_iff]
    refine forall_congr' fun seq => ?_
    rw [received]
    constructor
    · intro whole inside upto
      exact (whole upto).resolve_left (not_lt.mpr inside)
    · intro whole upto
      exact (lt_or_ge seq first).imp_right fun inside => whole inside upto

/-- Some records come twice, one before the range, and one beyond a gap that stays. -/
theorem holds_what_arrived_scattered :
    let arrivals : List Seq := [5, 4, 7, 5, 3, 2, 8, 4]
    (∀ seq ∈ arrivals, seq ≠ 0xFFFFFFFFFFFFFFFF) ∧
      (∀ seq, (after 3 arrivals).isReceived seq = true ↔ seq < 3 ∨ seq ∈ arrivals) ∧
      IsLeast {seq | 3 ≤ seq ∧ seq ∉ arrivals} 6 ∧
      after 3 arrivals = ⟨6, [⟨7, 8⟩]⟩ ∧ Arrivals.after 3 arrivals = ⟨6, {7, 8}⟩ := by
  intro arrivals
  have never : 0xFFFFFFFFFFFFFFFF ∉ arrivals := by decide
  have low : ∀ seq ∈ arrivals, seq ≠ 0xFFFFFFFFFFFFFFFF :=
    fun seq member high => never (high ▸ member)
  have reached : after 3 arrivals = ⟨6, [⟨7, 8⟩]⟩ := by decide
  obtain ⟨received, least, -, -, single⟩ := holds_what_arrived 3 low
  rw [reached] at least single
  exact ⟨low, received, least, reached, single.trans (congrArg (Arrivals.mk 6) (by decide))⟩

end Progress

end DigestSync
