import DigestSync.Fetch.Progress
import DigestSync.Proofs.Data.Order
import Mathlib.Data.List.Induction

set_option autoImplicit false

/-! # What has arrived

The runs of a progress stand apart: each begins beyond the end of the one before it by
at least one missing record, and the first one beyond the bound.  Marking a record
keeps them so, and adds exactly this record to those that have arrived.  The highest
number is left out throughout, since nothing can be counted beyond it.
-/

namespace DigestSync

open scoped SeqOrder

namespace Run

/-- The runs are ascending, with a record missing between any two of them and above
`bound`, which is missing too. -/
def Apart (bound : Nat) : List Run → Prop
  | [] => True
  | run :: rest =>
    bound < run.first.toNat ∧ run.first.toNat ≤ run.last.toNat ∧ run.last.toNat + 1 < 2 ^ 64 ∧
      Apart (run.last.toNat + 1) rest

/-- A record is in one of the runs. -/
def Covers (runs : List Run) (seq : Seq) : Prop := ∃ run ∈ runs, run.contains seq = true

theorem contains_iff (run : Run) (seq : Seq) :
    run.contains seq = true ↔ run.first.toNat ≤ seq.toNat ∧ seq.toNat ≤ run.last.toNat := by
  simp [contains, UInt64.le_iff_toNat_le]

theorem covers_nil (seq : Seq) : ¬ Covers [] seq := by simp [Covers]

theorem covers_cons (run : Run) (rest : List Run) (seq : Seq) :
    Covers (run :: rest) seq ↔
      (run.first.toNat ≤ seq.toNat ∧ seq.toNat ≤ run.last.toNat) ∨ Covers rest seq := by
  simp [Covers, contains_iff]

/-- Nothing at or below the bound is covered. -/
theorem Apart.lt_of_covers {bound : Nat} {runs : List Run} (apart : Apart bound runs)
    {seq : Seq} (covers : Covers runs seq) : bound < seq.toNat := by
  induction runs generalizing bound with
  | nil => exact absurd covers (covers_nil seq)
  | cons run rest ih =>
    obtain ⟨above, ordered, -, later⟩ := apart
    rcases (covers_cons run rest seq).mp covers with here | there
    · omega
    · have far := ih later there
      omega

/-- Joining a run with what follows it, which it may touch, keeps the runs apart. -/
theorem apart_join {bound : Nat} {run : Run} {rest : List Run} (above : bound < run.first.toNat)
    (ordered : run.first.toNat ≤ run.last.toNat) (low : run.last.toNat + 1 < 2 ^ 64)
    (apart : Apart run.last.toNat rest) : Apart bound (join run rest) := by
  cases rest with
  | nil => exact ⟨above, ordered, low, trivial⟩
  | cons following rest =>
    obtain ⟨beyond, forward, limit, later⟩ := apart
    simp only [join]
    split
    · exact ⟨above, by simp only; omega, limit, later⟩
    · rename_i gap
      have apart : run.last.toNat + 1 ≠ following.first.toNat := fun equal =>
        gap (UInt64.toNat_inj.mp ((toNat_succ low).trans equal))
      exact ⟨above, ordered, low, by omega, forward, limit, later⟩

theorem covers_join {run : Run} {rest : List Run} {seq : Seq}
    (ordered : run.first.toNat ≤ run.last.toNat) (low : run.last.toNat + 1 < 2 ^ 64)
    (apart : Apart run.last.toNat rest) :
    Covers (join run rest) seq ↔ Covers (run :: rest) seq := by
  cases rest with
  | nil => rfl
  | cons following rest =>
    simp only [join]
    split
    · rename_i touches
      have touches : run.last.toNat + 1 = following.first.toNat := by
        rw [← touches, toNat_succ low]
      obtain ⟨-, forward, -⟩ := apart
      rw [covers_cons, covers_cons, covers_cons, ← or_assoc]
      refine or_congr_left ?_
      simp only
      omega
    · rfl

/-- Adding a record above the bound keeps the runs apart. -/
theorem apart_insert {bound : Nat} {seq : Seq} {runs : List Run} (apart : Apart bound runs)
    (above : bound < seq.toNat) (low : seq.toNat + 1 < 2 ^ 64) :
    Apart bound (insert seq runs) := by
  induction runs generalizing bound with
  | nil => exact ⟨above, Nat.le_refl _, low, trivial⟩
  | cons run rest ih =>
    obtain ⟨beyond, ordered, limit, later⟩ := apart
    unfold insert
    split
    · rename_i before
      have before := UInt64.lt_iff_toNat_lt.mp before
      exact apart_join above (Nat.le_refl _) low ⟨before, ordered, limit, later⟩
    · split
      · exact ⟨beyond, ordered, limit, later⟩
      · rename_i after
        have after : run.last.toNat < seq.toNat :=
          Nat.lt_of_not_le fun less => after (UInt64.le_iff_toNat_le.mpr less)
        split
        · rename_i next
          have next : seq.toNat = run.last.toNat + 1 := by rw [next, toNat_succ limit]
          exact apart_join beyond (by simp only; omega) low (next ▸ later)
        · rename_i gap
          have gap : seq.toNat ≠ run.last.toNat + 1 := fun equal =>
            gap (UInt64.toNat_inj.mp (equal.trans (toNat_succ limit).symm))
          exact ⟨beyond, ordered, limit, ih later (by omega)⟩

/-- Adding a record covers exactly this one in addition. -/
theorem covers_insert {bound : Nat} {seq : Seq} {runs : List Run} (apart : Apart bound runs)
    (low : seq.toNat + 1 < 2 ^ 64) (other : Seq) :
    Covers (insert seq runs) other ↔ other = seq ∨ Covers runs other := by
  rw [← UInt64.toNat_inj]
  induction runs generalizing bound with
  | nil =>
    rw [insert, covers_cons]
    simp only [covers_nil, or_false]
    omega
  | cons run rest ih =>
    obtain ⟨beyond, ordered, limit, later⟩ := apart
    unfold insert
    split
    · rename_i before
      have before := UInt64.lt_iff_toNat_lt.mp before
      have following : Apart seq.toNat (run :: rest) := ⟨before, ordered, limit, later⟩
      rw [covers_join (Nat.le_refl _) low following, covers_cons]
      simp only
      refine or_congr_left ?_
      omega
    · rename_i notBefore
      have notBefore : run.first.toNat ≤ seq.toNat :=
        Nat.le_of_not_lt fun less => notBefore (UInt64.lt_iff_toNat_lt.mpr less)
      split
      · rename_i within
        have within := UInt64.le_iff_toNat_le.mp within
        rw [covers_cons, ← or_assoc]
        refine or_congr_left ?_
        omega
      · rename_i after
        split
        · rename_i next
          have next : seq.toNat = run.last.toNat + 1 := by rw [next, toNat_succ limit]
          rw [covers_join (by simp only; omega) low (next ▸ later), covers_cons, covers_cons,
            ← or_assoc]
          refine or_congr_left ?_
          simp only
          omega
        · rw [covers_cons, covers_cons, ih later]
          exact or_left_comm

end Run

namespace Progress

/-- The record at the bound is missing, and the runs beyond it stand apart. -/
def Sound (progress : Progress) : Prop := Run.Apart progress.next.toNat progress.ahead

theorem sound_start (first : Seq) : (start first).Sound := trivial

theorem isReceived_iff (progress : Progress) (seq : Seq) :
    progress.isReceived seq = true ↔
      seq.toNat < progress.next.toNat ∨ Run.Covers progress.ahead seq := by
  simp [isReceived, Run.Covers, UInt64.lt_iff_toNat_lt]

/-- The record at the bound has not arrived. -/
theorem Sound.isReceived_next {progress : Progress} (sound : progress.Sound) :
    progress.isReceived progress.next = false := by
  rw [Bool.eq_false_iff, ne_eq, isReceived_iff]
  rintro (less | covers)
  · exact Nat.lt_irrefl _ less
  · exact Nat.lt_irrefl _ (sound.lt_of_covers covers)

theorem sound_settle {next : Seq} {runs : List Run} {bound : Nat}
    (apart : Run.Apart bound runs) (step : next.toNat = bound + 1) :
    (settle next runs).Sound := by
  cases runs with
  | nil => trivial
  | cons run rest =>
    obtain ⟨above, ordered, low, later⟩ := apart
    simp only [settle]
    split
    · rw [Sound, toNat_succ low]
      exact later
    · rename_i gap
      have gap : run.first.toNat ≠ next.toNat := fun equal => gap (UInt64.toNat_inj.mp equal)
      exact ⟨by simp only; omega, ordered, low, later⟩

theorem isReceived_settle {next : Seq} {runs : List Run} {bound : Nat}
    (apart : Run.Apart bound runs) (step : next.toNat = bound + 1) (seq : Seq) :
    (settle next runs).isReceived seq = true ↔
      seq.toNat < next.toNat ∨ Run.Covers runs seq := by
  rw [isReceived_iff]
  cases runs with
  | nil => rfl
  | cons run rest =>
    obtain ⟨above, ordered, low, later⟩ := apart
    simp only [settle]
    split
    · rename_i touches
      have touches : run.first.toNat = next.toNat := congrArg UInt64.toNat touches
      simp only
      rw [Run.covers_cons, ← or_assoc, toNat_succ low]
      refine or_congr_left ?_
      omega
    · rfl

/-! ## Marking -/

theorem sound_mark {progress : Progress} (sound : progress.Sound) {seq : Seq}
    (low : seq.toNat + 1 < 2 ^ 64) : (progress.mark seq).Sound := by
  unfold mark
  split
  · exact sound
  · rename_i notBefore
    split
    · rename_i above
      exact Run.apart_insert sound (UInt64.lt_iff_toNat_lt.mp above) low
    · rename_i notAfter
      have here : progress.next = seq := le_antisymm (not_lt.mp notBefore) (not_lt.mp notAfter)
      exact sound_settle sound (toNat_succ (here ▸ low))

/-- Marking a record adds exactly this one to those that have arrived. -/
theorem isReceived_mark {progress : Progress} (sound : progress.Sound) {seq : Seq}
    (low : seq.toNat + 1 < 2 ^ 64) (other : Seq) :
    (progress.mark seq).isReceived other = true ↔
      other = seq ∨ progress.isReceived other = true := by
  rw [isReceived_iff progress]
  unfold mark
  split
  · rename_i before
    have before := UInt64.lt_iff_toNat_lt.mp before
    rw [isReceived_iff, ← or_assoc, ← UInt64.toNat_inj]
    refine or_congr_left ?_
    omega
  · rename_i notBefore
    split
    · rw [isReceived_iff, Run.covers_insert sound low]
      exact or_left_comm
    · rename_i notAfter
      have here : progress.next = seq := le_antisymm (not_lt.mp notBefore) (not_lt.mp notAfter)
      have step : (progress.next + 1).toNat = progress.next.toNat + 1 :=
        toNat_succ (here ▸ low)
      rw [isReceived_settle sound step, step, ← or_assoc, ← here, ← UInt64.toNat_inj]
      refine or_congr_left ?_
      omega

/-- The bound never moves back. -/
theorem next_le_mark {progress : Progress} (sound : progress.Sound) {seq : Seq}
    (low : seq.toNat + 1 < 2 ^ 64) : progress.next ≤ (progress.mark seq).next := by
  by_contra back
  have back : (progress.mark seq).next < progress.next := not_le.mp back
  have early : progress.isReceived (progress.mark seq).next = true := by
    rw [isReceived_iff]
    exact Or.inl (UInt64.lt_iff_toNat_lt.mp back)
  have later := (isReceived_mark sound low _).mpr (Or.inr early)
  rw [(sound_mark sound low).isReceived_next] at later
  cases later

/-- Whatever has arrived, the progress is sound and its bound not before the range. -/
theorem sound_after {first : Seq} {arrivals : List Seq}
    (low : ∀ seq ∈ arrivals, seq.toNat + 1 < 2 ^ 64) :
    (after first arrivals).Sound ∧ first ≤ (after first arrivals).next := by
  induction arrivals using List.reverseRecOn with
  | nil => exact ⟨sound_start first, le_refl first⟩
  | append_singleton arrivals seq ih =>
    obtain ⟨sound, floor⟩ := ih fun other member => low other (List.mem_append_left _ member)
    have bound : seq.toNat + 1 < 2 ^ 64 := low seq (by simp)
    rw [after, List.foldl_append]
    exact ⟨sound_mark sound bound, floor.trans (next_le_mark sound bound)⟩

/-- Once all is complete, every record up to the last one has arrived. -/
theorem isReceived_of_isComplete {progress : Progress} {last seq : Seq}
    (complete : progress.isComplete last = true) (inside : seq ≤ last) :
    progress.isReceived seq = true := by
  have beyond : last < progress.next := of_decide_eq_true complete
  rw [isReceived_iff]
  exact Or.inl (UInt64.lt_iff_toNat_lt.mp (lt_of_le_of_lt inside beyond))

end Progress

end DigestSync
