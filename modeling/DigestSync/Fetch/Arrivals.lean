import DigestSync.Fetch.Progress
import Mathlib.Data.Finset.Card

set_option autoImplicit false

/-! # Arrivals one by one

The account of a progress, with a set of single records beyond the bound in place of runs.  When the
record at the bound arrives, the bound moves on by one for as long as the set has the record there,
and each record that it passes is taken out of the set.
-/

namespace DigestSync

/-- The records that have arrived, those beyond the bound one by one. -/
structure Arrivals where
  /-- The first record that has not arrived. -/
  next : Seq
  /-- The records beyond it that have arrived. -/
  early : Finset Seq

namespace Arrivals

/-- Nothing from `first` on has arrived. -/
def start (first : Seq) : Arrivals := ⟨first, ∅⟩

/-- Move the bound past the early records that follow it without a gap. -/
def drain (next : Seq) (early : Finset Seq) : Arrivals :=
  if _there : next ∈ early then drain (next + 1) (early.erase next) else ⟨next, early⟩
termination_by early.card
decreasing_by exact Finset.card_erase_lt_of_mem _there

/-- Take note of a record's arrival. -/
def mark (arrivals : Arrivals) (seq : Seq) : Arrivals :=
  if seq < arrivals.next then arrivals
  else if arrivals.next < seq then { arrivals with early := insert seq arrivals.early }
  else drain (arrivals.next + 1) arrivals.early

/-- What has arrived after some records. -/
def after (first : Seq) (seqs : List Seq) : Arrivals := seqs.foldl mark (start first)

end Arrivals

end DigestSync
