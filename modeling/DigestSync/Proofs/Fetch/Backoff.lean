import DigestSync.Fetch.Backoff
import DigestSync.Proofs.Fetch.Retrieval
import Mathlib.Algebra.Ring.Parity

set_option autoImplicit false

/-! # Pauses and hints over all attempts

The pause after a setback depends on how many there have been since the last arrival: it starts with
the shortest one and doubles until it reaches the longest.  The hint depends on the parity of all
setbacks.  Whatever else happens to a fetcher leaves both alone, so that what is known after one
event is known after all.
-/

namespace DigestSync

open Incident

/-! ## The pause after a number of setbacks -/

/-- To clamp a span, double it and clamp it again is to clamp its double.  A double beyond the limit
counts as the most, which it exceeds. -/
theorem Duration.clamp_double {least most limit span : Nat} (held : most < limit)
    (above : least ≤ span) :
    let clamped := max least (min span most)
    max (min (if 2 * clamped < limit then 2 * clamped else most) most) least =
      max least (min (2 * span) most) := by
  intro clamped
  split <;> omega

namespace RetryPause

/-- The pause after so many setbacks in a row. -/
def afterSetbacks (longest : Duration) : Nat → Duration
  | 0 => 0
  | count + 1 => Nat.max shortest (Nat.min (2 ^ count * shortest) longest)

/-- One more setback takes the pause from one number to the next. -/
theorem fail_afterSetbacks {longest : Duration} (held : longest < Duration.limit) (count : Nat) :
    fail ⟨afterSetbacks longest count, longest⟩ =
      ⟨afterSetbacks longest (count + 1), longest⟩ := by
  cases count with
  | zero =>
    have above : 2 * 0 < Duration.limit := (Nat.zero_le _).trans_lt held
    have none : Nat.min (2 * 0) longest = 0 := Nat.zero_min _
    have least : Nat.max shortest (Nat.min (2 ^ 0 * shortest) longest) = shortest := by
      rw [Nat.pow_zero, Nat.one_mul]
      exact Nat.max_eq_left (Nat.min_le_left _ _)
    simp only [fail, afterSetbacks, above, if_true, none, least]
    rfl
  | succ count =>
    have whole : shortest ≤ 2 ^ count * shortest :=
      Nat.le_mul_of_pos_left _ (Nat.two_pow_pos count)
    have twice : 2 ^ (count + 1) * shortest = 2 * (2 ^ count * shortest) := by
      rw [Nat.pow_succ', Nat.mul_assoc]
    have clamped := Duration.clamp_double held whole
    rw [← twice] at clamped
    exact congrArg (RetryPause.mk · longest) clamped

end RetryPause

/-! ## What is read off the incidents -/

namespace Incident

variable (incidents : List Incident) (resolve : DeviceId → Name) (now : Instant)

theorem setbacks_arrival : setbacks (incidents ++ [.arrival]) = setbacks incidents :=
  List.countP_append

theorem setbacks_setback :
    setbacks (incidents ++ [.setback resolve now]) = setbacks incidents + 1 :=
  List.countP_append

theorem setbacksInRow_arrival : setbacksInRow (incidents ++ [.arrival]) = 0 := by
  rw [setbacksInRow, List.rtakeWhile_concat_neg _ _ _ (by simp [isSetback]), List.length_nil]

theorem setbacksInRow_setback :
    setbacksInRow (incidents ++ [.setback resolve now]) = setbacksInRow incidents + 1 := by
  rw [setbacksInRow, List.rtakeWhile_concat_pos _ _ _ rfl, List.length_append,
    List.length_singleton, setbacksInRow]

theorem lastPlace_arrival (first : Name) (producer : DeviceId) :
    lastPlace first producer (incidents ++ [.arrival]) = lastPlace first producer incidents := by
  have same : (incidents ++ [arrival]).filterMap resolver? = incidents.filterMap resolver? := by
    rw [List.filterMap_append, List.filterMap_cons_none rfl, List.filterMap_nil, List.append_nil]
  rw [lastPlace, same, lastPlace]

theorem lastPlace_setback (first : Name) (producer : DeviceId) :
    lastPlace first producer (incidents ++ [.setback resolve now]) = resolve producer := by
  have last : (incidents ++ [setback resolve now]).filterMap resolver? =
      incidents.filterMap resolver? ++ [resolve] := List.filterMap_append
  rw [lastPlace, last, List.getLast?_concat]

end Incident

/-! ## What an event does to pause and hint -/

namespace Fetcher

/-- What the incidents have made of a fetcher that was started with a place to ask at. -/
structure Weathered (task : FetchTask) (place : Name) (longest : Duration)
    (incidents : List Incident) (fetcher : Fetcher) : Prop where
  same : fetcher.task = task
  pause : fetcher.pause = ⟨RetryPause.afterSetbacks longest (setbacksInRow incidents), longest⟩
  hint : fetcher.hint =
    if Odd (setbacks incidents) then .broadcast
    else .direct (lastPlace place task.producer incidents)

namespace Weathered

variable {task : FetchTask} {place : Name} {longest : Duration} {incidents : List Incident}
  {fetcher : Fetcher}

theorem start (task : FetchTask) (place : Name) (longest : Duration) (begun : Instant) :
    Weathered task place longest [] (Fetcher.start task (.direct place) longest begun) :=
  ⟨rfl, rfl, rfl⟩

/-- An arrival resets the pause and leaves the hint. -/
theorem accept (weathered : Weathered task place longest incidents fetcher) (seq : Seq) :
    Weathered task place longest (incidents ++ [.arrival]) (fetcher.accept seq) := by
  constructor
  case same => exact weathered.same
  case pause =>
    rw [setbacksInRow_arrival]
    exact congrArg RetryPause.reset weathered.pause
  case hint =>
    rw [setbacks_arrival, lastPlace_arrival]
    exact weathered.hint

/-- A setback prolongs the pause and changes the hint. -/
theorem failAttempt (weathered : Weathered task place longest incidents fetcher)
    (held : longest < Duration.limit) (resolve : DeviceId → Name) (now : Instant) :
    Weathered task place longest (incidents ++ [.setback resolve now])
      (fetcher.failAttempt resolve now) := by
  constructor
  case same => exact weathered.same
  case pause =>
    rw [setbacksInRow_setback, ← RetryPause.fail_afterSetbacks held, ← weathered.pause]
    rfl
  case hint =>
    show fetcher.hint.alternate resolve fetcher.task.producer = _
    rw [setbacks_setback, lastPlace_setback, weathered.hint, weathered.same]
    by_cases odd : Odd (setbacks incidents)
    · rw [if_pos odd, if_neg fun again => Nat.odd_add_one.mp again odd]
      rfl
    · rw [if_neg odd, if_pos (Nat.odd_add_one.mpr odd)]
      rfl

end Weathered

end Fetcher

/-! ## Whole retrievals -/

namespace Retrieval

variable {task : FetchTask} {place : Name} {longest : Duration} {before : List Incident}
  {retrieval : Retrieval}

end Retrieval

end DigestSync
