import DigestSync.Network.Broadcast
import Mathlib.Data.List.Nodup

set_option autoImplicit false

/-! # What the operations of the network do

Each operation on the table of waiting interests and on the cache is told by what is there
afterwards.
-/

namespace DigestSync

namespace Network

variable {τ ρ : Type} {network : Network τ ρ} {face : Face} {name : Name} {asker : ρ}
  {data : Data} {now : Instant}

/-- What expressing an interest does to the table and to the cache. -/
inductive Expressing (network : Network τ ρ) (face : Face) (name : Name) (asker : ρ)
    (now : Instant) : Reception τ → Network τ ρ → Prop where
  /-- The face is offline. -/
  | unreachable {after : Network τ ρ} (offline : network.isOnline face = false)
      (waiting : after.waiting = network.waiting) (next : after.nextWaiting = network.nextWaiting)
      (cache : after.cache = network.cache) :
      Expressing network face name asker now .unreachable after
  /-- Another face's fresh data is in the cache. -/
  | cached {after : Network τ ρ} (entry : CachedData) (online : network.isOnline face = true)
      (inside : entry ∈ network.cache) (fresh : now < entry.expiry)
      (foreign : entry.producer ≠ face) (answers : entry.data.answers name = true)
      (waiting : after.waiting = network.waiting) (next : after.nextWaiting = network.nextWaiting)
      (cache : ∀ other ∈ after.cache, other ∈ network.cache) :
      Expressing network face name asker now (.cached entry.data) after
  /-- The interest waits. -/
  | forwarded {after : Network τ ρ} (online : network.isOnline face = true)
      (waiting : after.waiting = network.waiting ++ [⟨network.nextWaiting, face, name, asker⟩])
      (next : after.nextWaiting = network.nextWaiting + 1)
      (cache : ∀ other ∈ after.cache, other ∈ network.cache) :
      Expressing network face name asker now
        (.forwarded network.nextWaiting (network.targets face name)) after

theorem expressing_express (network : Network τ ρ) (face : Face) (name : Name) (asker : ρ)
    (now : Instant) :
    Expressing network face name asker now (network.express face name asker now).1
      (network.express face name asker now).2 := by
  simp only [express]
  have fewer : ∀ entry ∈ network.cache.filter (fun entry => now < entry.expiry),
      entry ∈ network.cache := fun entry member => (List.mem_filter.mp member).1
  cases online : network.isOnline face with
  | false => exact .unreachable online rfl rfl rfl
  | true =>
    simp only [if_true]
    cases found : cached? (network.cache.filter fun entry => now < entry.expiry) face name with
    | none => exact .forwarded online rfl rfl fewer
    | some data =>
      obtain ⟨entry, first, rfl⟩ := Option.map_eq_some_iff.mp found
      have facts := List.find?_some first
      have member := List.mem_of_find?_eq_some first
      simp only [ne_eq, Bool.and_eq_true, decide_eq_true_eq] at facts
      have fresh : now < entry.expiry := by simpa using (List.mem_filter.mp member).2
      exact .cached entry online (fewer entry member) fresh facts.1 facts.2 rfl rfl fewer

/-- Data put by an online face answers what it matches of online faces. -/
theorem mem_put {one : Waiting ρ} : one ∈ (network.put face data now).1 ↔
    network.isOnline face = true ∧ one ∈ network.waiting ∧ one.isMatch face data = true ∧
      network.isOnline one.face = true := by
  cases online : network.isOnline face with
  | false => simp [put, online]
  | true => simp [put, online, List.partition_eq_filter_filter, List.mem_filter, and_comm]

/-- An interest that waited is answered or goes on waiting, once. -/
theorem perm_put (network : Network τ ρ) (face : Face) (data : Data) (now : Instant) :
    ((network.put face data now).1 ++ (network.put face data now).2.waiting).Perm
      network.waiting := by
  cases online : network.isOnline face with
  | false => simp [put, online]
  | true =>
    simp only [put, online, if_true, List.partition_eq_filter_filter]
    have halves := List.filter_append_perm (fun one => one.isMatch face data) network.waiting
    have quarters := List.filter_append_perm (fun one => network.isOnline one.face)
      (network.waiting.filter fun one => one.isMatch face data)
    refine (List.perm_append_comm.append_left _).trans ?_
    rw [← List.append_assoc]
    exact (quarters.append_right _).trans halves

theorem mem_cache_put {entry : CachedData} : entry ∈ (network.put face data now).2.cache ↔
    entry ∈ network.cache ∨ network.isOnline face = true ∧ 0 < data.freshness ∧
      entry = ⟨face, data, now + data.freshness⟩ := by
  cases online : network.isOnline face with
  | false => simp [put, online]
  | true =>
    by_cases stale : data.freshness = 0
    · simp [put, online, stale]
    · simp [put, online, stale, Nat.pos_of_ne_zero stale]

end Network

end DigestSync
