import DigestSync.Proofs.Sync.Advance

set_option autoImplicit false

/-! # Sound peers

A peer is sound if its root is the digest of its state and recorded for it, its log is
sound, and all that it has recorded are states that it had.  Every input keeps that, and
no input lowers the state.
-/

namespace DigestSync

namespace Peer

/-- The root is that of the current state, and all states recorded are among those seen. -/
structure Sound (group : Name) (seen : List Snapshot) (peer : Peer) : Prop where
  log : peer.store.LogSound
  root_eq : peer.core.root = peer.store.currentState.digest
  kept : peer.store.digests.find? peer.core.root = some peer.store.currentState
  recorded : ∀ digest state, peer.store.digests.find? digest = some state → state ∈ seen
  current : peer.store.currentState ∈ seen
  running : peer.core.running = true
  group_eq : peer.core.config.group = group

variable {group : Name} {seen : List Snapshot} {peer : Peer} {store : MemoryStore} {turn : SyncTurn}

/-! ## Steps -/

/-- Keeping the log and the root keeps a peer sound. -/
theorem Sound.keep (sound : peer.Sound group seen) (keeps : peer.core.Keeps peer.store turn) :
    (ofTurn turn).Sound group seen := by
  have store : (ofTurn turn).store = peer.store := congrArg Volume.store keeps.volume
  have root : (ofTurn turn).core.root = peer.core.root := keeps.root
  have config : (ofTurn turn).core.config = peer.core.config := keeps.config
  refine ⟨?_, ?_, ?_, ?_, ?_, keeps.running.trans sound.running, ?_⟩
  · rw [store]
    exact sound.log
  · rw [store, root]
    exact sound.root_eq
  · rw [store, root]
    exact sound.kept
  · rw [store]
    exact sound.recorded
  · rw [store]
    exact sound.current
  · rw [config]
    exact sound.group_eq

/-- Adopting a log whose state has risen keeps a peer sound. -/
theorem Sound.adopt (sound : peer.Sound group seen) (adopts : peer.core.Adopts store turn)
    (same : store.digests = peer.store.digests)
    (rising : peer.store.currentState ≤ store.currentState) (visited : store.currentState ∈ seen) :
    (ofTurn turn).Sound group seen := by
  have left : (ofTurn turn).store = store.rememberState.2 := congrArg Volume.store adopts.volume
  have root : (ofTurn turn).core.root = store.currentState.digest := adopts.root
  have state : (ofTurn turn).store.currentState = store.currentState := by
    rw [left]
    rfl
  have config : (ofTurn turn).core.config = peer.core.config := adopts.config
  refine ⟨?_, ?_, ?_, ?_, ?_, adopts.running.trans sound.running, ?_⟩
  · rw [left]
    exact (sound.log.rise same rising).remember
  · rw [root, state]
  · rw [left, root, MemoryStore.find?_rememberState, if_pos rfl]
    rfl
  · intro digest recorded found
    rw [left, MemoryStore.find?_rememberState] at found
    split at found
    · cases found
      exact visited
    · rw [same] at found
      exact sound.recorded digest recorded found
  · rw [state]
    exact visited
  · rw [config]
    exact sound.group_eq

/-- An input keeps the log and the root, or else a log that has risen is adopted. -/
theorem Sound.react_cases (sound : peer.Sound group seen) (now : Instant) (input : PeerInput) :
    ∃ turn, peer.react now input = ofTurn turn ∧
      (peer.core.Keeps peer.store turn ∨
        ∃ store, peer.core.Adopts store turn ∧ store.digests = peer.store.digests ∧
          peer.store.currentState ≤ store.currentState) :=
  ⟨peer.turn now input, peer.react_eq now input, turn_cases sound.kept now input⟩

/-- An input keeps a peer sound. -/
theorem Sound.react (sound : peer.Sound group seen) {now : Instant} {input : PeerInput}
    (visited : (peer.react now input).store.currentState ∈ seen) :
    (peer.react now input).Sound group seen := by
  obtain ⟨turn, left, keeps | ⟨store, adopts, same, rising⟩⟩ := sound.react_cases now input
  · rw [left]
    exact sound.keep keeps
  · rw [left] at visited ⊢
    apply sound.adopt adopts same rising
    have taken : (ofTurn turn).store = store.rememberState.2 := congrArg Volume.store adopts.volume
    rw [taken] at visited
    exact visited

/-! ## Runs -/

/-- The first peer of a run is sound. -/
theorem sound_spawn (device : DeviceId) (config : SyncConfig) (now : Instant)
    (blank : Snapshot.empty ∈ seen) : (spawn device config now).Sound config.group seen := by
  have root : MemoryStore.empty.rememberState.2.digests.find? MemoryStore.empty.rememberState.1 =
      some Snapshot.empty := by
    rw [MemoryStore.find?_rememberState]
    exact if_pos rfl
  refine ⟨MemoryStore.logSound_empty.remember, rfl, root, ?_, blank, rfl, rfl⟩
  intro digest state found
  have found : MemoryStore.empty.rememberState.2.digests.find? digest = some state := found
  rw [MemoryStore.find?_rememberState] at found
  split at found
  · cases found
    exact blank
  · cases found

theorem current_mem_states (peer : Peer) (inputs : List (Instant × PeerInput)) :
    peer.store.currentState ∈ peer.states inputs := by
  cases inputs with
  | nil => exact List.mem_singleton_self _
  | cons input rest => exact List.mem_cons_self

/-- A run keeps a peer sound if all states that it passes through are among those seen. -/
theorem Sound.run (sound : peer.Sound group seen) {inputs : List (Instant × PeerInput)}
    (visited : ∀ state ∈ peer.states inputs, state ∈ seen) : (peer.run inputs).Sound group seen := by
  induction inputs generalizing peer with
  | nil => exact sound
  | cons input rest ih =>
    have later : ∀ state ∈ (peer.react input.1 input.2).states rest, state ∈ seen :=
      fun state member => visited state (List.mem_cons_of_mem _ member)
    exact ih (sound.react (later _ (current_mem_states _ _))) later

end Peer

end DigestSync
