import DigestSync.Proofs.Sync.Advance

set_option autoImplicit false

/-! # Tidings in any order

Merging keeps the greatest number that was told of each device.  What a run leaves
therefore depends neither on the order of the tidings nor on how often each of them
comes, and no input lowers the number of a device.
-/

namespace DigestSync

open scoped SeqOrder

namespace Peer

/-- The number of each device after a run is the greatest one that it had or that was
told. -/
theorem Rooted.isGreatest_run {peer : Peer} (rooted : peer.Rooted)
    (inputs : List (Instant × PeerInput)) (device : DeviceId) :
    IsGreatest (insert (peer.store.currentState.seqOf device)
        {seq | ∃ tiding ∈ PeerInput.tidings inputs, tiding.Tells peer.core.device device seq})
      ((peer.run inputs).store.currentState.seqOf device) := by
  have told : {seq | ∃ tiding ∈ PeerInput.tidings inputs,
      tiding.Tells peer.core.device device seq} =
        {seq | (device, seq) ∈
          (PeerInput.tidings inputs).flatMap (Tiding.entries peer.core.device)} := by
    ext seq
    simp only [Set.mem_ofPred_eq, List.mem_flatMap, Tiding.mem_entries_iff]
  rw [told, rooted.currentState_run]
  exact Snapshot.isGreatest_seqOf_mergeAll _ _ device

/-- Runs with the same tidings, in whatever order and however often, end in the same
state. -/
theorem Rooted.currentState_congr {peer : Peer} (rooted : peer.Rooted)
    {inputs others : List (Instant × PeerInput)}
    (same : ∀ tiding, tiding ∈ PeerInput.tidings others ↔ tiding ∈ PeerInput.tidings inputs) :
    (peer.run others).store.currentState = (peer.run inputs).store.currentState := by
  apply Snapshot.ext_seqOf
  intro device
  have here := rooted.isGreatest_run others device
  simp only [same] at here
  exact here.unique (rooted.isGreatest_run inputs device)

theorem run_append (peer : Peer) (early late : List (Instant × PeerInput)) :
    peer.run (early ++ late) = (peer.run early).run late := by
  induction early generalizing peer with
  | nil => rfl
  | cons input rest ih => exact ih _

/-- Wherever a run over a memory log has taken a peer, and whatever the log held at its
start: further inputs leave each device with the greatest number that it had or that one
of their tidings tells, and the root is the digest of that state; inputs with the same
tidings, in any order and with any repetitions, end in the same state with the same root;
and no input lowers the number of any device. -/
theorem merges_in_any_order (store : MemoryStore) (device : DeviceId) (config : SyncConfig)
    (start : Instant) (history inputs : List (Instant × PeerInput)) :
    let peer := (resume store device config start).run history
    let last := peer.run inputs
    (∀ other, IsGreatest (insert (peer.store.currentState.seqOf other)
        {seq | ∃ tiding ∈ PeerInput.tidings inputs, tiding.Tells device other seq})
      (last.store.currentState.seqOf other)) ∧
    last.core.root = last.store.currentState.digest ∧
    (∀ others : List (Instant × PeerInput),
      (∀ tiding, tiding ∈ PeerInput.tidings others ↔ tiding ∈ PeerInput.tidings inputs) →
        (peer.run others).store.currentState = last.store.currentState ∧
          (peer.run others).core.root = last.core.root) ∧
    ∀ early input late, inputs = early ++ input :: late → ∀ other,
      (peer.run early).store.currentState.seqOf other ≤
        (peer.run (early ++ [input])).store.currentState.seqOf other := by
  intro peer last
  have first := rooted_resume store device config start
  have rooted : peer.Rooted := first.run history
  have own : peer.core.device = device := first.device_run history
  refine ⟨?_, (rooted.run inputs).root_eq, ?_, ?_⟩
  · intro other
    have greatest := rooted.isGreatest_run inputs other
    rwa [own] at greatest
  · intro others same
    have state := rooted.currentState_congr same
    refine ⟨state, ?_⟩
    rw [(rooted.run others).root_eq, (rooted.run inputs).root_eq, state]
  · intro early input late _ other
    rw [run_append]
    exact ((rooted.run early).isGreatest_run [input] other).2 (Set.mem_insert _ _)

/-- A device hears what is no message, hears of another device's third change, and makes
five changes itself. -/
def gossip (other : DeviceId) : List (Instant × PeerInput) :=
  let news := (StateMessage.ofStates [.update other 3 none]).encode
  [(1, .event (.advertReply (some ⟨.empty, [255], 0⟩))),
    (2, .event (.advertReply (some ⟨.empty, news, 0⟩))),
    (3, .publish 5)]

/-- The same in another order, with the news twice. -/
def gossipAgain (other : DeviceId) : List (Instant × PeerInput) :=
  let news := (StateMessage.ofStates [.update other 3 none]).encode
  [(1, .publish 5),
    (2, .event (.recoverReply Digest.origin (some ⟨.empty, news, 0⟩))),
    (3, .event (.advertReply (some ⟨.empty, [255], 0⟩))),
    (4, .event (.advertReply (some ⟨.empty, news, 0⟩)))]

/-- Both ways the device ends in the same state, and knows of the other one's change. -/
theorem merges_in_any_order_gossip :
    let peer := (resume .empty ⟨.ofTexts ["a"]⟩ .standard 0).run []
    let first := peer.run (gossip ⟨.ofTexts ["b"]⟩)
    let second := peer.run (gossipAgain ⟨.ofTexts ["b"]⟩)
    second.store.currentState = first.store.currentState ∧ second.core.root = first.core.root ∧
      first.store.currentState.seqOf ⟨.ofTexts ["b"]⟩ = 3 := by
  have same : ∀ tiding, tiding ∈ PeerInput.tidings (gossipAgain ⟨.ofTexts ["b"]⟩) ↔
      tiding ∈ PeerInput.tidings (gossip ⟨.ofTexts ["b"]⟩) := by
    intro tiding
    simp only [PeerInput.tidings, PeerInput.tiding?, SyncEvent.answer?, gossip, gossipAgain,
      List.filterMap_cons, Option.map_some, List.filterMap_nil, List.mem_cons]
    tauto
  have told := merges_in_any_order .empty ⟨.ofTexts ["a"]⟩ .standard 0 []
    (gossip ⟨.ofTexts ["b"]⟩)
  have heard : (((resume .empty ⟨.ofTexts ["a"]⟩ .standard 0).run []).run
      (gossip ⟨.ofTexts ["b"]⟩)).store.currentState.seqOf ⟨.ofTexts ["b"]⟩ = 3 := by
    decide +kernel
  exact ⟨(told.2.2.1 _ same).1, (told.2.2.1 _ same).2, heard⟩

end Peer

end DigestSync
