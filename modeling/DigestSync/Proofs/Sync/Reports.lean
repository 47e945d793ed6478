import DigestSync.Proofs.Data.Keyed
import DigestSync.Proofs.Sync.Advance
import DigestSync.Proofs.Sync.Peer
import Mathlib.Data.Set.Function

set_option autoImplicit false

/-! # Reports without gaps

Whenever the state changes by an answer, each device that has risen is reported with the
number that it had and the one that it has.  The numbers of other devices change in no
other way, so the reports of a run about one device take its number step by step from
where it was at the start to where it is: the ranges that they say are missing follow
one another without gap or overlap.
-/

namespace DigestSync

open scoped SeqOrder

namespace DeltaRecord

variable {first middle last : Seq}

/-! ## Tilings -/

theorem Tiles.append {early late : List DeltaRecord} (before : Tiles first early middle)
    (after : Tiles middle late last) : Tiles first (early ++ late) last := by
  induction before with
  | nil => exact after
  | cons kind start rising _ ih => exact .cons kind start rising (ih after)

theorem Tiles.le {records : List DeltaRecord} (tiles : Tiles first records last) :
    first ≤ last := by
  induction tiles with
  | nil => exact le_refl _
  | cons _ _ rising _ ih => exact rising.le.trans ih

/-- A record that raises a number says that those from the next one on are missing. -/
theorem missingRange_eq {record : DeltaRecord} (kind : record.kind = .update)
    (start : record.oldSeq = some first) (rising : first < record.seq) :
    record.missingRange = some (first + 1, record.seq) := by
  unfold missingRange
  rw [kind, start]
  exact if_pos rising

theorem missing_eq {record : DeltaRecord} (kind : record.kind = .update)
    (start : record.oldSeq = some first) (rising : first < record.seq) :
    record.missing = List.range' (first.toNat + 1) (record.seq.toNat - first.toNat) := by
  unfold missing
  rw [missingRange_eq kind start rising]
  simp only [toNat_succ (succ_toNat_lt_of_lt rising), Nat.add_sub_add_right]

/-- All numbers that a tiling says are missing are those between its ends, in order. -/
theorem Tiles.flatMap_missing {records : List DeltaRecord} (tiles : Tiles first records last) :
    records.flatMap missing = List.range' (first.toNat + 1) (last.toNat - first.toNat) := by
  induction tiles with
  | nil => simp
  | @cons start last record rest kind known rising later ih =>
    have up := UInt64.lt_iff_toNat_lt.mp rising
    have on := UInt64.le_iff_toNat_le.mp later.le
    have split : List.range' (start.toNat + 1) (last.toNat - start.toNat) =
        List.range' (start.toNat + 1) (record.seq.toNat - start.toNat) ++
          List.range' (record.seq.toNat + 1) (last.toNat - record.seq.toNat) := by
      have there : start.toNat + 1 + (record.seq.toNat - start.toNat) = record.seq.toNat + 1 := by
        omega
      rw [← there, List.range'_append_1]
      congr 1
      omega
    rw [List.flatMap_cons, missing_eq kind known rising, ih, split]

end DeltaRecord

/-! ## The news of one merge -/

namespace MemoryStore

variable {store : MemoryStore} {before : Snapshot}

theorem nodup_newsSince (store : MemoryStore) (before : Snapshot) :
    ((store.newsSince before).map (·.device)).Nodup := by
  unfold newsSince
  rw [List.map_map]
  exact Snapshot.nodup_device_diff before store.currentState true

/-- If no number has fallen, each record raises its device's former number to the present
one. -/
theorem rising_of_mem_newsSince (rising : before ≤ store.currentState) {record : DeltaRecord}
    (member : record ∈ store.newsSince before) :
    record.kind = .update ∧ record.oldSeq = some (before.seqOf record.device) ∧
      record.seq = store.currentState.seqOf record.device ∧
      before.seqOf record.device < record.seq := by
  obtain ⟨bare, listed, rfl⟩ := List.mem_map.mp member
  rcases Snapshot.mem_diff.mp listed with ⟨come, inside, differs, rfl⟩ | ⟨gone, inside, absent, rfl⟩
  · have reached : store.currentState.seqOf come.1 = come.2 := Snapshot.seqOf_of_mem inside
    refine ⟨rfl, rfl, reached.symm, ?_⟩
    have upto : before.seqOf come.1 ≤ come.2 := reached ▸ rising come.1
    apply lt_of_le_of_ne upto
    intro same
    apply differs
    have told := before.get?_eq come.1
    rwa [same, if_neg (store.currentState.nonzero come inside)] at told
  · exfalso
    have fallen : store.currentState.seqOf gone.1 = 0 := by
      have none : store.currentState.get? gone.1 = none := absent
      rw [Snapshot.seqOf, none]
      rfl
    have upto := rising gone.1
    rw [Snapshot.seqOf_of_mem inside, fallen] at upto
    exact before.nonzero gone inside (le_antisymm upto (Snapshot.zero_le_seq _))

/-- A device whose number has risen is among the news. -/
theorem exists_mem_newsSince {device : DeviceId}
    (risen : before.seqOf device < store.currentState.seqOf device) :
    ∃ record ∈ store.newsSince before, record.device = device := by
  have positive : store.currentState.seqOf device ≠ 0 :=
    ((Snapshot.zero_le_seq _).trans_lt risen).ne'
  have listed : store.currentState.get? device = some (store.currentState.seqOf device) := by
    rw [Snapshot.get?_eq, if_neg positive]
  have differs : before.get? device ≠ some (store.currentState.seqOf device) := by
    intro same
    rw [Snapshot.seqOf, same] at risen
    exact lt_irrefl _ risen
  refine ⟨_, List.mem_map_of_mem (Snapshot.mem_diff.mpr
    (Or.inl ⟨(device, _), Snapshot.get?_eq_some_iff.mp listed, differs, rfl⟩)), rfl⟩

/-- The news of one device take its number from where it was to where it is. -/
theorem tiles_newsSince (rising : before ≤ store.currentState) (device : DeviceId) :
    DeltaRecord.Tiles (before.seqOf device)
      ((store.newsSince before).filter fun record => record.device = device)
      (store.currentState.seqOf device) := by
  rw [filter_key_eq_find? (nodup_newsSince store before)]
  cases found : (store.newsSince before).find? fun record => record.device = device with
  | none =>
    have same : before.seqOf device = store.currentState.seqOf device := by
      apply le_antisymm (rising device)
      by_contra risen
      obtain ⟨record, member, rfl⟩ := exists_mem_newsSince (not_le.mp risen)
      have passed := List.find?_eq_none.mp found record member
      simp at passed
    rw [same]
    exact .nil _
  | some record =>
    obtain ⟨member, rfl⟩ := (find?_key_eq_some_iff (nodup_newsSince store before)).mp found
    obtain ⟨kind, start, reached, higher⟩ := rising_of_mem_newsSince rising member
    rw [← reached]
    exact .cons kind start higher (.nil _)

end MemoryStore

/-! ## Turns and runs -/

namespace Peer

variable {peer : Peer} {turn : SyncTurn}

/-- What a turn reports of another device takes its number from where it was to where it
is, if states with the same digest are the same. -/
theorem Advances.tiles {tiding? : Option Tiding} (rooted : peer.Rooted)
    (advances : peer.Advances tiding? turn)
    (apart : turn.volume.store.currentState.digest = peer.store.currentState.digest →
      turn.volume.store.currentState = peer.store.currentState)
    {device : DeviceId} (foreign : device ≠ peer.core.device) :
    DeltaRecord.Tiles (peer.store.currentState.seqOf device)
      (turn.reported.filter fun record => record.device = device)
      (turn.volume.store.currentState.seqOf device) := by
  rcases advances.reported_eq with ⟨silent, own⟩ | told
  · -- Only the number of the own device can have changed.
    have absent : device ∉
        ((tiding?.map (Tiding.entries peer.core.device)).getD []).map (·.1) := by
      intro member
      obtain ⟨entry, inside, rfl⟩ := List.mem_map.mp member
      exact foreign (own entry inside)
    rw [silent, advances.state_eq, Snapshot.seqOf_mergeAll_of_notMem absent]
    exact .nil _
  · rw [told]
    split
    · rename_i still
      have root : turn.core.root = turn.volume.store.currentState.digest :=
        advances.rooted.root_eq
      rw [apart (by rw [← root, still, rooted.root_eq])]
      exact .nil _
    · apply MemoryStore.tiles_newsSince
      rw [advances.state_eq]
      exact Snapshot.le_mergeAll _ _

/-- What a run reports of another device takes its number from where it was to where it
is, if the digests of the states on the way tell them apart. -/
theorem Rooted.tiles_reports (rooted : peer.Rooted) (inputs : List (Instant × PeerInput))
    (distinct : Set.InjOn Snapshot.digest {state | state ∈ peer.states inputs})
    {device : DeviceId} (foreign : device ≠ peer.core.device) :
    DeltaRecord.Tiles (peer.store.currentState.seqOf device)
      ((peer.reports inputs).filter fun record => record.device = device)
      ((peer.run inputs).store.currentState.seqOf device) := by
  induction inputs generalizing peer with
  | nil => exact .nil _
  | cons input rest ih =>
    have here : peer.store.currentState ∈ peer.states (input :: rest) := List.mem_cons_self
    have next : (peer.react input.1 input.2).store.currentState ∈ peer.states (input :: rest) :=
      List.mem_cons_of_mem _ (current_mem_states _ rest)
    have later := ih (rooted.react input.1 input.2)
      (distinct.mono fun state member => List.mem_cons_of_mem _ member)
      (by rwa [rooted.device_react])
    have advances := rooted.advances_turn input.1 input.2
    rw [react_eq] at next later
    have step := advances.tiles rooted (fun same => distinct next here same) foreign
    have told : peer.reports (input :: rest) =
        (peer.turn input.1 input.2).reported ++ (peer.react input.1 input.2).reports rest := rfl
    rw [told, List.filter_append, react_eq]
    have left : peer.run (input :: rest) = (ofTurn (peer.turn input.1 input.2)).run rest :=
      congrArg (fun peer : Peer => peer.run rest) (peer.react_eq input.1 input.2)
    rw [left]
    exact step.append later

/-- Over a log that it alone writes, whatever that held at the start, and whatever a core is
told: if the digests of the states on the way tell them apart, then the reports about each
device other than its own are updates, of which the first starts at the number that the
device had in the state of the root at the start, each other one where the one before it
has ended, each goes up, and the last ends at the number in the state of the present root.
The ranges that they say are missing are all numbers in between, each once and in order. -/
theorem reports_tile_history (store : MemoryStore) (device : DeviceId) (config : SyncConfig)
    (start : Instant) (inputs : List (Instant × PeerInput))
    (distinct : Set.InjOn Snapshot.digest
      {state | state ∈ (resume store device config start).states inputs}) :
    let first := resume store device config start
    let last := first.run inputs
    ∃ before after, first.store.snapshot first.core.root = some before ∧
      last.store.snapshot last.core.root = some after ∧
      ∀ other, other ≠ device →
        let told := (first.reports inputs).filter fun record => record.device = other
        DeltaRecord.Tiles (before.seqOf other) told (after.seqOf other) ∧
          told.flatMap DeltaRecord.missing =
            List.range' ((before.seqOf other).toNat + 1)
              ((after.seqOf other).toNat - (before.seqOf other).toNat) := by
  intro first last
  have rooted : first.Rooted := rooted_resume store device config start
  refine ⟨_, _, MemoryStore.snapshot_of_find? rooted.kept,
    MemoryStore.snapshot_of_find? (rooted.run inputs).kept, ?_⟩
  intro other foreign told
  have tiles : DeltaRecord.Tiles _ told _ := rooted.tiles_reports inputs distinct foreign
  exact ⟨tiles, tiles.flatMap_missing⟩

/-- A device hears of two changes of another one, makes a change itself, and hears of the
other one's next change. -/
def hearsay : List (Instant × PeerInput) :=
  let news (seq : Seq) : Bytes :=
    (StateMessage.ofStates [.update ⟨.ofTexts ["b"]⟩ seq none]).encode
  [(1, .event (.advertReply (some ⟨.empty, news 2, 0⟩))), (2, .publish 1),
    (3, .event (.advertReply (some ⟨.empty, news 3, 0⟩)))]

/-- The listener that hears it. -/
def listener : Peer := resume .empty ⟨.ofTexts ["a"]⟩ .standard 0

/-- The listener reports all three changes as missing. -/
theorem reports_tile_history_hearsay :
    ((listener.reports hearsay).filter fun record =>
      record.device = ⟨.ofTexts ["b"]⟩).flatMap DeltaRecord.missing = [1, 2, 3] := by
  have distinct : ((listener.states hearsay).map Snapshot.digest).Nodup := by decide +kernel
  have early : (listener.store.snapshot listener.core.root).map
      (fun state => state.seqOf ⟨.ofTexts ["b"]⟩) = some 0 := by decide +kernel
  have late : ((listener.run hearsay).store.snapshot (listener.run hearsay).core.root).map
      (fun state => state.seqOf ⟨.ofTexts ["b"]⟩) = some 3 := by decide +kernel
  obtain ⟨before, after, first, last, told⟩ := reports_tile_history .empty ⟨.ofTexts ["a"]⟩
    .standard 0 hearsay fun _ here _ there => List.inj_on_of_nodup_map distinct here there
  have missing := (told ⟨.ofTexts ["b"]⟩ (by decide +kernel)).2
  have first : listener.store.snapshot listener.core.root = some before := first
  have last : (listener.run hearsay).store.snapshot (listener.run hearsay).core.root =
      some after := last
  rw [first] at early
  rw [last] at late
  have early : before.seqOf ⟨.ofTexts ["b"]⟩ = 0 := Option.some.inj early
  have late : after.seqOf ⟨.ofTexts ["b"]⟩ = 3 := Option.some.inj late
  rw [early, late] at missing
  exact missing

end Peer

end DigestSync
