import DigestSync.Cbor.Item
import DigestSync.Proofs.Cbor.Forms

set_option autoImplicit false

/-! # Passing over items, and variants of maps

An item of definite length is passed over to its end and no further, if the containers in
it are not nested too deeply.  So the fields of a map are read from each of its variants:
what has been read depends on which fields were seen, and not on their order or on what
stood among them.
-/

namespace DigestSync.Cbor

variable {σ : Type} {bound depth limit : Nat}

/-! ## Texts by blocks -/

/-- A text is checked to its end whatever its blocks cut, if it is whole together with what
was carried over from before it. -/
theorem reads_readBlocks_checkBlock {carried content : Bytes}
    (stuck : Utf8.undecoded carried = carried)
    (whole : Utf8.undecoded (carried ++ content) = []) :
    Reads (readBlocks (fun carried => blockSize - carried.length) checkBlock content.length carried)
      content [] := by
  intro rest
  induction size : content.length using Nat.strongRecOn generalizing carried content with
  | _ count ih =>
    rw [readBlocks]
    by_cases empty : count = 0
    · have ended : content = [] := List.length_eq_zero_iff.mp (size.trans empty)
      rw [ended, List.append_nil, stuck] at whole
      rw [if_pos empty, whole, ended, List.nil_append]
    · generalize amount_eq : min count (max 1 (blockSize - carried.length)) = amount
      have positive : 0 < amount := by omega
      have inside : amount ≤ content.length := by omega
      have block : readBytes amount (content ++ rest) =
          .ok (content.take amount, content.drop amount ++ rest) := by
        have read := reads_readBytes (content.take amount) (content.drop amount ++ rest)
        rwa [← List.append_assoc, List.take_append_drop, List.length_take_of_le inside] at read
      rw [← List.take_append_drop amount content, ← List.append_assoc] at whole
      have cut := Utf8.length_undecoded_le_three whole
      rw [Utf8.undecoded_append] at whole
      -- A character that this block cuts is carried to the next one, which completes it.
      have later := ih (count - amount) (by omega) (Utf8.undecoded_undecoded _) whole
        (by rw [List.length_drop, size])
      rw [if_neg empty, block]
      simp only [checkBlock, if_pos cut]
      exact later

theorem reads_checkTextPiece (content : String) :
    Reads (checkTextPiece (Bytes.ofText content).length ()) (Bytes.ofText content) () := by
  intro rest
  have whole : Utf8.undecoded ([] ++ Bytes.ofText content) = [] := Utf8.undecoded_ofText content
  have nothing : Utf8.undecoded [] = [] := by simp only [Utf8.undecoded]
  unfold checkTextPiece
  simp only [reads_readBlocks_checkBlock nothing whole rest, List.isEmpty_nil, if_true]

/-! ## Items -/

theorem exists_skip_eq (bound limit : Nat) : ∃ inner, skip bound limit = skipWith bound inner := by
  cases limit <;> exact ⟨_, rfl⟩

theorem reads_foldCount_pass {item : Reader Unit} {items : List Bytes}
    (each : ∀ front ∈ items, Reads item front ()) :
    Reads (foldCount (fun _ => item) items.length ()) items.flatten () := by
  intro rest
  induction items with
  | nil => rfl
  | cons front others ih =>
    obtain ⟨here, later⟩ := List.forall_mem_cons.mp each
    rw [List.length_cons, List.flatten_cons, List.append_assoc]
    unfold foldCount
    simp only [here _, ih later]

/-- An item is passed over to its end, if it is not nested more deeply than is allowed. -/
theorem IsItem.reads_skip {front : Bytes} (item : IsItem depth front) (shallow : depth ≤ limit) :
    Reads (skip bound limit) front () := by
  induction item generalizing limit with
  | unsigned written =>
    intro rest
    obtain ⟨inner, same⟩ := exists_skip_eq bound limit
    rw [same, skipWith, written.reads_unsigned]
  | @bytes depth head content counted =>
    intro rest
    obtain ⟨inner, same⟩ := exists_skip_eq bound limit
    rw [same, skipWith, List.append_assoc, counted.reads_bytes]
    simp only [reads_readByteString bound content rest]
  | @text depth head content counted =>
    intro rest
    obtain ⟨inner, same⟩ := exists_skip_eq bound limit
    rw [same, skipWith, List.append_assoc, counted.reads_text]
    dsimp only
    split
    · simp only [readShortText, reads_readBytes (Bytes.ofText content) rest, Utf8.valid_ofText,
        if_true]
    · exact reads_checkTextPiece content rest
  | bool content =>
    intro rest
    obtain ⟨inner, same⟩ := exists_skip_eq bound limit
    rw [same]
    cases content <;> rfl
  | null =>
    intro rest
    obtain ⟨inner, same⟩ := exists_skip_eq bound limit
    rw [same]
    rfl
  | @array depth head items counted inside ih =>
    intro rest
    obtain ⟨inner, rfl⟩ : ∃ inner, limit = inner + 1 := Nat.exists_eq_add_one_of_ne_zero (by omega)
    have within : depth ≤ inner := Nat.le_of_succ_le_succ shallow
    rw [skip, skipWith, List.append_assoc, counted.reads_array]
    exact reads_foldCount_pass (fun item member => ih item member within) rest
  | @map depth head entries counted keys values ihKeys ihValues =>
    intro rest
    obtain ⟨inner, rfl⟩ : ∃ inner, limit = inner + 1 := Nat.exists_eq_add_one_of_ne_zero (by omega)
    have within : depth ≤ inner := Nat.le_of_succ_le_succ shallow
    rw [skip, skipWith, List.append_assoc, counted.reads_map, List.flatMap_def,
      ← List.length_map fun entry : Bytes × Bytes => entry.1 ++ entry.2]
    refine reads_foldCount_pass ?_ rest
    intro front member tail
    obtain ⟨entry, listed, rfl⟩ := List.mem_map.mp member
    rw [List.append_assoc]
    simp only [ihKeys entry listed within _, ihValues entry listed within tail]

/-! ## Variants of maps -/

/-- The key of an entry is a short text. -/
def Entry.IsKeyed (entry : Entry) : Prop :=
  IsHead 3 (Bytes.ofText entry.key).length entry.head ∧
    (Bytes.ofText entry.key).length ≤ blockSize

/-- Entries lead from one state to the next as their keys are added to those that were seen,
if each of them does so unless it is a field that was seen before. -/
theorem reads_foldCount_entries {field : Bytes → σ → Reader σ} {state : List String → σ}
    {names seen : List String} {entries : List Entry}
    (keyed : ∀ entry ∈ entries, entry.IsKeyed)
    (apart : entries.Pairwise fun first second => first.key = second.key → second.key ∉ names)
    (fresh : ∀ entry ∈ entries, entry.key ∈ names → entry.key ∉ seen)
    (step : ∀ entry ∈ entries, ∀ seen, (entry.key ∈ names → entry.key ∉ seen) →
      Reads (field (Bytes.ofText entry.key) (state seen)) entry.value (state (entry.key :: seen))) :
    Reads
      (foldCount
        (fun state rest =>
          match readIdentifier rest with
          | .error fault => .error fault
          | .ok (key, rest) => field key state rest)
        entries.length (state seen))
      (entries.flatMap Entry.bytes) (state ((entries.map Entry.key).reverse ++ seen)) := by
  intro rest
  induction entries generalizing seen with
  | nil => rfl
  | cons entry others ih =>
    obtain ⟨keyedHere, keyedLater⟩ := List.forall_mem_cons.mp keyed
    obtain ⟨apartHere, apartLater⟩ := List.pairwise_cons.mp apart
    obtain ⟨freshHere, freshLater⟩ := List.forall_mem_cons.mp fresh
    obtain ⟨stepHere, stepLater⟩ := List.forall_mem_cons.mp step
    have key (tail : Bytes) : readIdentifier (entry.head ++ (Bytes.ofText entry.key ++ tail)) =
        .ok (Bytes.ofText entry.key, tail) := by
      rw [← List.append_assoc]
      exact reads_readIdentifier_of_isHead keyedHere.1 keyedHere.2 tail
    have freshNext : ∀ other ∈ others, other.key ∈ names → other.key ∉ entry.key :: seen := by
      intro other member named
      rw [List.mem_cons, not_or]
      exact ⟨fun same => apartHere other member same.symm named, freshLater other member named⟩
    rw [List.length_cons, List.flatMap_cons, Entry.bytes, List.append_assoc, List.append_assoc,
      List.append_assoc]
    unfold foldCount
    simp only [key _, stepHere seen freshHere _, ih keyedLater apartLater freshNext stepLater,
      List.map_cons, List.reverse_cons, List.append_assoc, List.singleton_append]

/-- Among some fields with different names and some other entries, no key is that of a field
and of another entry as well. -/
theorem pairwise_key {names : List String} {kept : List (String × Bytes)} {extra : List Entry}
    (distinct : (kept.map Prod.fst).Nodup) (other : ∀ entry ∈ extra, entry.key ∉ names) :
    (kept.map Entry.ofField ++ extra).Pairwise fun first second =>
      first.key = second.key → second.key ∉ names := by
  refine List.pairwise_append.mpr ⟨?_, ?_, ?_⟩
  · rw [List.Nodup, List.pairwise_map] at distinct
    exact List.pairwise_map.mpr (distinct.imp fun differ same => absurd same differ)
  · exact List.pairwise_of_forall_mem_list fun _ _ entry there _ => other entry there
  · exact fun _ _ entry there _ => other entry there

/-- The fields of a map are read from each of its variants, but for some that are idle. -/
theorem IsVariant.reads_readRecord {idle : List String} {fields : List (String × Bytes)}
    {front : Bytes} (variant : IsVariant depth idle fields front) (bound : Nat)
    (identifiers : ∀ name ∈ fields.map Prod.fst, IsIdentifier name)
    (distinct : (fields.map Prod.fst).Nodup) {field : Bytes → σ → Reader σ}
    {state : List String → σ}
    (known : ∀ pair ∈ fields, ∀ seen, pair.1 ∉ seen →
      Reads (field (Bytes.ofText pair.1) (state seen)) pair.2 (state (pair.1 :: seen)))
    (passed : ∀ key, key ∉ fields.map Prod.fst → ∀ item, IsItem depth item → ∀ seen,
      Reads (field (Bytes.ofText key) (state seen)) item (state (key :: seen))) :
    ∃ seen, (∀ pair ∈ fields, pair.1 ∉ seen → pair.1 ∈ idle) ∧
      Reads (readRecord bound field (state [])) front (state seen) := by
  cases variant with
  | @intro kept extra entries head chosen dropped foreign order counted =>
    have cases_of_mem (entry : Entry) (member : entry ∈ entries) :
        (∃ pair ∈ kept, Entry.ofField pair = entry) ∨
          entry.IsExtra depth (fields.map Prod.fst) := by
      rcases List.mem_append.mp (order.mem_iff.mp member) with own | other
      · exact Or.inl (List.mem_map.mp own)
      · exact Or.inr (foreign entry other)
    have keyed : ∀ entry ∈ entries, entry.IsKeyed := by
      intro entry member
      rcases cases_of_mem entry member with ⟨pair, own, rfl⟩ | other
      · have identifier := identifiers pair.1 (List.mem_map_of_mem (chosen.subset own))
        exact ⟨identifier.isHead, identifier.1⟩
      · exact ⟨other.counted, other.short⟩
    have step : ∀ entry ∈ entries, ∀ seen,
        (entry.key ∈ fields.map Prod.fst → entry.key ∉ seen) →
        Reads (field (Bytes.ofText entry.key) (state seen)) entry.value
          (state (entry.key :: seen)) := by
      intro entry member seen fresh
      rcases cases_of_mem entry member with ⟨pair, own, rfl⟩ | other
      · have listed := chosen.subset own
        exact known pair listed seen (fresh (List.mem_map_of_mem listed))
      · exact passed entry.key other.other entry.value other.item seen
    have apart : entries.Pairwise fun first second =>
        first.key = second.key → second.key ∉ fields.map Prod.fst :=
      (order.pairwise_iff fun once same => same ▸ once same.symm).mpr
        (pairwise_key (distinct.sublist (chosen.map Prod.fst)) fun entry other =>
          (foreign entry other).other)
    refine ⟨(entries.map Entry.key).reverse ++ [], ?_, ?_⟩
    · intro pair listed unseen
      apply dropped pair listed
      intro own
      apply unseen
      have there : Entry.ofField pair ∈ entries :=
        order.mem_iff.mpr (List.mem_append_left _ (List.mem_map_of_mem own))
      rw [List.append_nil, List.mem_reverse]
      exact List.mem_map.mpr ⟨_, there, rfl⟩
    · intro rest
      unfold readRecord foldItems
      rw [List.append_assoc]
      simp only [counted.reads_readUntagged_map _]
      exact reads_foldCount_entries keyed apart (fun _ _ _ => List.not_mem_nil) step rest

theorem flatMap_bytes_ofField (fields : List (String × Value)) :
    (fields.map fun field => Entry.ofField (field.1, field.2.encode)).flatMap Entry.bytes =
      Value.encodeEntries (fields.map fun field => (.text field.1, field.2)) := by
  induction fields with
  | nil => rfl
  | cons field rest ih =>
    rw [List.map_cons, List.flatMap_cons, ih, List.map_cons, Value.encodeEntries, Value.encode,
      Value.encodeText, Entry.bytes, List.append_assoc]
    rfl

/-- What is written of some fields is a variant of the map of these fields. -/
theorem isVariant_record (idle : List String) (fields : List (String × Value))
    (fits : fields.length < UInt64.size) :
    IsVariant depth idle (fields.map fun field => (field.1, field.2.encode))
      (Value.record fields).encode := by
  have counted : IsHead 5 (fields.map fun field => Entry.ofField (field.1, field.2.encode)).length
      (Value.countHead 5 fields.length) := by
    rw [List.length_map]
    exact isHead_countHead 5 fits
  rw [Value.record, Value.encode, List.length_map, ← flatMap_bytes_ofField]
  refine .intro (List.Sublist.refl _) (fun field there missing => absurd there missing)
    (fun entry none => absurd none List.not_mem_nil) ?_ counted
  rw [List.map_map, List.append_nil]
  exact List.Perm.refl _

end DigestSync.Cbor
