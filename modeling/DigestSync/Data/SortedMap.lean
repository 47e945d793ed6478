set_option autoImplicit false

/-! # Sorted maps

A finite map kept as the list of its entries in strictly ascending key order.
The order is part of the type, so two maps with the same bindings are the same
value and are listed the same way.
-/

namespace DigestSync

/-- Every entry comes before all later ones. -/
def Ascending {κ ν : Type} [Ord κ] (entries : List (κ × ν)) : Prop :=
  entries.Pairwise fun a b => compare a.1 b.1 = .lt

namespace Entries

variable {κ ν : Type} [Ord κ]

/-- The value bound to a key. -/
def find? : List (κ × ν) → κ → Option ν
  | [], _ => none
  | entry :: rest, key =>
    match compare key entry.1 with
    | .lt => none
    | .eq => some entry.2
    | .gt => find? rest key

/-- Bind a key to a value, replacing what it was bound to. -/
def insert : List (κ × ν) → κ → ν → List (κ × ν)
  | [], key, value => [(key, value)]
  | entry :: rest, key, value =>
    match compare key entry.1 with
    | .lt => (key, value) :: entry :: rest
    | .eq => (key, value) :: rest
    | .gt => entry :: insert rest key value

/-- Remove the binding of a key. -/
def erase : List (κ × ν) → κ → List (κ × ν)
  | [], _ => []
  | entry :: rest, key =>
    match compare key entry.1 with
    | .lt => entry :: rest
    | .eq => rest
    | .gt => entry :: erase rest key

theorem mem_insert {entries : List (κ × ν)} {key : κ} {value : ν} {entry : κ × ν}
    (member : entry ∈ insert entries key value) :
    entry = (key, value) ∨ entry ∈ entries := by
  induction entries with
  | nil => simpa [insert] using member
  | cons head rest ih =>
    simp only [insert] at member
    split at member <;> simp only [List.mem_cons] at member ⊢
    · exact member
    · exact member.elim Or.inl fun tail => Or.inr (Or.inr tail)
    · rcases member with here | later
      · exact Or.inr (Or.inl here)
      · exact (ih later).elim Or.inl fun tail => Or.inr (Or.inr tail)

theorem mem_of_mem_erase {entries : List (κ × ν)} {key : κ} {entry : κ × ν}
    (member : entry ∈ erase entries key) : entry ∈ entries := by
  induction entries with
  | nil => simp [erase] at member
  | cons head rest ih =>
    simp only [erase] at member
    split at member
    · exact member
    · exact List.mem_cons_of_mem _ member
    · rcases List.mem_cons.mp member with here | later
      · exact here ▸ List.mem_cons_self
      · exact List.mem_cons_of_mem _ (ih later)

theorem ascending_insert [Std.TransOrd κ] [Std.LawfulEqOrd κ] {entries : List (κ × ν)}
    (ordered : Ascending entries) (key : κ) (value : ν) :
    Ascending (insert entries key value) := by
  induction entries with
  | nil => simp [insert, Ascending]
  | cons head rest ih =>
    obtain ⟨before, tail⟩ := List.pairwise_cons.mp ordered
    simp only [insert]
    split
    · rename_i less
      refine List.pairwise_cons.mpr ⟨fun entry member => ?_, ordered⟩
      rcases List.mem_cons.mp member with here | later
      · exact here ▸ less
      · exact Std.TransCmp.lt_trans less (before entry later)
    · rename_i same
      refine List.pairwise_cons.mpr ⟨fun entry member => ?_, tail⟩
      have same : key = head.1 := Std.LawfulEqOrd.eq_of_compare same
      exact same ▸ before entry member
    · rename_i greater
      refine List.pairwise_cons.mpr ⟨fun entry member => ?_, ih tail⟩
      rcases mem_insert member with here | later
      · exact here ▸ Std.OrientedCmp.lt_of_gt greater
      · exact before entry later

theorem ascending_erase {entries : List (κ × ν)} (ordered : Ascending entries) (key : κ) :
    Ascending (erase entries key) := by
  induction entries with
  | nil => simp [erase, Ascending]
  | cons head rest ih =>
    obtain ⟨before, tail⟩ := List.pairwise_cons.mp ordered
    simp only [erase]
    split
    · exact ordered
    · exact tail
    · exact List.pairwise_cons.mpr
        ⟨fun entry member => before entry (mem_of_mem_erase member), ih tail⟩

end Entries

/-- A finite map, listed in ascending key order. -/
structure SortedMap (κ ν : Type) [Ord κ] where
  entries : List (κ × ν)
  ordered : Ascending entries
deriving Repr

namespace SortedMap

variable {κ ν : Type} [Ord κ]

instance [DecidableEq κ] [DecidableEq ν] : DecidableEq (SortedMap κ ν) := fun a b =>
  decidable_of_iff (a.entries = b.entries) <| by
    cases a; cases b; simp

/-- The map without bindings. -/
def empty : SortedMap κ ν := ⟨[], List.Pairwise.nil⟩

instance : Inhabited (SortedMap κ ν) := ⟨empty⟩

/-- The value bound to a key. -/
def find? (map : SortedMap κ ν) (key : κ) : Option ν := Entries.find? map.entries key

/-- The key is bound. -/
def contains (map : SortedMap κ ν) (key : κ) : Bool := (map.find? key).isSome

/-- Bind a key to a value, replacing what it was bound to. -/
def insert [Std.TransOrd κ] [Std.LawfulEqOrd κ] (map : SortedMap κ ν) (key : κ) (value : ν) :
    SortedMap κ ν :=
  ⟨Entries.insert map.entries key value, Entries.ascending_insert map.ordered key value⟩

/-- Remove the binding of a key. -/
def erase (map : SortedMap κ ν) (key : κ) : SortedMap κ ν :=
  ⟨Entries.erase map.entries key, Entries.ascending_erase map.ordered key⟩

/-- The keys in ascending order. -/
def keys (map : SortedMap κ ν) : List κ := map.entries.map (·.1)

/-- The values in the order of their keys. -/
def values (map : SortedMap κ ν) : List ν := map.entries.map (·.2)

end SortedMap

end DigestSync
