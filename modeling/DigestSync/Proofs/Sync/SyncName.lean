import DigestSync.Proofs.Digest
import DigestSync.Proofs.Name.Prefix
import DigestSync.Sync.SyncName

set_option autoImplicit false

/-! # Sync names read back

What follows the group's name in a sync name is what was put behind it, so a sync name
says to everyone in the group what it was built to say.  Reading is exact: a name says
something only if it was built to say it, and every other one is refused.
-/

namespace DigestSync

namespace SyncName

variable {group name : Name} {saying : SyncName}

/-- What a sync name has behind the group's name. -/
def tail : SyncName → Name
  | .advertise digest => ⟨[digest.bytes]⟩
  | .recover digest => ⟨[recoverMarker, digest.bytes]⟩

theorem toName_eq (group : Name) (saying : SyncName) :
    saying.toName group = group ++ saying.tail := by
  cases saying with
  | advertise digest => rfl
  | recover digest =>
    exact congrArg Name.mk (List.append_assoc group.components [recoverMarker] [digest.bytes])

/-- A sync name is one of the group's. -/
theorem isPrefixOf_toName (group : Name) (saying : SyncName) :
    group.isPrefixOf (saying.toName group) = true := by
  rw [toName_eq]
  exact Name.isPrefixOf_append group saying.tail

/-- Everyone in the group understands a sync name as it was meant. -/
theorem ofName_toName (group : Name) (saying : SyncName) :
    ofName group (saying.toName group) = .ok saying := by
  have behind : (saying.toName group).drop? group = some saying.tail :=
    Name.drop?_eq_some_iff.mpr (toName_eq group saying)
  unfold ofName
  rw [behind]
  cases saying with
  | advertise digest => simp only [tail, Digest.ofBytes_bytes]
  | recover digest => simp only [tail, Digest.ofBytes_bytes, if_true]

/-- A name is understood, and was built to say this, or it is refused as it stands. -/
theorem ofName_cases (group name : Name) :
    (∃ saying, ofName group name = .ok saying ∧ name = saying.toName group) ∨
      ∃ cause, ofName group name = .error (.unexpectedName name cause) := by
  unfold ofName
  dsimp only
  split
  · exact Or.inr ⟨none, rfl⟩
  · rename_i component behind
    cases made : Digest.ofBytes component with
    | error cause => exact Or.inr ⟨some cause, rfl⟩
    | ok digest =>
      rw [Digest.eq_bytes_of_ofBytes made] at behind
      refine Or.inl ⟨.advertise digest, rfl, ?_⟩
      rw [toName_eq]
      exact Name.drop?_eq_some_iff.mp behind
  · rename_i marker component behind
    split
    · rename_i marked
      cases made : Digest.ofBytes component with
      | error cause => exact Or.inr ⟨some cause, rfl⟩
      | ok digest =>
        rw [marked, Digest.eq_bytes_of_ofBytes made] at behind
        refine Or.inl ⟨.recover digest, rfl, ?_⟩
        rw [toName_eq]
        exact Name.drop?_eq_some_iff.mp behind
    · exact Or.inr ⟨none, rfl⟩
  · exact Or.inr ⟨none, rfl⟩

theorem ofName_eq_ok_iff : ofName group name = .ok saying ↔ name = saying.toName group := by
  constructor
  · intro heard
    rcases ofName_cases group name with ⟨meant, read, built⟩ | ⟨cause, refused⟩
    · rw [read] at heard
      cases heard
      exact built
    · rw [refused] at heard
      cases heard
  · rintro rfl
    exact ofName_toName group saying

theorem toName_injective (group : Name) : Function.Injective (toName group) := by
  intro saying other same
  have heard : ofName group (saying.toName group) = .ok other := ofName_eq_ok_iff.mpr same
  rw [ofName_toName] at heard
  exact Except.ok.inj heard

/-- A name says something under the group's name exactly if it was built to say it.  So what a
name was built with is recovered, any other name is refused as it stands, no name is both an
advertisement and a request for recovery, and what is said differently is named differently. -/
theorem reads_what_was_built (group : Name) :
    (∀ name saying, ofName group name = .ok saying ↔ name = saying.toName group) ∧
      (∀ saying, ofName group (saying.toName group) = .ok saying) ∧
      (∀ name, (∃ cause, ofName group name = .error (.unexpectedName name cause)) ↔
        ∀ saying : SyncName, name ≠ saying.toName group) ∧
      (∀ one two : Digest, (advertise one).toName group ≠ (recover two).toName group) ∧
      Function.Injective (toName group) := by
  refine ⟨fun _ _ => ofName_eq_ok_iff, ofName_toName group, ?_, ?_, toName_injective group⟩
  · intro name
    constructor
    · rintro ⟨cause, refused⟩ saying rfl
      rw [ofName_toName] at refused
      cases refused
    · intro foreign
      rcases ofName_cases group name with ⟨saying, -, built⟩ | refused
      · exact absurd built (foreign saying)
      · exact refused
  · intro one two same
    cases toName_injective group same

/-- A digest behind a group's name that ends in the marker of a recovery is advertised, and behind
another marker its recovery is asked for, though all its bytes are alike. -/
example (digest : Digest) :
    let group := Name.ofTexts ["group", "RECOVER"]
    ofName group (group.push digest.bytes) = .ok (.advertise digest) ∧
      ofName group ((group.push recoverMarker).push digest.bytes) = .ok (.recover digest) :=
  ⟨ofName_toName _ (.advertise digest), ofName_toName _ (.recover digest)⟩

end SyncName

end DigestSync
