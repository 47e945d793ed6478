import DigestSync.Data.Utf8

set_option autoImplicit false

/-! # Whole characters

Reading characters off the front of some bytes leaves a rest that starts with none, and
what was read plays no part in what is made of the bytes that follow.  So a text may be
read in pieces that cut its characters: what is left of each piece is at most three bytes,
and read together with the next one.  The UTF-8 form of a text is read to its end.
-/

namespace DigestSync.Utf8

/-- The bytes are one whole character. -/
inductive IsChar : Bytes → Prop where
  | one {a : UInt8} (lead : a < 0x80) : IsChar [a]
  | two {a b : UInt8} (lead : within 0xC2 0xDF a = true) (second : continues b = true) :
      IsChar [a, b]
  | three {a b c : UInt8} (second : secondOfThree a b = true) (third : continues c = true) :
      IsChar [a, b, c]
  | four {a b c d : UInt8} (second : secondOfFour a b = true) (third : continues c = true)
      (fourth : continues d = true) : IsChar [a, b, c, d]

theorem IsChar.length_pos {char : Bytes} (whole : IsChar char) : 0 < char.length := by
  cases whole <;> simp

theorem IsChar.length_le {char : Bytes} (whole : IsChar char) : char.length ≤ 4 := by
  cases whole <;> simp

/-! ## Leads -/

theorem within_iff {low high byte : UInt8} :
    within low high byte = true ↔ low.toNat ≤ byte.toNat ∧ byte.toNat ≤ high.toNat := by
  unfold within
  rw [Bool.and_eq_true, decide_eq_true_eq, decide_eq_true_eq, UInt8.le_iff_toNat_le,
    UInt8.le_iff_toNat_le]

theorem secondOfThree_iff {a b : UInt8} :
    secondOfThree a b = true ↔
      0xE0 ≤ a.toNat ∧ a.toNat ≤ 0xEF ∧ 0x80 ≤ b.toNat ∧ b.toNat ≤ 0xBF ∧
        (a.toNat ≠ 0xE0 ∨ 0xA0 ≤ b.toNat) ∧ (a.toNat ≠ 0xED ∨ b.toNat ≤ 0x9F) := by
  unfold secondOfThree continues
  split
  · rename_i low
    rw [within_iff, low]
    simp only [UInt8.reduceToNat]
    omega
  · split
    · rename_i high
      rw [within_iff, high]
      simp only [UInt8.reduceToNat]
      omega
    · rename_i low high
      have low : a.toNat ≠ 0xE0 := fun same => low (UInt8.toNat_inj.mp same)
      have high : a.toNat ≠ 0xED := fun same => high (UInt8.toNat_inj.mp same)
      rw [Bool.and_eq_true, within_iff, within_iff]
      simp only [UInt8.reduceToNat]
      omega

theorem secondOfFour_iff {a b : UInt8} :
    secondOfFour a b = true ↔
      0xF0 ≤ a.toNat ∧ a.toNat ≤ 0xF4 ∧ 0x80 ≤ b.toNat ∧ b.toNat ≤ 0xBF ∧
        (a.toNat ≠ 0xF0 ∨ 0x90 ≤ b.toNat) ∧ (a.toNat ≠ 0xF4 ∨ b.toNat ≤ 0x8F) := by
  unfold secondOfFour continues
  split
  · rename_i low
    rw [within_iff, low]
    simp only [UInt8.reduceToNat]
    omega
  · split
    · rename_i high
      rw [within_iff, high]
      simp only [UInt8.reduceToNat]
      omega
    · rename_i low high
      have low : a.toNat ≠ 0xF0 := fun same => low (UInt8.toNat_inj.mp same)
      have high : a.toNat ≠ 0xF4 := fun same => high (UInt8.toNat_inj.mp same)
      rw [Bool.and_eq_true, within_iff, within_iff]
      simp only [UInt8.reduceToNat]
      omega

theorem not_short {a : UInt8} (long : 0x80 ≤ a.toNat) : ¬a < 0x80 := by
  rw [UInt8.lt_iff_toNat_lt]
  exact Nat.not_lt.mpr long

/-! ## Reading characters -/

/-- A whole character at the front is passed over. -/
theorem undecoded_append_of_isChar {char : Bytes} (whole : IsChar char) (rest : Bytes) :
    undecoded (char ++ rest) = undecoded rest := by
  cases whole with
  | one lead =>
    rw [List.singleton_append, undecoded.eq_def]
    simp only [if_pos lead]
  | two lead second =>
    have long := not_short (Nat.le_trans (by decide) (within_iff.mp lead).1)
    rw [List.cons_append, List.singleton_append, undecoded.eq_def]
    rcases rest with _ | ⟨_, _ | _⟩
    · simp [long, lead, second, undecoded]
    · simp [long, lead, second]
    · simp [long, lead, second]
  | @three a b c second third =>
    have lead := secondOfThree_iff.mp second
    have long := not_short (Nat.le_trans (by decide) lead.1)
    have notTwo : ¬within 0xC2 0xDF a = true := fun two =>
      absurd (within_iff.mp two).2 (Nat.not_le.mpr lead.1)
    rw [List.cons_append, List.cons_append, List.singleton_append, undecoded.eq_def]
    cases rest with
    | nil => simp [long, notTwo, second, third, undecoded]
    | cons => simp [long, notTwo, second, third]
  | @four a b c d second third fourth =>
    have lead := secondOfFour_iff.mp second
    have long := not_short (Nat.le_trans (by decide) lead.1)
    have notTwo : ¬within 0xC2 0xDF a = true := fun two =>
      absurd (within_iff.mp two).2 (Nat.not_le.mpr (Nat.le_trans (by decide) lead.1))
    have notThree : ¬secondOfThree a b = true := fun three =>
      absurd (secondOfThree_iff.mp three).2.1 (Nat.not_le.mpr lead.1)
    rw [List.cons_append, List.cons_append, List.cons_append, List.singleton_append,
      undecoded.eq_def]
    simp [long, notTwo, notThree, second, third, fourth]

/-- Bytes start with a whole character, or nothing is read off them. -/
theorem isChar_or_undecoded_eq (bytes : Bytes) :
    (∃ char rest, IsChar char ∧ bytes = char ++ rest) ∨ undecoded bytes = bytes := by
  fun_cases undecoded bytes with
  | case2 a rest short => exact Or.inl ⟨[a], rest, .one short, rfl⟩
  | case3 a _ b c d tail two =>
    have bounds := Bool.and_eq_true_iff.mp two
    exact Or.inl ⟨[a, b], c :: d :: tail, .two bounds.1 bounds.2, rfl⟩
  | case4 a _ b c d tail _ three =>
    have bounds := Bool.and_eq_true_iff.mp three
    exact Or.inl ⟨[a, b, c], d :: tail, .three bounds.1 bounds.2, rfl⟩
  | case5 a _ b c d tail _ _ four =>
    obtain ⟨bounds, fourth⟩ := Bool.and_eq_true_iff.mp four
    have bounds := Bool.and_eq_true_iff.mp bounds
    exact Or.inl ⟨[a, b, c, d], tail, .four bounds.1 bounds.2 fourth, rfl⟩
  | case7 a _ b c two =>
    have bounds := Bool.and_eq_true_iff.mp two
    exact Or.inl ⟨[a, b], [c], .two bounds.1 bounds.2, rfl⟩
  | case8 a _ b c _ three =>
    have bounds := Bool.and_eq_true_iff.mp three
    exact Or.inl ⟨[a, b, c], [], .three bounds.1 bounds.2, rfl⟩
  | case10 a _ b two =>
    have bounds := Bool.and_eq_true_iff.mp two
    exact Or.inl ⟨[a, b], [], .two bounds.1 bounds.2, rfl⟩
  | case1 | case6 | case9 | case11 | case12 => exact Or.inr rfl

/-- What is read off some bytes plays no part in what is made of the bytes behind them. -/
theorem exists_decoded (bytes : Bytes) :
    ∃ decoded, bytes = decoded ++ undecoded bytes ∧
      ∀ tail, undecoded (decoded ++ tail) = undecoded tail := by
  induction size : bytes.length using Nat.strongRecOn generalizing bytes with
  | _ count ih =>
    rcases isChar_or_undecoded_eq bytes with ⟨char, rest, whole, rfl⟩ | stuck
    · have shorter : rest.length < count := by
        rw [← size, List.length_append]
        exact Nat.lt_add_of_pos_left whole.length_pos
      obtain ⟨decoded, split, passed⟩ := ih rest.length shorter rest rfl
      refine ⟨char ++ decoded, ?_, ?_⟩
      · rw [undecoded_append_of_isChar whole, List.append_assoc, ← split]
      · intro tail
        rw [List.append_assoc, undecoded_append_of_isChar whole, passed]
    · exact ⟨[], stuck.symm, fun _ => rfl⟩

/-- Bytes may be read in two pieces, if what is left of the first one is kept. -/
theorem undecoded_append (front tail : Bytes) :
    undecoded (front ++ tail) = undecoded (undecoded front ++ tail) := by
  obtain ⟨decoded, split, passed⟩ := exists_decoded front
  calc undecoded (front ++ tail)
      = undecoded (decoded ++ (undecoded front ++ tail)) := by rw [← List.append_assoc, ← split]
    _ = undecoded (undecoded front ++ tail) := passed _

theorem undecoded_undecoded (bytes : Bytes) : undecoded (undecoded bytes) = undecoded bytes := by
  have whole := undecoded_append bytes []
  rw [List.append_nil, List.append_nil] at whole
  exact whole.symm

theorem length_undecoded_le (bytes : Bytes) : (undecoded bytes).length ≤ bytes.length := by
  obtain ⟨decoded, split, -⟩ := exists_decoded bytes
  have sizes := congrArg List.length split
  rw [List.length_append] at sizes
  omega

/-- A piece of a text cuts off at most three bytes of a character. -/
theorem length_undecoded_le_three {front tail : Bytes} (whole : undecoded (front ++ tail) = []) :
    (undecoded front).length ≤ 3 := by
  apply Nat.le_of_not_lt
  intro long
  rw [undecoded_append] at whole
  have settled := undecoded_undecoded front
  generalize undecoded front = left at long whole settled
  rcases isChar_or_undecoded_eq (left ++ tail) with ⟨char, rest, isChar, split⟩ | stuck
  · -- The character lies inside of what was left, although that starts with none.
    have inside : char <+: left := by
      apply List.prefix_of_prefix_length_le ⟨rest, split.symm⟩ (List.prefix_append left tail)
      have := isChar.length_le
      omega
    obtain ⟨after, rfl⟩ := inside
    rw [undecoded_append_of_isChar isChar] at settled
    have shorter := length_undecoded_le after
    have positive := isChar.length_pos
    rw [settled, List.length_append] at shorter
    omega
  · rw [whole] at stuck
    have sizes := congrArg List.length stuck
    rw [List.length_append, List.length_nil] at sizes
    omega

/-! ## Texts -/

theorem isChar_utf8EncodeChar (char : Char) : IsChar (String.utf8EncodeChar char) := by
  have valid : char.val.toNat < 0xD800 ∨ 0xDFFF < char.val.toNat ∧ char.val.toNat < 0x110000 :=
    char.valid
  unfold String.utf8EncodeChar
  generalize char.val.toNat = value at valid
  dsimp only
  split
  · apply IsChar.one
    simp only [UInt8.lt_iff_toNat_lt, UInt8.toNat_ofNat', UInt8.reduceToNat]
    omega
  · split
    · refine .two ?_ ?_
      · simp only [within_iff, UInt8.toNat_ofNat', UInt8.reduceToNat]
        omega
      · simp only [continues, within_iff, UInt8.toNat_ofNat', UInt8.reduceToNat]
        omega
    · split
      · refine .three ?_ ?_
        · simp only [secondOfThree_iff, UInt8.toNat_ofNat']
          omega
        · simp only [continues, within_iff, UInt8.toNat_ofNat', UInt8.reduceToNat]
          omega
      · refine .four ?_ ?_ ?_
        · simp only [secondOfFour_iff, UInt8.toNat_ofNat']
          omega
        · simp only [continues, within_iff, UInt8.toNat_ofNat', UInt8.reduceToNat]
          omega
        · simp only [continues, within_iff, UInt8.toNat_ofNat', UInt8.reduceToNat]
          omega

theorem toNat_ofNat_byte (byte : UInt8) : (Char.ofNat byte.toNat).toNat = byte.toNat := by
  have bound := byte.toNat_lt
  have valid : byte.toNat.isValidChar := Or.inl (by omega)
  rw [Char.ofNat, dif_pos valid]
  rfl

/-- The UTF-8 form of a character is its code, or several bytes that are no codes of ASCII. -/
theorem utf8EncodeChar_cases (char : Char) :
    (∃ code, String.utf8EncodeChar char = [code] ∧ Char.ofNat code.toNat = char) ∨
      128 ≤ char.toNat ∧ ∃ lead second rest,
        String.utf8EncodeChar char = lead :: second :: rest ∧
          ∀ byte ∈ lead :: second :: rest, 128 ≤ byte.toNat := by
  have value : char.val.toNat = char.toNat := rfl
  unfold String.utf8EncodeChar
  rw [value]
  dsimp only
  split
  · refine Or.inl ⟨_, rfl, ?_⟩
    rw [UInt8.toNat_ofNat_of_lt' (by simp only [UInt8.size]; omega), Char.ofNat_toNat]
  · refine Or.inr ⟨by omega, ?_⟩
    split
    · exact ⟨_, _, _, rfl, by simp; omega⟩
    · split
      · exact ⟨_, _, _, rfl, by simp; omega⟩
      · exact ⟨_, _, _, rfl, by simp; omega⟩

/-- The UTF-8 form of a character of ASCII is its code. -/
theorem utf8EncodeChar_of_ascii {char : Char} (ascii : char.toNat < 128) :
    String.utf8EncodeChar char = [UInt8.ofNat char.toNat] := by
  rcases utf8EncodeChar_cases char with ⟨code, single, whole⟩ | ⟨beyond, -⟩
  · rw [single, ← whole, toNat_ofNat_byte, UInt8.ofNat_toNat]
  · exact absurd ascii (Nat.not_lt.mpr beyond)

theorem undecoded_ofText_append (text : String) (rest : Bytes) :
    undecoded (Bytes.ofText text ++ rest) = undecoded rest := by
  unfold Bytes.ofText
  induction text.toList with
  | nil => rfl
  | cons char chars ih =>
    rw [List.flatMap_cons, List.append_assoc, undecoded_append_of_isChar (isChar_utf8EncodeChar char),
      ih]

/-- The UTF-8 form of a text is read to its end. -/
theorem undecoded_ofText (text : String) : undecoded (Bytes.ofText text) = [] := by
  have read := undecoded_ofText_append text []
  rw [List.append_nil] at read
  rw [read]
  simp [undecoded]

theorem valid_ofText (text : String) : valid (Bytes.ofText text) = true := by
  unfold valid
  rw [undecoded_ofText]
  rfl

end DigestSync.Utf8
