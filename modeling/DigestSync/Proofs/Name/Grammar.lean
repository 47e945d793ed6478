import DigestSync.Name.Grammar
import DigestSync.Proofs.Data.Hex
import DigestSync.Proofs.Name.Text
import Mathlib.Data.List.Forall2
import Mathlib.Data.Set.Function

set_option autoImplicit false

/-! # The parser accepts the grammar

Reading a part finds the bytes that the grammar gives it, on the characters as on their UTF-8 bytes,
so it fails exactly on the parts that are not well formed.  A text is therefore a written name if it
is empty or begins with a slash and all its parts are well formed; what is refused otherwise is the
whole text or the first part that is not.
-/

namespace DigestSync

namespace Name

/-! ## Escapes -/

theorem isHexDigit_lowerDigit_upperDigit : ∀ value < 16,
    IsHexDigit (Hex.lowerDigit value) value ∧ IsHexDigit (Hex.upperDigit value) value := by
  unfold IsHexDigit
  decide

theorem digitValue?_of_isHexDigit : ∀ value < 16,
    ("0123456789abcdef".toList[value]?).all (fun char => Hex.digitValue? char.toNat = some value) ∧
      ("0123456789ABCDEF".toList[value]?).all
        (fun char => Hex.digitValue? char.toNat = some value) := by
  decide

theorem digitValue?_eq_some_iff {char : Char} {value : Nat} :
    Hex.digitValue? char.toNat = some value ↔ IsHexDigit char value := by
  constructor
  · intro digit
    obtain ⟨small, shown⟩ := Hex.lt_and_ofNat_eq_of_digitValue? digit
    rw [Char.ofNat_toNat] at shown
    obtain ⟨lowers, uppers⟩ := isHexDigit_lowerDigit_upperDigit value small
    rcases shown with rfl | rfl
    · exact lowers
    · exact uppers
  · intro digit
    have small : value < 16 := by
      rcases digit with lower | upper
      · exact (List.getElem?_eq_some_iff.mp lower).1
      · exact (List.getElem?_eq_some_iff.mp upper).1
    obtain ⟨lowers, uppers⟩ := digitValue?_of_isHexDigit value small
    rcases digit with lower | upper
    · rw [lower] at lowers
      exact of_decide_eq_true lowers
    · rw [upper] at uppers
      exact of_decide_eq_true uppers

theorem not_isHexDigit_plus (value : Nat) : ¬ IsHexDigit '+' value := by
  rw [← digitValue?_eq_some_iff]
  intro digit
  cases digit

/-- The two characters of an escape are read as its byte, and no other two are read. -/
theorem escapeValue?_eq_some_iff {high low : Char} {byte : UInt8} :
    escapeValue? high low = some byte ↔ IsEscape high low byte := by
  unfold escapeValue?
  constructor
  · intro read
    cases second : Hex.digitValue? low.toNat with
    | none =>
      rw [second] at read
      cases read
    | some lower =>
      rw [second] at read
      simp only at read
      have second := digitValue?_eq_some_iff.mp second
      split at read
      · rename_i plus
        cases read
        exact plus ▸ .plus second
      · obtain ⟨upper, first, rfl⟩ := Option.map_eq_some_iff.mp read
        exact .digits (digitValue?_eq_some_iff.mp first) second
  · intro escape
    cases escape with
    | @digits high low upper lower first second =>
      have other : high ≠ '+' := by
        rintro rfl
        exact not_isHexDigit_plus upper first
      rw [digitValue?_eq_some_iff.mpr first, digitValue?_eq_some_iff.mpr second]
      simp only [if_neg other, Option.map_some]
    | plus second =>
      rw [digitValue?_eq_some_iff.mpr second]
      simp only [if_true]

/-! ## Parts -/

/-- Reading a part finds the bytes that it stands for. -/
theorem unescape?_eq_some_iff {part : List Char} {bytes : Bytes} :
    unescape? part = some bytes ↔ IsPart part bytes := by
  constructor
  · intro read
    fun_induction unescape? part generalizing bytes with
    | case1 =>
      cases read
      exact .nil
    | case2 high low rest none => cases read
    | case3 high low rest byte some ih =>
      obtain ⟨tail, later, rfl⟩ := Option.map_eq_some_iff.mp read
      exact .escape (escapeValue?_eq_some_iff.mp some) (ih later)
    | case4 => cases read
    | case5 char rest _ other ih =>
      obtain ⟨tail, later, rfl⟩ := Option.map_eq_some_iff.mp read
      exact .char other (ih later)
  · intro stands
    induction stands with
    | nil => rfl
    | escape head tail ih =>
      rw [unescape?, escapeValue?_eq_some_iff.mpr head, ih]
      rfl
    | char other tail ih =>
      rw [unescape?_cons_of_ne other, ih]
      rfl

theorem isWellFormed_iff {part : List Char} : IsWellFormed part ↔ unescape? part ≠ none := by
  rw [Option.ne_none_iff_exists']
  exact exists_congr fun bytes => unescape?_eq_some_iff.symm

theorem isWellFormed_nil : IsWellFormed [] := ⟨[], .nil⟩

/-- A part with a character in it stands for some byte. -/
theorem IsPart.ne_nil {part : List Char} {bytes : Bytes} (stands : IsPart part bytes)
    (filled : part ≠ []) : bytes ≠ [] := by
  cases stands with
  | nil => exact absurd rfl filled
  | escape head tail => exact List.cons_ne_nil _ _
  | @char char _ _ other tail =>
    intro none
    have positive := (Utf8.isChar_utf8EncodeChar char).length_pos
    rw [(List.append_eq_nil_iff.mp none).1] at positive
    exact absurd positive (Nat.lt_irrefl 0)

/-! ## The bytes of a part -/

/-- What follows a whole part begins with a character. -/
theorem startsInside_encoded (part : List Char) :
    startsInside (part.flatMap String.utf8EncodeChar) = false := by
  cases part with
  | nil => rfl
  | cons char rest =>
    rw [List.flatMap_cons]
    have whole := Utf8.isChar_utf8EncodeChar char
    generalize String.utf8EncodeChar char = bytes at whole
    apply Bool.eq_false_iff.mpr
    cases whole with
    | one lead =>
      intro inside
      have low := (Utf8.within_iff.mp inside).1
      exact absurd (UInt8.lt_iff_toNat_lt.mp lead) (Nat.not_lt.mpr low)
    | two lead second =>
      intro inside
      have high := (Utf8.within_iff.mp inside).2
      exact absurd (Nat.le_trans (Utf8.within_iff.mp lead).1 high) (by decide)
    | three second third =>
      intro inside
      have high := (Utf8.within_iff.mp inside).2
      exact absurd (Nat.le_trans (Utf8.secondOfThree_iff.mp second).1 high) (by decide)
    | four second third fourth =>
      intro inside
      have high := (Utf8.within_iff.mp inside).2
      exact absurd (Nat.le_trans (Utf8.secondOfFour_iff.mp second).1 high) (by decide)

/-- Characters beyond ASCII make no escape. -/
theorem escapeValue?_eq_none {high low : Char} (beyond : 128 ≤ high.toNat ∨ 128 ≤ low.toNat) :
    escapeValue? high low = none := by
  apply Option.eq_none_iff_forall_ne_some.mpr
  intro byte read
  have ascii {char : Char} {value : Nat} (digit : IsHexDigit char value) : char.toNat < 128 := by
    have member := Hex.mem_digits_of_digitValue? (digitValue?_eq_some_iff.mpr digit)
    rw [Char.ofNat_toNat] at member
    exact Hex.toNat_lt_of_mem_digits member
  cases escapeValue?_eq_some_iff.mp read with
  | digits first second =>
    have := ascii first
    have := ascii second
    omega
  | plus second =>
    have := ascii second
    have plus : ('+' : Char).toNat = 43 := rfl
    omega

theorem scan?_percent (high low : UInt8) (tail : Bytes) :
    scan? (37 :: high :: low :: tail) =
      if startsInside tail then none
      else
        match escapeValue? (Char.ofNat high.toNat) (Char.ofNat low.toNat) with
        | none => none
        | some value => (scan? tail).map (value :: ·) := by
  rw [scan?.eq_def]
  exact if_pos rfl

theorem scan?_cons_of_ne {byte : UInt8} (other : byte ≠ 37) (rest : Bytes) :
    scan? (byte :: rest) = (scan? rest).map (byte :: ·) := by
  rw [scan?.eq_def]
  exact if_neg other

/-- Bytes other than percent signs stand for themselves. -/
theorem scan?_append {front : Bytes} (plain : ∀ byte ∈ front, byte ≠ 37) (rest : Bytes) :
    scan? (front ++ rest) = (scan? rest).map (front ++ ·) := by
  induction front with
  | nil => simp
  | cons byte front ih =>
    obtain ⟨here, later⟩ := List.forall_mem_cons.mp plain
    rw [List.cons_append, scan?_cons_of_ne here, ih later, Option.map_map]
    rfl

theorem percent_notMem_encoded {char : Char} (other : char ≠ '%') :
    ∀ byte ∈ String.utf8EncodeChar char, byte ≠ 37 := by
  rintro byte member rfl
  rcases Utf8.utf8EncodeChar_cases char with
    ⟨code, single, whole⟩ | ⟨-, lead, second, rest, several, high⟩
  · rw [single, List.mem_singleton] at member
    rw [← member] at whole
    exact other whole.symm
  · rw [several] at member
    exact absurd (high _ member) (by decide)

/-- A percent sign before characters that make no escape is refused. -/
theorem scan?_percent_of_bad {high : Char} {rest : List Char}
    (bad : ∀ low tail, rest = low :: tail → escapeValue? high low = none) :
    scan? (37 :: (high :: rest).flatMap String.utf8EncodeChar) = none := by
  rw [List.flatMap_cons]
  rcases Utf8.utf8EncodeChar_cases high with
    ⟨code, single, whole⟩ | ⟨-, lead, second, others, several, beyond⟩
  · rw [single]
    cases rest with
    | nil => rfl
    | cons low tail =>
      have bad := bad low tail rfl
      rw [List.flatMap_cons]
      rcases Utf8.utf8EncodeChar_cases low with
        ⟨lowCode, lowSingle, lowWhole⟩ | ⟨-, lead, second, others, several, beyond⟩
      · rw [lowSingle, List.singleton_append, List.singleton_append, scan?_percent, whole, lowWhole,
          bad]
        exact ite_self _
      · -- The second byte is the lead of a longer character.
        have long : 128 ≤ (Char.ofNat lead.toNat).toNat :=
          (Utf8.toNat_ofNat_byte lead).symm ▸ beyond lead List.mem_cons_self
        rw [several, List.singleton_append, List.cons_append, scan?_percent,
          escapeValue?_eq_none (Or.inr long)]
        exact ite_self _
  · have long : 128 ≤ (Char.ofNat lead.toNat).toNat :=
      (Utf8.toNat_ofNat_byte lead).symm ▸ beyond lead List.mem_cons_self
    rw [several, List.cons_append, List.cons_append, scan?_percent,
      escapeValue?_eq_none (Or.inl long)]
    exact ite_self _

/-- Reading the UTF-8 bytes of a part is reading its characters. -/
theorem scan?_encoded (part : List Char) :
    scan? (part.flatMap String.utf8EncodeChar) = unescape? part := by
  have percent : String.utf8EncodeChar '%' = [37] := by decide
  fun_induction unescape? part with
  | case1 => rfl
  | case2 high low rest bad =>
    rw [List.flatMap_cons, percent, List.singleton_append]
    apply scan?_percent_of_bad
    rintro _ _ ⟨⟩
    exact bad
  | case3 high low rest byte good ih =>
    have ascii : high.toNat < 128 ∧ low.toNat < 128 := by
      by_contra beyond
      rw [escapeValue?_eq_none (by omega)] at good
      cases good
    rcases Utf8.utf8EncodeChar_cases high with ⟨code, single, whole⟩ | ⟨beyond, -⟩
    · rcases Utf8.utf8EncodeChar_cases low with ⟨lowCode, lowSingle, lowWhole⟩ | ⟨beyond, -⟩
      · rw [List.flatMap_cons, List.flatMap_cons, List.flatMap_cons, percent, single, lowSingle,
          List.singleton_append, List.singleton_append, List.singleton_append, scan?_percent,
          startsInside_encoded, whole, lowWhole, good, ← ih]
        rfl
      · exact absurd ascii.2 (Nat.not_lt.mpr beyond)
    · exact absurd ascii.1 (Nat.not_lt.mpr beyond)
  | case4 rest short =>
    rw [List.flatMap_cons, percent, List.singleton_append]
    cases rest with
    | nil => rfl
    | cons high rest =>
      apply scan?_percent_of_bad
      rintro low tail rfl
      exact (short high low tail rfl rfl).elim
  | case5 char rest _ other ih =>
    rw [List.flatMap_cons, scan?_append (percent_notMem_encoded other), ih]

/-! ## Texts -/

/-- The parts of a text are those of its splitting at the slashes. -/
theorem splitSlashes_eq_splitOn (chars : List Char) : splitSlashes chars = chars.splitOn '/' := by
  rw [List.splitOn_eq_splitOnP]
  induction chars with
  | nil => rfl
  | cons char rest ih =>
    rw [List.splitOnP_cons_eq_if_modifyHead, ← ih]
    change addChar char (splitSlashes rest) = _
    unfold addChar
    by_cases slash : char = '/'
    · rw [if_pos slash, if_pos (by simpa using slash)]
    · rw [if_neg slash, if_neg (by simpa using slash)]
      cases parts : splitSlashes rest with
      | nil => exact absurd (ih.symm.trans parts) (List.splitOnP_ne_nil _ _)
      | cons first others => rfl

theorem readParts_eq_ok_iff {parts : List (List Char)} {components : List Bytes} :
    readParts parts = .ok components ↔ List.Forall₂ IsPart parts components := by
  induction parts generalizing components with
  | nil =>
    rw [List.forall₂_nil_left_iff, readParts]
    exact ⟨fun read => (Except.ok.inj read).symm, fun none => none ▸ rfl⟩
  | cons part rest ih =>
    rw [readParts, List.forall₂_cons_left_iff]
    constructor
    · intro read
      cases first : unescape? part with
      | none =>
        rw [first] at read
        cases read
      | some component =>
        cases others : readParts rest with
        | error fault =>
          rw [first, others] at read
          cases read
        | ok tail =>
          rw [first, others] at read
          cases read
          exact ⟨component, tail, unescape?_eq_some_iff.mp first, ih.mp others, rfl⟩
    · rintro ⟨component, tail, first, others, rfl⟩
      rw [unescape?_eq_some_iff.mpr first, ih.mpr others]

/-- What is refused is the first part that is not well formed. -/
theorem readParts_eq_error_iff {parts : List (List Char)} {fault : Malformed} :
    readParts parts = .error fault ↔
      ∃ part, IsFirstFault parts part ∧ fault = .name (String.ofList part) := by
  induction parts with
  | nil =>
    constructor
    · intro read
      cases read
    · rintro ⟨part, first, -⟩
      cases first
  | cons part rest ih =>
    rw [readParts]
    cases first : unescape? part with
    | none =>
      have bad : ¬ IsWellFormed part := fun good => isWellFormed_iff.mp good first
      constructor
      · intro read
        exact ⟨part, .here bad, (Except.error.inj read).symm⟩
      · rintro ⟨refused, ⟨_⟩ | ⟨good, _⟩, rfl⟩
        · rfl
        · exact absurd good bad
    | some component =>
      have good : IsWellFormed part := ⟨component, unescape?_eq_some_iff.mp first⟩
      constructor
      · intro read
        cases others : readParts rest with
        | ok tail =>
          rw [others] at read
          cases read
        | error cause =>
          rw [others] at read
          cases read
          obtain ⟨refused, later, rfl⟩ := ih.mp others
          exact ⟨refused, .later good later, rfl⟩
      · rintro ⟨refused, ⟨bad⟩ | ⟨_, later⟩, rfl⟩
        · exact absurd good bad
        · rw [ih.mpr ⟨refused, later, rfl⟩]

theorem isFirstFault_cons_of_good {part fault : List Char} {rest : List (List Char)}
    (good : IsWellFormed part) : IsFirstFault (part :: rest) fault ↔ IsFirstFault rest fault := by
  constructor
  · rintro (⟨bad⟩ | ⟨-, later⟩)
    · exact absurd good bad
    · exact later
  · exact .later good

/-- Empty parts are well formed, so leaving them out does not change which fault is the first. -/
theorem isFirstFault_filter {parts : List (List Char)} {fault : List Char} :
    IsFirstFault (parts.filter fun part => !part.isEmpty) fault ↔ IsFirstFault parts fault := by
  induction parts with
  | nil => rfl
  | cons part rest ih =>
    by_cases good : IsWellFormed part
    · rw [isFirstFault_cons_of_good good, ← ih]
      cases part with
      | nil => rfl
      | cons char chars => exact isFirstFault_cons_of_good good
    · have filled : (!part.isEmpty) = true := by
        cases part with
        | nil => exact absurd isWellFormed_nil good
        | cons char chars => rfl
      rw [List.filter_cons, if_pos filled]
      constructor
      · rintro (_ | ⟨other, -⟩)
        · exact .here good
        · exact absurd other good
      · rintro (_ | ⟨other, -⟩)
        · exact .here good
        · exact absurd other good

theorem exists_forall₂_isPart {parts : List (List Char)} :
    (∃ components, List.Forall₂ IsPart parts components) ↔ ∀ part ∈ parts, IsWellFormed part := by
  induction parts with
  | nil => simp
  | cons part rest ih =>
    rw [List.forall_mem_cons, ← ih]
    constructor
    · rintro ⟨_, _ | ⟨first, others⟩⟩
      exact ⟨⟨_, first⟩, _, others⟩
    · rintro ⟨⟨component, first⟩, components, others⟩
      exact ⟨component :: components, .cons first others⟩

theorem parse_of_not_isRooted {text : String} (loose : ¬ IsRooted text) :
    parse text = .error (.name text) :=
  if_pos (not_or.mp loose)

/-- A text that is empty or begins with a slash is read part by part. -/
theorem parse_of_isRooted {text : String} (rooted : IsRooted text) :
    parse text = (readParts ((partsOf text).filter fun part => !part.isEmpty)).map Name.mk := by
  unfold parse
  simp only
  rw [if_neg (fun loose => not_or.mpr loose rooted), splitSlashes_eq_splitOn, ← partsOf]
  cases readParts ((partsOf text).filter fun part => !part.isEmpty) <;> rfl

theorem parse_eq_ok_iff {text : String} {name : Name} :
    parse text = .ok name ↔ IsRooted text ∧
      List.Forall₂ IsPart ((partsOf text).filter fun part => !part.isEmpty) name.components := by
  by_cases rooted : IsRooted text
  · rw [parse_of_isRooted rooted, and_iff_right rooted, ← readParts_eq_ok_iff]
    cases readParts ((partsOf text).filter fun part => !part.isEmpty) with
    | error fault =>
      constructor
      · intro read
        cases read
      · intro read
        cases read
    | ok components =>
      constructor
      · intro read
        cases read
        rfl
      · intro read
        cases name
        cases read
        rfl
  · rw [parse_of_not_isRooted rooted]
    constructor
    · intro read
      cases read
    · exact fun stands => absurd stands.1 rooted

theorem parse_eq_error_iff {text : String} {fault : Malformed} :
    parse text = .error fault ↔
      ¬ IsRooted text ∧ fault = .name text ∨
        IsRooted text ∧ ∃ part, IsFirstFault (partsOf text) part ∧
          fault = .name (String.ofList part) := by
  by_cases rooted : IsRooted text
  · simp only [rooted, not_true_eq_false, false_and, true_and, false_or]
    rw [parse_of_isRooted rooted]
    simp only [← @isFirstFault_filter (partsOf text)]
    rw [← readParts_eq_error_iff]
    cases readParts ((partsOf text).filter fun part => !part.isEmpty) with
    | error cause =>
      constructor
      · intro read
        cases read
        rfl
      · intro read
        cases read
        rfl
    | ok components =>
      constructor
      · intro read
        cases read
      · intro read
        cases read
  · rw [parse_of_not_isRooted rooted]
    simp only [rooted, not_false_eq_true, true_and, false_and, or_false]
    rw [Except.error.injEq, eq_comm]

/-- A text is read exactly if it is empty or begins with a slash and all its parts are well formed.
The components are then, in order, what the parts stand for that are not empty.  Otherwise the whole
text is refused if it does not begin with a slash, and else the first part that is not well formed.
Reading the UTF-8 bytes of a part with escapes of two bytes finds the same. -/
theorem parse_accepts_grammar (text : String) :
    ((∃ name, parse text = .ok name) ↔
        IsRooted text ∧ ∀ part ∈ partsOf text, IsWellFormed part) ∧
      (∀ name, parse text = .ok name ↔ IsRooted text ∧
        List.Forall₂ IsPart ((partsOf text).filter fun part => !part.isEmpty) name.components) ∧
      (∀ fault, parse text = .error fault ↔
        ¬ IsRooted text ∧ fault = .name text ∨
          IsRooted text ∧ ∃ part, IsFirstFault (partsOf text) part ∧
            fault = .name (String.ofList part)) ∧
      ∀ part bytes,
        scan? (part.flatMap String.utf8EncodeChar) = some bytes ↔ IsPart part bytes := by
  refine ⟨?_, fun name => parse_eq_ok_iff, fun fault => parse_eq_error_iff, ?_⟩
  · have kept : (∀ part ∈ (partsOf text).filter fun part => !part.isEmpty, IsWellFormed part) ↔
        ∀ part ∈ partsOf text, IsWellFormed part := by
      constructor
      · intro good part member
        cases part with
        | nil => exact isWellFormed_nil
        | cons char chars => exact good _ (List.mem_filter.mpr ⟨member, rfl⟩)
      · exact fun good part member => good part (List.mem_filter.mp member).1
    rw [← kept, ← exists_forall₂_isPart]
    constructor
    · rintro ⟨name, read⟩
      obtain ⟨rooted, stands⟩ := parse_eq_ok_iff.mp read
      exact ⟨rooted, name.components, stands⟩
    · rintro ⟨rooted, components, stands⟩
      exact ⟨⟨components⟩, parse_eq_ok_iff.mpr ⟨rooted, stands⟩⟩
  · intro part bytes
    rw [scan?_encoded, unescape?_eq_some_iff]

/-- The first bad part is refused, although a later one is bad too. -/
example : parse "/a%2F/%2/%zz" = .error (.name "%2") := by decide +kernel

/-! ## Reading and writing -/

theorem exists_part_of_mem {parts : List (List Char)} {components : List Bytes}
    (stands : List.Forall₂ IsPart parts components) {component : Bytes}
    (member : component ∈ components) : ∃ part ∈ parts, IsPart part component := by
  induction stands with
  | nil => cases member
  | @cons part first _ _ head tail ih =>
    rcases List.mem_cons.mp member with rfl | later
    · exact ⟨part, List.mem_cons_self, head⟩
    · obtain ⟨other, inside, stood⟩ := ih later
      exact ⟨other, List.mem_cons_of_mem _ inside, stood⟩

/-- A name that is read has no empty component. -/
theorem isProper_of_parse {text : String} {name : Name} (read : parse text = .ok name) :
    name.IsProper := by
  intro component member
  obtain ⟨part, inside, stood⟩ := exists_part_of_mem (parse_eq_ok_iff.mp read).2 member
  have filled := (List.mem_filter.mp inside).2
  exact stood.ne_nil (by simpa using filled)

/-- A name is read back from its written form without its empty components.  So exactly the names
without any are read back as they are, no two of them are written alike, every name that is read is
one of them, and is read back from what it is written as. -/
theorem text_round_trip :
    (∀ name : Name, parse name.render = .ok name.compact) ∧
      (∀ name : Name, parse name.render = .ok name ↔ name.IsProper) ∧
      Set.InjOn render {name | name.IsProper} ∧
      ∀ text name, parse text = .ok name → name.IsProper ∧ parse name.render = .ok name := by
  refine ⟨parse_render_eq_compact, ?_, ?_, ?_⟩
  · intro name
    exact ⟨isProper_of_parse, parse_render⟩
  · intro left here right there same
    exact render_injective here there same
  · intro text name read
    have proper := isProper_of_parse read
    exact ⟨proper, parse_render proper⟩

/-- A text with empty parts, an escaped slash, an escape with a plus sign and a character beyond
ASCII. -/
def busyText : String := "//a/%2f%+0é/"

/-- The name that the text stands for. -/
def busyName : Name := ⟨[[97], [47, 0, 195, 169]]⟩

/-- The text is read as the name, which is written differently and read back. -/
theorem text_round_trip_busy :
    parse busyText = .ok busyName ∧ busyName.render = "/a/%2F%00%C3%A9" ∧ busyName.IsProper ∧
      parse busyName.render = .ok busyName ∧
      ∀ name : Name, name.IsProper → name.render = busyName.render → name = busyName := by
  obtain ⟨-, -, injective, stable⟩ := text_round_trip
  have read : parse busyText = .ok busyName := by decide
  obtain ⟨proper, again⟩ := stable busyText busyName read
  exact ⟨read, by decide, proper, again, fun name here same => injective here proper same⟩

end Name

end DigestSync
