import DigestSync.Name.Text
import DigestSync.Proofs.Data.Utf8
import Mathlib.Data.List.Basic

set_option autoImplicit false

/-! # Reading back written names

The escapes of a byte stand for it, so a component is read back from its written form,
which holds no slash.  Between the slashes of a written name stand its components, and
none of them is skipped unless it is empty.  A name is therefore read back without its
empty components, and names without any are told apart by their written forms.
-/

namespace DigestSync

namespace Hex

theorem digitValue?_upperDigit : ∀ value < 16, digitValue? (upperDigit value).toNat = some value := by
  decide

theorem upperDigit_ne : ∀ value < 16, upperDigit value ≠ '+' ∧ upperDigit value ≠ '/' := by
  decide

end Hex

namespace Name

/-! ## Bytes and components -/

/-- A byte that stands for itself does so as a character that is neither a slash nor a
percent sign. -/
theorem plain_char {byte : UInt8} (plain : isPlain byte = true) :
    Char.ofNat byte.toNat ≠ '%' ∧ Char.ofNat byte.toNat ≠ '/' ∧
      String.utf8EncodeChar (Char.ofNat byte.toNat) = [byte] := by
  have codes : byte.toNat ≠ 37 ∧ byte.toNat ≠ 47 ∧ byte.toNat < 128 := by
    simp only [isPlain, Bool.or_eq_true, Bool.and_eq_true, decide_eq_true_eq, beq_iff_eq,
      UInt8.le_iff_toNat_le, ← UInt8.toNat_inj, UInt8.reduceToNat] at plain
    omega
  have code := Utf8.toNat_ofNat_byte byte
  obtain ⟨percent, slash, ascii⟩ := codes
  refine ⟨fun same => percent ?_, fun same => slash ?_, ?_⟩
  · exact code.symm.trans (congrArg Char.toNat same)
  · exact code.symm.trans (congrArg Char.toNat same)
  · rw [Utf8.utf8EncodeChar_of_ascii (code.symm ▸ ascii), code, UInt8.ofNat_toNat]

theorem escapeValue?_upperDigit (byte : UInt8) :
    escapeValue? (Hex.upperDigit (byte.toNat / 16)) (Hex.upperDigit (byte.toNat % 16)) =
      some byte := by
  have bound : byte.toNat < 256 := byte.toNat_lt
  have high : byte.toNat / 16 < 16 := by omega
  have low : byte.toNat % 16 < 16 := by omega
  have whole : 16 * (byte.toNat / 16) + byte.toNat % 16 = byte.toNat := by omega
  unfold escapeValue?
  rw [Hex.digitValue?_upperDigit _ low, Hex.digitValue?_upperDigit _ high]
  simp only [(Hex.upperDigit_ne _ high).1, if_false, Option.map_some, whole, UInt8.ofNat_toNat]

theorem unescape?_cons_of_ne {char : Char} (other : char ≠ '%') (rest : List Char) :
    unescape? (char :: rest) = (unescape? rest).map (String.utf8EncodeChar char ++ ·) := by
  rw [unescape?.eq_3 _ _ (fun _ _ _ same _ => other same), if_neg other]

theorem unescape?_escapeByte (byte : UInt8) (rest : List Char) :
    unescape? (escapeByte byte ++ rest) = (unescape? rest).map (byte :: ·) := by
  unfold escapeByte
  split
  · rename_i plain
    obtain ⟨percent, -, code⟩ := plain_char plain
    rw [List.singleton_append, unescape?_cons_of_ne percent, code]
    rfl
  · rw [List.cons_append, List.cons_append, List.cons_append, List.nil_append, unescape?,
      escapeValue?_upperDigit]

/-- A component is read back from its written form. -/
theorem unescape?_flatMap_escapeByte (component : Bytes) :
    unescape? (component.flatMap escapeByte) = some component := by
  induction component with
  | nil => rfl
  | cons byte rest ih =>
    rw [List.flatMap_cons, unescape?_escapeByte, ih]
    rfl

theorem slash_notMem_escapeByte (byte : UInt8) : '/' ∉ escapeByte byte := by
  unfold escapeByte
  split
  · rename_i plain
    simpa using (plain_char plain).2.1.symm
  · have bound : byte.toNat < 256 := byte.toNat_lt
    have high := (Hex.upperDigit_ne (byte.toNat / 16) (by omega)).2
    have low := (Hex.upperDigit_ne (byte.toNat % 16) (by omega)).2
    simp [high.symm, low.symm]

theorem slash_notMem_escaped (component : Bytes) : '/' ∉ component.flatMap escapeByte := by
  intro member
  obtain ⟨byte, -, inside⟩ := List.mem_flatMap.mp member
  exact slash_notMem_escapeByte byte inside

theorem escaped_ne_nil {component : Bytes} (filled : component ≠ []) :
    component.flatMap escapeByte ≠ [] := by
  intro none
  have read := unescape?_flatMap_escapeByte component
  rw [none] at read
  exact filled (Option.some.inj read).symm

/-! ## Parts -/

/-- Characters other than slashes lengthen the first part. -/
theorem foldr_addChar {chars : List Char} (plain : '/' ∉ chars) (first : List Char)
    (others : List (List Char)) :
    chars.foldr addChar (first :: others) = (chars ++ first) :: others := by
  induction chars with
  | nil => rfl
  | cons char rest ih =>
    obtain ⟨here, later⟩ := not_or.mp (mt List.mem_cons.mpr plain)
    rw [List.foldr_cons, ih later, addChar, if_neg (Ne.symm here)]
    rfl

/-- Between the slashes of a written name stand its written components. -/
theorem splitSlashes_flatMap_escapeComponent (components : List Bytes) :
    splitSlashes (components.flatMap escapeComponent) =
      [] :: components.map (List.flatMap escapeByte) := by
  unfold splitSlashes
  induction components with
  | nil => rfl
  | cons component rest ih =>
    rw [List.flatMap_cons, List.foldr_append, ih, escapeComponent, List.foldr_cons,
      foldr_addChar (slash_notMem_escaped component), List.append_nil, addChar, if_pos rfl]
    rfl

theorem readParts_escaped (components : List Bytes) :
    readParts (components.map (List.flatMap escapeByte)) = .ok components := by
  induction components with
  | nil => rfl
  | cons component rest ih =>
    rw [List.map_cons, readParts, unescape?_flatMap_escapeByte]
    simp only [ih]

/-! ## Names -/

/-- No component of the name is empty. -/
def IsProper (name : Name) : Prop := ∀ component ∈ name.components, component ≠ []

instance (name : Name) : Decidable name.IsProper :=
  inferInstanceAs (Decidable (∀ component ∈ name.components, component ≠ []))

theorem head?_renderChars (name : Name) : name.renderChars.head? = some '/' := by
  unfold renderChars
  split
  · rfl
  · rename_i components filled
    obtain ⟨first, rest, cons⟩ := List.exists_cons_of_ne_nil filled
    rw [cons, List.flatMap_cons]
    rfl

/-- The name without its empty components. -/
def compact (name : Name) : Name := ⟨name.components.filter fun component => !component.isEmpty⟩

theorem compact_of_isProper {name : Name} (proper : name.IsProper) : name.compact = name := by
  refine congrArg Name.mk (List.filter_eq_self.mpr fun component member => ?_)
  simpa using proper component member

theorem isEmpty_escaped (component : Bytes) :
    (component.flatMap escapeByte).isEmpty = component.isEmpty := by
  cases component with
  | nil => rfl
  | cons byte rest =>
    have filled := escaped_ne_nil (List.cons_ne_nil byte rest)
    rw [List.isEmpty_eq_false_iff.mpr filled, List.isEmpty_cons]

/-- The parts of a written name that are not empty. -/
theorem filter_splitSlashes_renderChars (name : Name) :
    ((splitSlashes name.renderChars).filter fun part => !part.isEmpty) =
      name.compact.components.map (List.flatMap escapeByte) := by
  unfold renderChars
  split
  · rename_i bare
    rw [compact, bare]
    rfl
  · rw [splitSlashes_flatMap_escapeComponent, List.filter_cons_of_neg (by simp), List.filter_map]
    refine congrArg _ (List.filter_congr fun component _ => ?_)
    rw [Function.comp_apply, isEmpty_escaped]

/-- A name is read back from its written form without its empty components. -/
theorem parse_render_eq_compact (name : Name) : parse name.render = .ok name.compact := by
  unfold parse render
  simp only [String.toList_ofList]
  rw [if_neg (by simp [head?_renderChars]), filter_splitSlashes_renderChars, readParts_escaped]

/-- A name without empty components is read back from its written form. -/
theorem parse_render {name : Name} (proper : name.IsProper) : parse name.render = .ok name := by
  rw [parse_render_eq_compact, compact_of_isProper proper]

theorem render_injective {left right : Name} (here : left.IsProper) (there : right.IsProper)
    (same : left.render = right.render) : left = right := by
  have read : parse left.render = parse right.render := congrArg parse same
  rw [parse_render here, parse_render there] at read
  exact Except.ok.inj read

end Name

namespace DeviceId

/-- The device has a name, none of whose components is empty. -/
def IsProper (device : DeviceId) : Prop := device.name.IsProper ∧ device.name.components ≠ []

instance (device : DeviceId) : Decidable device.IsProper :=
  inferInstanceAs (Decidable (device.name.IsProper ∧ device.name.components ≠ []))

/-- The device whose name lacks the empty components. -/
def compact (device : DeviceId) : DeviceId := ⟨device.name.compact⟩

/-- The name of the device has a component that is not empty. -/
def IsNamed (device : DeviceId) : Prop := device.compact.name.components ≠ []

instance (device : DeviceId) : Decidable device.IsNamed :=
  inferInstanceAs (Decidable (device.compact.name.components ≠ []))

theorem compact_of_isProper {device : DeviceId} (proper : device.IsProper) :
    device.compact = device := congrArg mk (Name.compact_of_isProper proper.1)

theorem IsProper.isNamed {device : DeviceId} (proper : device.IsProper) : device.IsNamed := by
  rw [IsNamed, compact_of_isProper proper]
  exact proper.2

theorem parse_render_of_isNamed {device : DeviceId} (named : device.IsNamed) :
    parse device.render = .ok device.compact := by
  unfold parse render
  rw [Name.parse_render_eq_compact]
  have filled : device.name.compact.isEmpty = false := by
    simpa [Name.isEmpty, IsNamed, compact] using named
  simp only [filled, Bool.false_eq_true, if_false]
  rfl

/-- A device without any component but empty ones is not read back. -/
theorem parse_render_of_not_isNamed {device : DeviceId} (nameless : ¬ device.IsNamed) :
    parse device.render = .error (.name "device identity cannot be empty") := by
  unfold parse render
  rw [Name.parse_render_eq_compact]
  have bare : device.name.compact.isEmpty = true := by
    simpa [IsNamed, compact, Name.isEmpty] using nameless
  simp only [bare, if_true]

theorem parse_render {device : DeviceId} (proper : device.IsProper) :
    parse device.render = .ok device := by
  rw [parse_render_of_isNamed proper.isNamed, compact_of_isProper proper]

theorem render_injective {left right : DeviceId} (here : left.IsProper) (there : right.IsProper)
    (same : left.render = right.render) : left = right := by
  cases left
  cases right
  exact congrArg mk (Name.render_injective here.1 there.1 same)

end DeviceId

end DigestSync
