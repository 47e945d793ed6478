import DigestSync.Cbor.Value

set_option autoImplicit false

/-! # Items and their variants

Which bytes are an item of definite length, whoever wrote them: the argument of a head need
not be written in the shortest way, and the entries of a map come in any order.  A map that
holds some fields may hold other entries besides, and lack fields that say nothing, and
still tells the same; it is then a variant of the map of these fields.
-/

namespace DigestSync.Cbor

/-! ## Items -/

/-- The bytes are a head of a major type with an argument, which stands in the first byte or
in one, two, four or eight bytes behind it. -/
inductive IsHead (major : UInt8) (argument : Nat) : Bytes → Prop where
  | short (tiny : argument < 24) : IsHead major argument [major * 32 + UInt8.ofNat argument]
  | wide {low : UInt8} {digits : Bytes}
      (announced : (low, digits.length) ∈ [((24 : UInt8), 1), (25, 2), (26, 4), (27, 8)])
      (spelled : digits.toNatBE = argument) :
      IsHead major argument ((major * 32 + low) :: digits)

/-- The bytes are one item of definite length, in which at most `depth` containers are
nested: a number, a string, a truth value, null, or an array or map of items. -/
inductive IsItem : Nat → Bytes → Prop where
  | unsigned {depth value : Nat} {head : Bytes} (written : IsHead 0 value head) :
      IsItem depth head
  | bytes {depth : Nat} {head content : Bytes} (counted : IsHead 2 content.length head) :
      IsItem depth (head ++ content)
  | text {depth : Nat} {head : Bytes} {content : String}
      (counted : IsHead 3 (Bytes.ofText content).length head) :
      IsItem depth (head ++ Bytes.ofText content)
  | bool {depth : Nat} (content : Bool) : IsItem depth (Value.bool content).encode
  | null {depth : Nat} : IsItem depth Value.null.encode
  | array {depth : Nat} {head : Bytes} {items : List Bytes} (counted : IsHead 4 items.length head)
      (inside : ∀ item ∈ items, IsItem depth item) : IsItem (depth + 1) (head ++ items.flatten)
  | map {depth : Nat} {head : Bytes} {entries : List (Bytes × Bytes)}
      (counted : IsHead 5 entries.length head) (keys : ∀ entry ∈ entries, IsItem depth entry.1)
      (values : ∀ entry ∈ entries, IsItem depth entry.2) :
      IsItem (depth + 1) (head ++ entries.flatMap fun entry => entry.1 ++ entry.2)

/-! ## Maps of fields -/

/-- An entry of a map whose keys are texts: a key with its head, and the bytes of the value. -/
structure Entry where
  head : Bytes
  key : String
  value : Bytes
deriving DecidableEq, Repr

namespace Entry

/-- The entry of a field. -/
def ofField (field : String × Bytes) : Entry :=
  ⟨Value.countHead 3 (Bytes.ofText field.1).length, field.1, field.2⟩

/-- The bytes of an entry. -/
def bytes (entry : Entry) : Bytes := entry.head ++ Bytes.ofText entry.key ++ entry.value

/-- The entry is none of the named fields: its key is another text, of at most 4096 bytes, and
its value is any item. -/
structure IsExtra (depth : Nat) (names : List String) (entry : Entry) : Prop where
  counted : IsHead 3 (Bytes.ofText entry.key).length entry.head
  short : (Bytes.ofText entry.key).length ≤ 4096
  other : entry.key ∉ names
  item : IsItem depth entry.value

end Entry

/-- The bytes are a map of fields, each given with the bytes of its value, in any order; those
that are `idle` may be left out, and there may be extra entries anywhere among them. -/
inductive IsVariant (depth : Nat) (idle : List String) (fields : List (String × Bytes)) :
    Bytes → Prop where
  | intro {kept : List (String × Bytes)} {extra entries : List Entry} {head : Bytes}
      (chosen : kept.Sublist fields) (dropped : ∀ field ∈ fields, field ∉ kept → field.1 ∈ idle)
      (foreign : ∀ entry ∈ extra, entry.IsExtra depth (fields.map Prod.fst))
      (order : entries.Perm (kept.map Entry.ofField ++ extra))
      (counted : IsHead 5 entries.length head) :
      IsVariant depth idle fields (head ++ entries.flatMap Entry.bytes)

end DigestSync.Cbor
