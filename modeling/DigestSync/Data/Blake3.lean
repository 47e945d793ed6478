import DigestSync.Data.Bytes

set_option autoImplicit false

/-! # BLAKE3

The 256-bit hash of a byte sequence.  The input is cut into chunks of 1024 bytes
and each chunk into blocks of 64.  Blocks are chained inside a chunk; chunks are
joined pairwise in a binary tree whose left part is as large a power of two as
leaves something to the right.  The last compression of the whole input carries
the root mark, and its first eight words are the hash.
-/

namespace DigestSync.Blake3

/-- A chaining value: eight words. -/
abbrev Chain := Vector UInt32 8

/-- A message block: sixteen words. -/
abbrev Block := Vector UInt32 16

/-- The initial chaining value. -/
def initial : Chain :=
  #v[0x6A09E667, 0xBB67AE85, 0x3C6EF372, 0xA54FF53A,
     0x510E527F, 0x9B05688C, 0x1F83D9AB, 0x5BE0CD19]

/-- Marks the first block of a chunk. -/
def chunkStart : UInt32 := 1

/-- Marks the last block of a chunk. -/
def chunkEnd : UInt32 := 2

/-- Marks the block that joins two subtrees. -/
def parentMark : UInt32 := 4

/-- Marks the compression that yields the hash. -/
def rootMark : UInt32 := 8

/-- Rotate a word to the right by a count between 1 and 31. -/
def rotate (word count : UInt32) : UInt32 := (word >>> count) ||| (word <<< (32 - count))

/-- Mix two message words into four words of the state. -/
def quarter (s : Vector UInt32 16) (a b c d : Fin 16) (x y : UInt32) : Vector UInt32 16 :=
  let va := s[a] + s[b] + x
  let vd := rotate (s[d] ^^^ va) 16
  let vc := s[c] + vd
  let vb := rotate (s[b] ^^^ vc) 12
  let va := va + vb + y
  let vd := rotate (vd ^^^ va) 8
  let vc := vc + vd
  let vb := rotate (vb ^^^ vc) 7
  (((s.set a va).set b vb).set c vc).set d vd

/-- One round: the columns of the state, then its diagonals. -/
def round (s : Vector UInt32 16) (m : Block) : Vector UInt32 16 :=
  let s := quarter s 0 4 8 12 m[0] m[1]
  let s := quarter s 1 5 9 13 m[2] m[3]
  let s := quarter s 2 6 10 14 m[4] m[5]
  let s := quarter s 3 7 11 15 m[6] m[7]
  let s := quarter s 0 5 10 15 m[8] m[9]
  let s := quarter s 1 6 11 12 m[10] m[11]
  let s := quarter s 2 7 8 13 m[12] m[13]
  quarter s 3 4 9 14 m[14] m[15]

/-- The order in which the next round takes the words of this one. -/
def permute (m : Block) : Block :=
  #v[m[2], m[6], m[3], m[10], m[7], m[0], m[4], m[13],
     m[1], m[11], m[12], m[5], m[9], m[14], m[15], m[8]]

/-- Apply `count` rounds, permuting the message between them. -/
def rounds : Nat → Vector UInt32 16 → Block → Vector UInt32 16
  | 0, s, _ => s
  | count + 1, s, m => rounds count (round s m) (permute m)

/-- The input of one compression, kept until it is known whether it is the last. -/
structure Compression where
  chain : Chain
  block : Block
  counter : Nat
  length : UInt32
  marks : UInt32

/-- The first half of a compression's output, under additional marks. -/
def Compression.run (input : Compression) (extra : UInt32) : Chain :=
  let h := input.chain
  let start : Vector UInt32 16 :=
    #v[h[0], h[1], h[2], h[3], h[4], h[5], h[6], h[7],
       initial[0], initial[1], initial[2], initial[3],
       UInt32.ofNat input.counter, UInt32.ofNat (input.counter / UInt32.size),
       input.length, input.marks ||| extra]
  let s := rounds 7 start input.block
  #v[s[0] ^^^ s[8], s[1] ^^^ s[9], s[2] ^^^ s[10], s[3] ^^^ s[11],
     s[4] ^^^ s[12], s[5] ^^^ s[13], s[6] ^^^ s[14], s[7] ^^^ s[15]]

/-- The little-endian word of up to four bytes; missing ones count as zero. -/
def word (bytes : Bytes) : UInt32 :=
  bytes.foldr (fun byte rest => rest * 256 + byte.toUInt32) 0

/-- The sixteen words of a block of at most 64 bytes, padded with zeros. -/
def blockWords (bytes : Bytes) : Block :=
  Vector.ofFn fun index : Fin 16 => word ((bytes.drop (4 * index.val)).take 4)

/-- Chain the blocks of one chunk; `left` bounds the number of blocks still to
come. -/
def chunkFrom (counter : Nat) : Nat → Chain → UInt32 → Bytes → Compression
  | 0, chain, marks, bytes =>
    ⟨chain, blockWords bytes, counter, UInt32.ofNat bytes.length, marks ||| chunkEnd⟩
  | left + 1, chain, marks, bytes =>
    match bytes.drop 64 with
    | [] => ⟨chain, blockWords bytes, counter, UInt32.ofNat bytes.length, marks ||| chunkEnd⟩
    | more =>
      let next := Compression.run ⟨chain, blockWords (bytes.take 64), counter, 64, marks⟩ 0
      chunkFrom counter left next 0 more

/-- The final compression of one chunk of at most 1024 bytes. -/
def chunk (counter : Nat) (bytes : Bytes) : Compression :=
  chunkFrom counter 15 initial chunkStart bytes

/-- The compression that joins two subtrees. -/
def join (left right : Chain) : Compression :=
  ⟨initial,
   #v[left[0], left[1], left[2], left[3], left[4], left[5], left[6], left[7],
      right[0], right[1], right[2], right[3], right[4], right[5], right[6], right[7]],
   0, 64, parentMark⟩

/-- Cut an input into chunks, the first of which has number `counter`; `left`
bounds the number of chunks still to come. -/
def chunks : Nat → Nat → Bytes → List Compression
  | 0, _, _ => []
  | left + 1, counter, bytes =>
    match bytes.drop 1024 with
    | [] => [chunk counter bytes]
    | more => chunk counter (bytes.take 1024) :: chunks left (counter + 1) more

/-- Join neighbours of one level; an odd one out is passed on unchanged.  As
every level pairs from the left, each left subtree is a full power of two. -/
def joinLevel : List Compression → List Compression
  | left :: right :: rest => join (left.run 0) (right.run 0) :: joinLevel rest
  | other => other

/-- Join levels until one compression is left; `height` bounds their number. -/
def root : Nat → List Compression → Compression
  | _, [] => chunk 0 []
  | _, [only] => only
  | 0, first :: _ => first
  | height + 1, level => root height (joinLevel level)

/-- The four bytes of a word, the least significant one first. -/
def wordBytes (word : UInt32) : Bytes := (Bytes.ofUInt32 word).reverse

/-- The 32 bytes of the hash. -/
def hash (bytes : Bytes) : Bytes :=
  let leaves := chunks (bytes.length / 1024 + 1) 0 bytes
  ((root leaves.length leaves).run rootMark).toList.flatMap wordBytes

/-- A hash has 32 bytes. -/
theorem length_hash (bytes : Bytes) : (hash bytes).length = 32 := by
  simp [hash, List.length_flatMap, wordBytes, Bytes.ofUInt32, List.map_const']

end DigestSync.Blake3
