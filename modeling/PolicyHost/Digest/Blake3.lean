import PolicyHost.Number.Power

/-!
# The BLAKE3 hash

The hash of bytes as a tree: chunks of 1024 bytes at the leaves, each a chain
of blocks of 64 bytes, and nodes that compress the values of their two
subtrees. The left subtree of a node is the largest full one that leaves
something for the right. The last compression of the root is marked and
gives the digest.
-/

namespace PolicyHost.Digest

/-- The eight words that a chain starts from. -/
def initial : Array UInt32 :=
  #[0x6A09E667, 0xBB67AE85, 0x3C6EF372, 0xA54FF53A, 0x510E527F, 0x9B05688C, 0x1F83D9AB, 0x5BE0CD19]

/-- Where each word of a block goes from one round to the next. -/
def permutation : Array Nat :=
  #[2, 6, 3, 10, 7, 0, 4, 13, 1, 11, 12, 5, 9, 14, 15, 8]

/-- Marks of a compression: the first and the last block of a chunk, a node
above the chunks, and the root. -/
def chunkStart : UInt32 := 1
@[inherit_doc chunkStart] def chunkEnd : UInt32 := 2
@[inherit_doc chunkStart] def parent : UInt32 := 4
@[inherit_doc chunkStart] def root : UInt32 := 8

def rotate (x : UInt32) (n : UInt32) : UInt32 :=
  (x >>> n) ||| (x <<< (32 - n))

/-- Mixes two words of a block into four words of the state. -/
def quarter (s : Array UInt32) (a b c d : Nat) (x y : UInt32) : Array UInt32 :=
  let va := s.getD a 0 + s.getD b 0 + x
  let vd := rotate (s.getD d 0 ^^^ va) 16
  let vc := s.getD c 0 + vd
  let vb := rotate (s.getD b 0 ^^^ vc) 12
  let va := va + vb + y
  let vd := rotate (vd ^^^ va) 8
  let vc := vc + vd
  let vb := rotate (vb ^^^ vc) 7
  (((s.setIfInBounds a va).setIfInBounds b vb).setIfInBounds c vc).setIfInBounds d vd

/-- The columns and then the diagonals of the state, four words each. -/
def lanes : List (Nat × Nat × Nat × Nat) :=
  [(0, 4, 8, 12), (1, 5, 9, 13), (2, 6, 10, 14), (3, 7, 11, 15),
   (0, 5, 10, 15), (1, 6, 11, 12), (2, 7, 8, 13), (3, 4, 9, 14)]

/-- One round: every lane takes the next two words of the block. -/
def round (s m : Array UInt32) : Array UInt32 :=
  lanes.zipIdx.foldl (fun s ((a, b, c, d), i) =>
    quarter s a b c d (m.getD (2 * i) 0) (m.getD (2 * i + 1) 0)) s

/-- The remaining rounds, the block permuted before each. -/
def rounds : Nat → (s m : Array UInt32) → Array UInt32
  | 0, s, _ => s
  | n + 1, s, m =>
      let m := permutation.map (m.getD · 0)
      rounds n (round s m) m

/-- Compresses a block of 16 words into a chain of eight. -/
def compress (chain block : Array UInt32) (counter : Nat) (length : Nat) (marks : UInt32) :
    Array UInt32 :=
  let s := chain ++ initial.take 4 ++
    #[counter.toUInt32, (counter / 2 ^ 32).toUInt32, length.toUInt32, marks]
  let s := rounds 6 (round s block) block
  (Array.range 8).map fun i => s.getD i 0 ^^^ s.getD (i + 8) 0

/-- The word at an index of a block, whose bytes come lowest first; missing
bytes are zero. -/
def word (block : List UInt8) (i : Nat) : UInt32 :=
  ((block.drop (4 * i)).take 4).foldr (fun b w => (w <<< 8) ||| b.toUInt32) 0

def blockWords (block : List UInt8) : Array UInt32 :=
  (Array.range 16).map (word block)

/-- A node of the tree whose last compression is still to be done. -/
structure Output where
  chain : Array UInt32
  block : Array UInt32
  counter : Nat
  length : Nat
  marks : UInt32

def Output.value (o : Output) : Array UInt32 :=
  compress o.chain o.block o.counter o.length o.marks

/-- The rest of a chunk, block by block. -/
def chunkRest (counter : Nat) : (blocks : Nat) → (chain : Array UInt32) → (bytes : List UInt8) →
    (marks : UInt32) → Output
  | 0, chain, bytes, marks => ⟨chain, blockWords bytes, counter, bytes.length, marks ||| chunkEnd⟩
  | blocks + 1, chain, bytes, marks =>
      if bytes.length ≤ 64 then
        ⟨chain, blockWords bytes, counter, bytes.length, marks ||| chunkEnd⟩
      else
        let chain := compress chain (blockWords (bytes.take 64)) counter 64 marks
        chunkRest counter blocks chain (bytes.drop 64) 0

/-- The node of a chunk of at most 1024 bytes. -/
def chunk (counter : Nat) (bytes : List UInt8) : Output :=
  chunkRest counter 15 initial bytes chunkStart

/-- The number of chunks on the left of a node over `n` chunks, at least two:
the greatest power of two below `n`. -/
def leftChunks (n : Nat) : Nat :=
  2 ^ (n - 1).log2

/-- The node over bytes whose chunks are counted from `counter`; `height`
bounds the height of the tree. -/
def tree : (height : Nat) → (counter : Nat) → (bytes : List UInt8) → Output
  | 0, counter, bytes => chunk counter bytes
  | height + 1, counter, bytes =>
      let n := (bytes.length + 1023) / 1024
      if n ≤ 1 then chunk counter bytes
      else
        let left := leftChunks n
        let l := (tree height counter (bytes.take (1024 * left))).value
        let r := (tree height (counter + left) (bytes.drop (1024 * left))).value
        ⟨initial, l ++ r, 0, 64, parent⟩

def blake3 (bytes : List UInt8) : List UInt8 :=
  let top := tree (bytes.length.log2 + 1) 0 bytes
  let last : Output := { top with marks := top.marks ||| root }
  last.value.toList.flatMap fun (w : UInt32) =>
    [w.toUInt8, (w >>> 8).toUInt8, (w >>> 16).toUInt8, (w >>> 24).toUInt8]

end PolicyHost.Digest
