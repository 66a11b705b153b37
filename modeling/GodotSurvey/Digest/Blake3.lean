import GodotSurvey.Text.Number

/-!
# BLAKE3

The 256-bit hash of a text. The text is cut into chunks of 1024 bytes, each chunk into blocks of 64
bytes; the chaining values of the chunks are joined in pairs to a tree whose left side is as large
as a power of two allows.
-/

namespace GodotSurvey.Blake3

/-- The initial words. -/
def iv : Array UInt32 :=
  #[0x6A09E667, 0xBB67AE85, 0x3C6EF372, 0xA54FF53A, 0x510E527F, 0x9B05688C, 0x1F83D9AB, 0x5BE0CD19]

/-- Where the words of a block go between rounds. -/
def permutation : List Nat := [2, 6, 3, 10, 7, 0, 4, 13, 1, 11, 12, 5, 9, 14, 15, 8]

def chunkStart : UInt32 := 1
def chunkEnd : UInt32 := 2
def parentNode : UInt32 := 4
def rootNode : UInt32 := 8

/-- Rotation to the right by `n` bits, where `0 < n < 32`. -/
def rotateRight (x n : UInt32) : UInt32 := (x >>> n) ||| (x <<< (32 - n))

/-- Mixes two message words into four words of the state. -/
def mix (s : Array UInt32) (a b c d : Nat) (x y : UInt32) : Array UInt32 :=
  let va := s.getD a 0 + s.getD b 0 + x
  let vd := rotateRight (s.getD d 0 ^^^ va) 16
  let vc := s.getD c 0 + vd
  let vb := rotateRight (s.getD b 0 ^^^ vc) 12
  let va := va + vb + y
  let vd := rotateRight (vd ^^^ va) 8
  let vc := vc + vd
  let vb := rotateRight (vb ^^^ vc) 7
  (((s.setIfInBounds a va).setIfInBounds b vb).setIfInBounds c vc).setIfInBounds d vd

/-- The columns and diagonals of the state. -/
def lanes : List (Nat × Nat × Nat × Nat) :=
  [(0, 4, 8, 12), (1, 5, 9, 13), (2, 6, 10, 14), (3, 7, 11, 15),
    (0, 5, 10, 15), (1, 6, 11, 12), (2, 7, 8, 13), (3, 4, 9, 14)]

/-- One round: columns, then diagonals. -/
def round (s m : Array UInt32) : Array UInt32 :=
  (lanes.zip (List.range 8)).foldl
    (fun s ((a, b, c, d), i) => mix s a b c d (m.getD (2 * i) 0) (m.getD (2 * i + 1) 0)) s

def permute (m : Array UInt32) : Array UInt32 := (permutation.map (m.getD · 0)).toArray

/-- Rounds with the message words permuted in between. -/
def rounds : (n : Nat) → Array UInt32 → Array UInt32 → Array UInt32
  | 0, s, _ => s
  | n + 1, s, m => rounds n (round s m) (permute m)

/-- The input of one compression. -/
structure Block where
  chaining : Array UInt32
  words : Array UInt32
  counter : UInt64
  length : UInt32
  flags : UInt32

/-- The chaining value that a block gives. -/
def Block.compress (b : Block) : Array UInt32 :=
  let s := b.chaining ++ iv.extract 0 4
    ++ #[b.counter.toUInt32, (b.counter >>> 32).toUInt32, b.length, b.flags]
  let s := rounds 7 s b.words
  ((List.range 8).map fun i => s.getD i 0 ^^^ s.getD (i + 8) 0).toArray

/-- The number of four bytes, the least significant first. -/
def littleEndian (bytes : List UInt8) : UInt32 :=
  bytes.foldr (fun b n => (n <<< 8) ||| b.toUInt32) 0

/-- The words of a text of at most 64 bytes, filled up with zeros. -/
def blockWords (s : Text) : Array UInt32 :=
  ((List.range 16).map fun i => littleEndian ((s.drop (4 * i)).take 4)).toArray

/-- The blocks of a chunk; an empty chunk has one empty block. -/
def splitEvery (size : Nat) : (fuel : Nat) → Text → List Text
  | 0, s => [s]
  | fuel + 1, s => if s.length ≤ size then [s] else s.take size :: splitEvery size fuel (s.drop size)

/-- Compresses all blocks of a chunk but the last, which is left to be finished. -/
def chunkBlock (counter : UInt64) : (first : Bool) → Array UInt32 → List Text → Block
  | _, cv, [] => ⟨cv, blockWords [], counter, 0, chunkStart ||| chunkEnd⟩
  | first, cv, [s] =>
    ⟨cv, blockWords s, counter, s.length.toUInt32, (if first then chunkStart else 0) ||| chunkEnd⟩
  | first, cv, s :: rest =>
    let b : Block := ⟨cv, blockWords s, counter, 64, if first then chunkStart else 0⟩
    chunkBlock counter false b.compress rest

/-- The last block of a chunk of at most 1024 bytes. -/
def chunk (counter : UInt64) (s : Text) : Block :=
  chunkBlock counter true iv (splitEvery 64 16 s)

/-- The block that joins two subtrees. -/
def parent (left right : Array UInt32) : Block := ⟨iv, left ++ right, 0, 64, parentNode⟩

/-- The number of chunks in the left subtree of `n` chunks: the largest power of two below `n`. -/
def leftSize (n : Nat) : Nat := Nat.pow 2 (n - 1).log2

/-- The last block of the tree over chunks numbered from `counter`. -/
def tree : (fuel : Nat) → (counter : Nat) → List Text → Block
  | 0, counter, cs => chunk counter.toUInt64 (cs.headD [])
  | fuel + 1, counter, cs =>
    if cs.length ≤ 1 then chunk counter.toUInt64 (cs.headD [])
    else
      let n := leftSize cs.length
      parent (tree fuel counter (cs.take n)).compress (tree fuel (counter + n) (cs.drop n)).compress

/-- The bytes of a word, the least significant first. -/
def wordBytes (w : UInt32) : Text :=
  [w.toUInt8, (w >>> 8).toUInt8, (w >>> 16).toUInt8, (w >>> 24).toUInt8]

/-- The hash of a text: 32 bytes. -/
def hash (s : Text) : Text :=
  let root := tree 64 0 (splitEvery 1024 (s.length / 1024 + 1) s)
  ({ root with flags := root.flags ||| rootNode }.compress).toList.flatMap wordBytes

/-- The hash as 64 hexadecimal digits. -/
def hex (s : Text) : Text := (hash s).flatMap Text.hexOfByte

end GodotSurvey.Blake3
