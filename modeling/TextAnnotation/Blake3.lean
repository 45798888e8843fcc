import TextAnnotation.Text.Hex

/-!
# The BLAKE3 digest

The message is cut into chunks of 1024 bytes and each chunk into blocks of 64. A chunk is a chain of
compressions, one a block; the chunks are the leaves of a binary tree in which a parent compresses the
values of its two children. Neighbours are paired level by level, and a node without a partner moves up
unchanged, so every left subtree is full. The node on top is compressed once more with a flag of its own.

* `digest`: the 32 bytes of the digest.
* `shortHex`: the first eight of them in hexadecimal.
-/

namespace TextAnnotation.Blake3

/-- Eight words: a chaining value, or a key. -/
abbrev Chain := Vector UInt32 8

/-- Sixteen words: a block of the message, or the state of a compression. -/
abbrev Block := Vector UInt32 16

def initial : Chain :=
  #v[0x6A09E667, 0xBB67AE85, 0x3C6EF372, 0xA54FF53A, 0x510E527F, 0x9B05688C, 0x1F83D9AB, 0x5BE0CD19]

/-- How the words of a block are reordered from one round to the next. -/
def schedule : Vector (Fin 16) 16 :=
  #v[2, 6, 3, 10, 7, 0, 4, 13, 1, 11, 12, 5, 9, 14, 15, 8]

def chunkStart : UInt32 := 1
def chunkEnd : UInt32 := 2
def parentFlag : UInt32 := 4
def rootFlag : UInt32 := 8

def rotate (x n : UInt32) : UInt32 :=
  (x >>> n) ||| (x <<< (32 - n))

/-! ## Compression -/

/-- Mixes two words of the message into four words of the state. -/
def mix (s : Block) (a b c d : Fin 16) (x y : UInt32) : Block :=
  let s := s.set a (s[a] + s[b] + x)
  let s := s.set d (rotate (s[d] ^^^ s[a]) 16)
  let s := s.set c (s[c] + s[d])
  let s := s.set b (rotate (s[b] ^^^ s[c]) 12)
  let s := s.set a (s[a] + s[b] + y)
  let s := s.set d (rotate (s[d] ^^^ s[a]) 8)
  let s := s.set c (s[c] + s[d])
  s.set b (rotate (s[b] ^^^ s[c]) 7)

/-- One round: the four columns of the state, then its four diagonals. -/
def round (s m : Block) : Block :=
  let s := mix s 0 4 8 12 m[0] m[1]
  let s := mix s 1 5 9 13 m[2] m[3]
  let s := mix s 2 6 10 14 m[4] m[5]
  let s := mix s 3 7 11 15 m[6] m[7]
  let s := mix s 0 5 10 15 m[8] m[9]
  let s := mix s 1 6 11 12 m[10] m[11]
  let s := mix s 2 7 8 13 m[12] m[13]
  mix s 3 4 9 14 m[14] m[15]

/-- Runs a number of rounds, reordering the message in between. -/
def rounds : Nat → Block → Block → Block
  | 0, s, _ => s
  | n + 1, s, m => rounds n (round s m) (schedule.map fun i => m[i])

/-- A compression that is still to be done: whether it is the one on top is not known yet. -/
structure Node where
  chain : Chain
  block : Block
  counter : UInt64
  length : UInt32
  flags : UInt32

/-- The chaining value of a node: the two halves of the state after seven rounds, combined. -/
def Node.compress (n : Node) : Chain :=
  let h := n.chain
  let s : Block := #v[h[0], h[1], h[2], h[3], h[4], h[5], h[6], h[7],
    initial[0], initial[1], initial[2], initial[3],
    n.counter.toUInt32, (n.counter >>> 32).toUInt32, n.length, n.flags]
  let s := rounds 7 s n.block
  Vector.ofFn fun i : Fin 8 => s[i.val] ^^^ s[i.val + 8]

/-! ## Chunks -/

/-- The word of four bytes at an index, least significant byte first; zero behind the end. -/
def wordAt (bytes : ByteArray) (i : Nat) : UInt32 :=
  let byte (k : Nat) : UInt32 := (bytes[i + k]?.getD 0).toUInt32
  byte 0 ||| (byte 1 <<< 8) ||| (byte 2 <<< 16) ||| (byte 3 <<< 24)

/-- The block at an index of which `length` bytes belong to the message. -/
def blockAt (bytes : ByteArray) (start length : Nat) : Block :=
  let part := bytes.extract start (start + length)
  Vector.ofFn fun i : Fin 16 => wordAt part (4 * i.val)

/-- The blocks of a chunk from `start` on, of which `left` bytes remain. All but the last are compressed
into the chaining value. -/
def chunkFrom (bytes : ByteArray) (counter : UInt64) (chain : Chain) (flags : UInt32)
    (start left : Nat) : Node :=
  if left ≤ 64 then ⟨chain, blockAt bytes start left, counter, UInt32.ofNat left, flags ||| chunkEnd⟩
  else
    let node : Node := ⟨chain, blockAt bytes start 64, counter, 64, flags⟩
    chunkFrom bytes counter node.compress 0 (start + 64) (left - 64)
  termination_by left

def chunk (bytes : ByteArray) (number : Nat) : Node :=
  chunkFrom bytes (UInt64.ofNat number) initial chunkStart (1024 * number)
    (min 1024 (bytes.size - 1024 * number))

/-- The nodes of all chunks; an empty message has one empty chunk. -/
def chunks (bytes : ByteArray) : List Node :=
  (List.range (max 1 ((bytes.size + 1023) / 1024))).map (chunk bytes)

/-! ## The tree -/

def parent (l r : Node) : Node :=
  ⟨initial, l.compress ++ r.compress, 0, 64, parentFlag⟩

/-- The next level of the tree. -/
def pairUp : List Node → List Node
  | l :: r :: rest => parent l r :: pairUp rest
  | rest => rest

theorem length_pairUp_le : ∀ nodes : List Node, (pairUp nodes).length ≤ nodes.length
  | [] => Nat.le_refl _
  | [_] => Nat.le_refl _
  | l :: r :: rest => by
    have := length_pairUp_le rest
    simp only [pairUp, List.length_cons]
    omega

/-- The node on top of a level of the tree that starts with `node`. -/
def top (node : Node) (nodes : List Node) : Node :=
  match nodes with
  | [] => node
  | r :: rest => top (parent node r) (pairUp rest)
  termination_by nodes.length
  decreasing_by
    have := length_pairUp_le rest
    simp only [List.length_cons]
    omega

def root (bytes : ByteArray) : Node :=
  match chunks bytes with
  | [] => chunk bytes 0
  | node :: rest => top node rest

def wordBytes (w : UInt32) : List UInt8 :=
  [w.toUInt8, (w >>> 8).toUInt8, (w >>> 16).toUInt8, (w >>> 24).toUInt8]

def digestWords (bytes : ByteArray) : Chain :=
  let node := root bytes
  Node.compress { node with flags := node.flags ||| rootFlag }

/-- The 32 bytes of the digest. -/
def digest (bytes : ByteArray) : List UInt8 :=
  (digestWords bytes).toList.flatMap wordBytes

/-- The first eight bytes of the digest in hexadecimal: a short name for the contents of a file. -/
def shortHex (bytes : ByteArray) : String :=
  String.ofList (Text.hexBytes ((digest bytes).take 8))

end TextAnnotation.Blake3
