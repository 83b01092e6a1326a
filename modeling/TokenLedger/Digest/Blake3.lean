/-! # BLAKE3

The 32-byte digest of a byte string. The bytes are cut into chunks of 1024 and those into blocks
of 64; the blocks of a chunk are chained, and the chunks are the leaves of a binary tree that is
complete on its left. Only the last compression, the root's, is marked as such.
-/
namespace TokenLedger.Blake3

abbrev Words := Vector UInt32 16
abbrev Chaining := Vector UInt32 8

def initial : Chaining :=
  #v[0x6A09E667, 0xBB67AE85, 0x3C6EF372, 0xA54FF53A, 0x510E527F, 0x9B05688C, 0x1F83D9AB, 0x5BE0CD19]

def chunkStart : UInt32 := 1
def chunkEnd : UInt32 := 2
def parentNode : UInt32 := 4
def rootNode : UInt32 := 8

def rotateRight (w n : UInt32) : UInt32 := (w >>> n) ||| (w <<< (32 - n))

def mix (v : Words) (a b c d : Fin 16) (x y : UInt32) : Words :=
  let v := v.set a (v[a] + v[b] + x)
  let v := v.set d (rotateRight (v[d] ^^^ v[a]) 16)
  let v := v.set c (v[c] + v[d])
  let v := v.set b (rotateRight (v[b] ^^^ v[c]) 12)
  let v := v.set a (v[a] + v[b] + y)
  let v := v.set d (rotateRight (v[d] ^^^ v[a]) 8)
  let v := v.set c (v[c] + v[d])
  v.set b (rotateRight (v[b] ^^^ v[c]) 7)

def mixAll (v m : Words) : Words :=
  let v := mix v 0 4 8 12 m[0] m[1]
  let v := mix v 1 5 9 13 m[2] m[3]
  let v := mix v 2 6 10 14 m[4] m[5]
  let v := mix v 3 7 11 15 m[6] m[7]
  let v := mix v 0 5 10 15 m[8] m[9]
  let v := mix v 1 6 11 12 m[10] m[11]
  let v := mix v 2 7 8 13 m[12] m[13]
  mix v 3 4 9 14 m[14] m[15]

/-- The order in which a round reads the message words of the round before it. -/
def permuted (m : Words) : Words :=
  #v[m[2], m[6], m[3], m[10], m[7], m[0], m[4], m[13],
     m[1], m[11], m[12], m[5], m[9], m[14], m[15], m[8]]

def rounds : Nat → Words → Words → Words
  | 0, v, _ => v
  | n + 1, v, m => rounds n (mixAll v m) (permuted m)

/-- A compression that is yet to be made, so that the last one can be marked as the root. -/
structure Node where
  chaining : Chaining
  message : Words
  counter : UInt64
  size : UInt32
  flags : UInt32

def Node.compress (n : Node) (extra : UInt32) : Chaining :=
  let h := n.chaining
  let v := rounds 7
    #v[h[0], h[1], h[2], h[3], h[4], h[5], h[6], h[7], initial[0], initial[1], initial[2],
       initial[3], n.counter.toUInt32, (n.counter >>> 32).toUInt32, n.size, n.flags ||| extra]
    n.message
  #v[v[0] ^^^ v[8], v[1] ^^^ v[9], v[2] ^^^ v[10], v[3] ^^^ v[11],
     v[4] ^^^ v[12], v[5] ^^^ v[13], v[6] ^^^ v[14], v[7] ^^^ v[15]]

def blockWords (block : List UInt8) : Words :=
  let bytes := block.toArray
  let byte (i : Nat) : UInt32 := (bytes.getD i 0).toUInt32
  Vector.ofFn fun i =>
    byte (4 * i) ||| (byte (4 * i + 1) <<< 8) ||| (byte (4 * i + 2) <<< 16) |||
      (byte (4 * i + 3) <<< 24)

/-- Cuts the bytes after every `size + 1`; no bytes are one empty piece. -/
def pieces (size : Nat) (bytes : List UInt8) : List (List UInt8) :=
  match h : bytes.drop (size + 1) with
  | [] => [bytes]
  | b :: rest => bytes.take (size + 1) :: pieces size (b :: rest)
termination_by bytes.length
decreasing_by rw [← h, List.length_drop]; have := congrArg List.length h; simp at this; omega

def chain (counter : UInt64) (flags : UInt32) (chaining : Chaining) : List (List UInt8) → Node
  | [] => ⟨chaining, blockWords [], counter, 0, flags ||| chunkEnd⟩
  | [block] => ⟨chaining, blockWords block, counter, block.length.toUInt32, flags ||| chunkEnd⟩
  | block :: rest =>
    let node : Node := ⟨chaining, blockWords block, counter, 64, flags⟩
    chain counter 0 (node.compress 0) rest

def leaf (counter : Nat) (chunk : List UInt8) : Node :=
  chain counter.toUInt64 chunkStart initial (pieces 63 chunk)

def parent (left right : Node) : Node :=
  ⟨initial, left.compress 0 ++ right.compress 0, 0, 64, parentNode⟩

/-- Joins neighbours; a node without a neighbour moves up as it is. -/
def joinPairs : List Node → List Node
  | left :: right :: rest => parent left right :: joinPairs rest
  | nodes => nodes

theorem length_joinPairs_le : (nodes : List Node) → (joinPairs nodes).length ≤ nodes.length
  | [] => Nat.le_refl _
  | [_] => Nat.le_refl _
  | _ :: _ :: rest => by
    have := length_joinPairs_le rest
    simp only [joinPairs, List.length_cons]
    omega

def root (first : Node) : List Node → Node
  | [] => first
  | second :: rest => root (parent first second) (joinPairs rest)
termination_by nodes => nodes.length
decreasing_by have := length_joinPairs_le rest; simp only [List.length_cons]; omega

def leaves (bytes : List UInt8) : List Node :=
  (pieces 1023 bytes).mapIdx leaf

def digest (bytes : List UInt8) : List UInt8 :=
  let words := match leaves bytes with
    | [] => initial
    | first :: rest => (root first rest).compress rootNode
  List.ofFn fun i : Fin 32 => (words[i.val / 4] >>> (8 * (i.val % 4)).toUInt32).toUInt8

@[simp] theorem length_digest (bytes : List UInt8) : (digest bytes).length = 32 := by
  simp [digest]

end TokenLedger.Blake3
