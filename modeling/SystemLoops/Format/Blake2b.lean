import SystemLoops.Text.Basic

namespace SystemLoops.Format.Blake2b

/-- The initial state of SHA-512, which BLAKE2b shares. -/
def initial : Array UInt64 :=
  #[0x6A09E667F3BCC908, 0xBB67AE8584CAA73B, 0x3C6EF372FE94F82B, 0xA54FF53A5F1D36F1,
    0x510E527FADE682D1, 0x9B05688C2B3E6C1F, 0x1F83D9ABFB41BD6B, 0x5BE0CD19137E2179]

/-- The order in which a round reads the message words. -/
def schedule : Array (Array Nat) :=
  #[#[0, 1, 2, 3, 4, 5, 6, 7, 8, 9, 10, 11, 12, 13, 14, 15],
    #[14, 10, 4, 8, 9, 15, 13, 6, 1, 12, 0, 2, 11, 7, 5, 3],
    #[11, 8, 12, 0, 5, 2, 15, 13, 10, 14, 3, 6, 7, 1, 9, 4],
    #[7, 9, 3, 1, 13, 12, 11, 14, 2, 6, 5, 10, 4, 0, 15, 8],
    #[9, 0, 5, 7, 2, 4, 10, 15, 14, 1, 11, 12, 6, 8, 3, 13],
    #[2, 12, 6, 10, 0, 11, 8, 3, 4, 13, 7, 5, 15, 14, 1, 9],
    #[12, 5, 1, 15, 14, 13, 4, 10, 0, 7, 6, 3, 9, 2, 8, 11],
    #[13, 11, 7, 14, 12, 1, 3, 9, 5, 0, 15, 4, 8, 6, 2, 10],
    #[6, 15, 14, 9, 11, 3, 0, 8, 12, 2, 13, 7, 1, 4, 10, 5],
    #[10, 2, 8, 4, 7, 6, 1, 5, 15, 11, 9, 14, 3, 12, 13, 0],
    #[0, 1, 2, 3, 4, 5, 6, 7, 8, 9, 10, 11, 12, 13, 14, 15],
    #[14, 10, 4, 8, 9, 15, 13, 6, 1, 12, 0, 2, 11, 7, 5, 3]]

/-- The columns and diagonals that a round mixes, in order. -/
def lanes : List (Nat × Nat × Nat × Nat) :=
  [(0, 4, 8, 12), (1, 5, 9, 13), (2, 6, 10, 14), (3, 7, 11, 15),
   (0, 5, 10, 15), (1, 6, 11, 12), (2, 7, 8, 13), (3, 4, 9, 14)]

private def rotateRight (x : UInt64) (n : UInt64) : UInt64 :=
  (x >>> n) ||| (x <<< (64 - n))

/-- Mix two message words into four words of the state. -/
def mix (v : Array UInt64) (lane : Nat × Nat × Nat × Nat) (x y : UInt64) : Array UInt64 :=
  let (ia, ib, ic, id) := lane
  let a := v.getD ia 0
  let b := v.getD ib 0
  let c := v.getD ic 0
  let d := v.getD id 0
  let a := a + b + x
  let d := rotateRight (d ^^^ a) 32
  let c := c + d
  let b := rotateRight (b ^^^ c) 24
  let a := a + b + y
  let d := rotateRight (d ^^^ a) 16
  let c := c + d
  let b := rotateRight (b ^^^ c) 63
  (((v.setIfInBounds ia a).setIfInBounds ib b).setIfInBounds ic c).setIfInBounds id d

/-- The words of a block, eight bytes each, the least significant first. -/
def words (block : Text) : Array UInt64 :=
  let bytes := block.toArray
  (Array.range 16).map fun i =>
    (List.range 8).foldl (fun w j =>
      w ||| ((bytes.getD (8 * i + j) 0).toUInt64 <<< (8 * j).toUInt64)) 0

private def runLanes (v m : Array UInt64) (order : Array Nat) : Array UInt64 :=
  (lanes.foldl (fun (v, i) lane =>
    (mix v lane (m.getD (order.getD (2 * i) 0) 0) (m.getD (order.getD (2 * i + 1) 0) 0), i + 1))
    (v, 0)).1

/-- Compress one block into the state, after `count` bytes in all. -/
def compress (h : Array UInt64) (block : Text) (count : Nat) (isLast : Bool) : Array UInt64 :=
  let v := h ++ initial
  let v := v.setIfInBounds 12 (v.getD 12 0 ^^^ count.toUInt64)
  let v := v.setIfInBounds 13 (v.getD 13 0 ^^^ (count / Nat.pow 2 64).toUInt64)
  let v := if isLast then v.setIfInBounds 14 (v.getD 14 0 ^^^ 0xFFFFFFFFFFFFFFFF) else v
  let m := words block
  let v := schedule.foldl (fun v order => runLanes v m order) v
  (Array.range 8).map fun i => h.getD i 0 ^^^ v.getD i 0 ^^^ v.getD (i + 8) 0

/-- Compress the blocks of a message; the last one is marked and filled with zeros. -/
def absorb (h : Array UInt64) (count : Nat) : (blocks : Nat) → Text → Array UInt64
  | 0, rest => compress h rest (count + rest.length) true
  | blocks + 1, rest =>
    absorb (compress h (rest.take 128) (count + 128) false) (count + 128) blocks (rest.drop 128)

/-- The bytes of a word, the least significant first. -/
def littleEndian (w : UInt64) : Text :=
  (List.range 8).map fun i => (w >>> (8 * i).toUInt64).toUInt8

def digest (message : Text) : Text :=
  let h := initial.setIfInBounds 0 (initial.getD 0 0 ^^^ 0x01010020)
  let final := absorb h 0 ((message.length - 1) / 128) message
  (final.toList.take 4).flatMap littleEndian

end SystemLoops.Format.Blake2b
