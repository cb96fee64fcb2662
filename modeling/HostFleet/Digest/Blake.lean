import HostFleet.Digest.Sha

/-!
# Digests from quarter rounds

A digest of up to 512 bits that mixes sixteen words by columns and diagonals.
-/

namespace HostFleet.Digest

namespace Blake

/-- The order in which each round takes the words of a block. -/
def orders : List (List Nat) :=
  [[0, 1, 2, 3, 4, 5, 6, 7, 8, 9, 10, 11, 12, 13, 14, 15],
    [14, 10, 4, 8, 9, 15, 13, 6, 1, 12, 0, 2, 11, 7, 5, 3],
    [11, 8, 12, 0, 5, 2, 15, 13, 10, 14, 3, 6, 7, 1, 9, 4],
    [7, 9, 3, 1, 13, 12, 11, 14, 2, 6, 5, 10, 4, 0, 15, 8],
    [9, 0, 5, 7, 2, 4, 10, 15, 14, 1, 11, 12, 6, 8, 3, 13],
    [2, 12, 6, 10, 0, 11, 8, 3, 4, 13, 7, 5, 15, 14, 1, 9],
    [12, 5, 1, 15, 14, 13, 4, 10, 0, 7, 6, 3, 9, 2, 8, 11],
    [13, 11, 7, 14, 12, 1, 3, 9, 5, 0, 15, 4, 8, 6, 2, 10],
    [6, 15, 14, 9, 11, 3, 0, 8, 12, 2, 13, 7, 1, 4, 10, 5],
    [10, 2, 8, 4, 7, 6, 1, 5, 15, 11, 9, 14, 3, 12, 13, 0]]

/-- The four words that each step of a round mixes: the columns, then the diagonals. -/
def quarters : List (Nat × Nat × Nat × Nat) :=
  [(0, 4, 8, 12), (1, 5, 9, 13), (2, 6, 10, 14), (3, 7, 11, 15),
    (0, 5, 10, 15), (1, 6, 11, 12), (2, 7, 8, 13), (3, 4, 9, 14)]

abbrev Word := BitVec 64

def mix (v : Array Word) (q : Nat × Nat × Nat × Nat) (x y : Word) : Array Word :=
  let (i, j, k, l) := q
  let (a, b, c, d) := (v.getD i 0, v.getD j 0, v.getD k 0, v.getD l 0)
  let a := a + b + x
  let d := (d ^^^ a).rotateRight 32
  let c := c + d
  let b := (b ^^^ c).rotateRight 24
  let a := a + b + y
  let d := (d ^^^ a).rotateRight 16
  let c := c + d
  let b := (b ^^^ c).rotateRight 63
  (((v.setIfInBounds i a).setIfInBounds j b).setIfInBounds k c).setIfInBounds l d

def start : List Word := (startDigits 64 false).map (BitVec.ofNat 64)

/-- Works a block into the words; `count` bytes have been read with it. -/
def absorb (h : List Word) (block : Bytes) (count : Nat) (isLast : Bool) : List Word :=
  let ms := (words .little 64 (block ++ List.replicate (128 - block.length) 0)).toArray
  let v := (h ++ start).toArray
  let v := v.modify 12 (· ^^^ BitVec.ofNat 64 count)
  let v := if isLast then v.modify 14 (~~~·) else v
  let v := (orders ++ orders.take 2).foldl (fun v order =>
    let order := order.toArray
    quarters.zipIdx.foldl (fun v (q, i) =>
      let m (j : Nat) : Word := ms.getD (order.getD j 0) 0
      mix v q (m (2 * i)) (m (2 * i + 1))) v) v
  h.zipIdx.map fun (x, i) => x ^^^ v.getD i 0 ^^^ v.getD (i + 8) 0

end Blake

/-- The digest of a message in so many bytes. -/
def blake2b (size : Nat) (message : Bytes) : Bytes :=
  let first := (Blake.start.headD 0) ^^^ BitVec.ofNat 64 (0x01010000 + size)
  let blocks := if message.isEmpty then [[]] else pieces 128 message
  let last := blocks.length - 1
  let h := blocks.zipIdx.foldl (fun h (block, i) =>
    Blake.absorb h block (128 * i + block.length) (i = last)) (first :: Blake.start.tail)
  (ofWords .little h).take size

end HostFleet.Digest
