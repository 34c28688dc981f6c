import TxRelay.Bytes

/-!
# Keccak-256

The hash under which a chain knows a transaction. The sponge absorbs the input
in blocks of 136 bytes, mixing the state of twenty-five 64-bit lanes after
each, and the first 32 bytes of the state are the hash.

The five steps of a round are written one by one. Each builds the new state
from the lanes of the old one, so that a lane of the result is read off its
definition.

## Main definitions

* `Keccak.theta`, `Keccak.rhoPi`, `Keccak.chi`, `Keccak.iota`: The steps of a
  round.
* `Keccak.permute`: The twenty-four rounds.
* `keccak256`: The hash.
-/

namespace TxRelay

namespace Keccak

/-- Twenty-five lanes; lane `(x, y)` stands at position `x + 5 * y`. -/
abbrev State := Vector UInt64 25

/-- Lane `(x, y)`, with both coordinates taken modulo five. -/
def lane (s : State) (x y : Nat) : UInt64 :=
  s.get ⟨x % 5 + 5 * (y % 5), by omega⟩

/-- A lane rotated to the left. -/
def rotate (w : UInt64) (n : UInt64) : UInt64 :=
  if n = 0 then w else (w <<< n) ||| (w >>> (64 - n))

/-- The sum of a column. -/
def column (s : State) (x : Nat) : UInt64 :=
  lane s x 0 ^^^ lane s x 1 ^^^ lane s x 2 ^^^ lane s x 3 ^^^ lane s x 4

/-- Adds to each lane the columns to its left and, rotated, to its right. -/
def theta (s : State) : State :=
  let sums : Vector UInt64 5 := Vector.ofFn fun x => column s x.val
  let sum (x : Nat) : UInt64 := sums.get ⟨x % 5, by omega⟩
  Vector.ofFn fun i =>
    let x := i.val % 5
    s.get i ^^^ sum (x + 4) ^^^ rotate (sum (x + 1)) 1

/-- By how much each lane is rotated. -/
def offsets : Vector UInt64 25 :=
  #v[0, 1, 62, 28, 27, 36, 44, 6, 55, 20, 3, 10, 43, 25, 39, 41, 45, 15, 21, 8, 18, 2, 61, 56, 14]

/-- Rotates each lane and moves lane `(x, y)` to `(y, 2 x + 3 y)`. -/
def rhoPi (s : State) : State :=
  Vector.ofFn fun i =>
    -- The lane that moves to `(u, v)` comes from `(u + 3 v, u)`.
    let u := i.val % 5
    let v := i.val / 5
    rotate (lane s (u + 3 * v) u) (lane offsets (u + 3 * v) u)

/-- Adds to each lane the next one's complement times the one after that. -/
def chi (s : State) : State :=
  Vector.ofFn fun i =>
    let x := i.val % 5
    let y := i.val / 5
    s.get i ^^^ ((~~~ lane s (x + 1) y) &&& lane s (x + 2) y)

/-- Adds the round's constant to the first lane. -/
def iota (constant : UInt64) (s : State) : State :=
  s.set 0 (s.get 0 ^^^ constant)

/-- The constants of the rounds. -/
def constants : List UInt64 :=
  [0x0000000000000001, 0x0000000000008082, 0x800000000000808a, 0x8000000080008000,
   0x000000000000808b, 0x0000000080000001, 0x8000000080008081, 0x8000000000008009,
   0x000000000000008a, 0x0000000000000088, 0x0000000080008009, 0x000000008000000a,
   0x000000008000808b, 0x800000000000008b, 0x8000000000008089, 0x8000000000008003,
   0x8000000000008002, 0x8000000000000080, 0x000000000000800a, 0x800000008000000a,
   0x8000000080008081, 0x8000000000008080, 0x0000000080000001, 0x8000000080008008]

/-- The twenty-four rounds. -/
def permute (s : State) : State :=
  constants.foldl (fun s c => iota c (chi (rhoPi (theta s)))) s

/-- The bytes of a block. -/
def rate : Nat := 136

/-- The input followed by one bit, zeros, and one bit at the end of a block. -/
def pad (input : Bytes) : Bytes :=
  let room := rate - input.length % rate
  if room = 1 then input ++ [0x81]
  else input ++ 0x01 :: List.replicate (room - 2) 0 ++ [0x80]

/-- Eight bytes as a lane, the least significant one first. -/
def toLane (bytes : Bytes) : UInt64 :=
  bytes.foldr (fun b acc => (acc <<< 8) ||| b.toUInt64) 0

/-- The lane of a block at a position; behind the block all lanes are zero. -/
def blockLane (block : Bytes) (i : Nat) : UInt64 :=
  toLane ((block.drop (8 * i)).take 8)

/-- Adds a block to the state and mixes it. -/
def absorb (s : State) (block : Bytes) : State :=
  permute (Vector.ofFn fun i => s.get i ^^^ blockLane block i.val)

/-- Absorbs so many blocks. -/
def absorbAll : Nat → State → Bytes → State
  | 0, s, _ => s
  | n + 1, s, input => absorbAll n (absorb s (input.take rate)) (input.drop rate)

/-- The bytes of a lane, the least significant one first. -/
def laneBytes (w : UInt64) : Bytes :=
  (List.range 8).map fun i => (w >>> (8 * i).toUInt64).toUInt8

end Keccak

/-- The Keccak-256 hash of a byte string. -/
def keccak256 (input : Bytes) : Hash :=
  let padded := Keccak.pad input
  let s := Keccak.absorbAll (padded.length / Keccak.rate) (Vector.replicate 25 0) padded
  FixedBytes.ofListPadded 32 ((s.toList.take 4).flatMap Keccak.laneBytes)

end TxRelay
