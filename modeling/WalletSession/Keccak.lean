set_option autoImplicit false

/-! # Keccak-256

The hash function Keccak with an output of 256 bits and a rate of 136 bytes, padded with `0x01 … 0x80`. The
state is twenty-five lanes of 64 bits; lane `(x, y)` is at index `x + 5 * y`. -/

namespace WalletSession
namespace Keccak

/-- The twenty-five lanes. -/
abbrev State := Array UInt64

/-- A lane by its coordinates, taken modulo five. -/
def lane (s : State) (x y : Nat) : UInt64 := s.getD (x % 5 + 5 * (y % 5)) 0

/-- The state whose lane `(x, y)` is `f x y`. -/
def build (f : Nat → Nat → UInt64) : State :=
  (Array.range 25).map fun i => f (i % 5) (i / 5)

/-- Rotate a lane to the left by less than 64 places. -/
def rotate (w : UInt64) (n : Nat) : UInt64 :=
  if n = 0 then w else (w <<< UInt64.ofNat n) ||| (w >>> UInt64.ofNat (64 - n))

/-- The rotation of each lane. -/
def offsets : Array Nat := #[
  0, 1, 62, 28, 27,
  36, 44, 6, 55, 20,
  3, 10, 43, 25, 39,
  41, 45, 15, 21, 8,
  18, 2, 61, 56, 14]

/-- The constant added in each round. -/
def roundConstants : List UInt64 := [
  0x0000000000000001, 0x0000000000008082, 0x800000000000808a, 0x8000000080008000,
  0x000000000000808b, 0x0000000080000001, 0x8000000080008081, 0x8000000000008009,
  0x000000000000008a, 0x0000000000000088, 0x0000000080008009, 0x000000008000000a,
  0x000000008000808b, 0x800000000000008b, 0x8000000000008089, 0x8000000000008003,
  0x8000000000008002, 0x8000000000000080, 0x000000000000800a, 0x800000008000000a,
  0x8000000080008081, 0x8000000000008080, 0x0000000080000001, 0x8000000080008008]

/-- Add to every lane the parities of two neighbouring columns. -/
def theta (s : State) : State :=
  let parity := (Array.range 5).map fun x =>
    lane s x 0 ^^^ lane s x 1 ^^^ lane s x 2 ^^^ lane s x 3 ^^^ lane s x 4
  build fun x y => lane s x y ^^^ parity.getD ((x + 4) % 5) 0 ^^^ rotate (parity.getD ((x + 1) % 5) 0) 1

/-- Rotate the lanes and move them to their new places. -/
def rhoPi (s : State) : State :=
  build fun x y =>
    let fromX := (x + 3 * y) % 5
    rotate (lane s fromX x) (offsets.getD (fromX + 5 * x) 0)

/-- Combine each lane with its two neighbours in the row. -/
def chi (s : State) : State :=
  build fun x y => lane s x y ^^^ ((~~~ lane s (x + 1) y) &&& lane s (x + 2) y)

/-- One round. -/
def round (s : State) (constant : UInt64) : State :=
  (chi (rhoPi (theta s))).modify 0 (· ^^^ constant)

/-- The permutation of the state. -/
def permute (s : State) : State := roundConstants.foldl round s

/-- The number of bytes absorbed at a time. -/
def rate : Nat := 136

/-- Eight bytes as a lane, the first byte lowest. -/
def laneOfBytes (bytes : List UInt8) : UInt64 :=
  bytes.foldr (fun b acc => acc <<< 8 ||| b.toUInt64) 0

/-- The bytes of a lane, the lowest first. -/
def bytesOfLane (w : UInt64) : List UInt8 :=
  (List.range 8).map fun i => (w >>> UInt64.ofNat (8 * i)).toUInt8

/-- The padding of a message of `length` bytes. -/
def padding (length : Nat) : List UInt8 :=
  let missing := rate - length % rate
  if missing = 1 then [0x81] else 0x01 :: List.replicate (missing - 2) 0 ++ [0x80]

/-- Absorb one block. -/
def absorb (s : State) (block : List UInt8) : State :=
  permute (build fun x y => lane s x y ^^^ laneOfBytes ((block.drop (8 * (x + 5 * y))).take 8))

/-- The hash of some bytes. -/
def hash (message : List UInt8) : List UInt8 :=
  let padded := message ++ padding message.length
  let blocks := (List.range (padded.length / rate)).map fun i => (padded.drop (rate * i)).take rate
  let final := blocks.foldl absorb (Array.replicate 25 0)
  (final.toList.take 4).flatMap bytesOfLane

end Keccak
end WalletSession
