import GroupSignal.Bytes

/-!
# Keccak-256

The sponge over the permutation of 25 lanes of 64 bits, with 136 bytes absorbed at a time, a single
one bit as the domain suffix, and 32 bytes of output.

## Main definitions

* `Keccak.permute`: the 24 rounds
* `keccak256`: the digest of a byte string
-/

namespace GroupSignal

namespace Keccak

/-- The state: the lane in column `x` and row `y` stands at `x + 5 * y`. -/
abbrev State := Vector UInt64 25

/-- The constant that each round adds to the first lane. -/
def roundConstants : List UInt64 := [
  0x0000000000000001, 0x0000000000008082, 0x800000000000808a, 0x8000000080008000,
  0x000000000000808b, 0x0000000080000001, 0x8000000080008081, 0x8000000000008009,
  0x000000000000008a, 0x0000000000000088, 0x0000000080008009, 0x000000008000000a,
  0x000000008000808b, 0x800000000000008b, 0x8000000000008089, 0x8000000000008003,
  0x8000000000008002, 0x8000000000000080, 0x000000000000800a, 0x800000008000000a,
  0x8000000080008081, 0x8000000000008080, 0x0000000080000001, 0x8000000080008008]

/-- How far each lane is rotated. -/
def rotations : Vector UInt64 25 := #v[
  0, 1, 62, 28, 27,
  36, 44, 6, 55, 20,
  3, 10, 43, 25, 39,
  41, 45, 15, 21, 8,
  18, 2, 61, 56, 14]

/-- Rotates a lane to the left by less than 64 places. -/
def rotate (w by' : UInt64) : UInt64 := if by' = 0 then w else (w <<< by') ||| (w >>> (64 - by'))

/-- Adds to each lane the parities of two neighbouring columns. -/
def theta (s : State) : State :=
  let parity : Vector UInt64 5 := Vector.ofFn fun x =>
    s[x.val] ^^^ s[x.val + 5] ^^^ s[x.val + 10] ^^^ s[x.val + 15] ^^^ s[x.val + 20]
  let change : Vector UInt64 5 := Vector.ofFn fun x =>
    parity[(x.val + 4) % 5] ^^^ rotate parity[(x.val + 1) % 5] 1
  Vector.ofFn fun i => s[i.val] ^^^ change[i.val % 5]

/-- Rotates each lane and moves it to its place for the next step. -/
def rhoPi (s : State) : State :=
  Vector.ofFn fun i =>
    let x := i.val % 5
    let y := i.val / 5
    let source := (x + 3 * y) % 5 + 5 * x
    rotate s[source] rotations[source]

/-- Combines each lane with the next two of its row. -/
def chi (s : State) : State :=
  Vector.ofFn fun i =>
    let row := 5 * (i.val / 5)
    s[i.val] ^^^ (~~~ s[row + (i.val + 1) % 5] &&& s[row + (i.val + 2) % 5])

/-- One round with its constant. -/
def round (s : State) (constant : UInt64) : State :=
  let t := chi (rhoPi (theta s))
  t.set 0 (t[0] ^^^ constant)

/-- The permutation. -/
def permute (s : State) : State := roundConstants.foldl round s

/-- The count of bytes absorbed at a time. -/
def rate : Nat := 136

/-- The lane that eight bytes write, least significant first. -/
def lane (b : Bytes) : UInt64 := UInt64.ofNat (Bytes.toNat b.reverse)

/-- Adds a block of `rate` bytes to the state. -/
def absorbBlock (s : State) (block : Bytes) : State :=
  Vector.ofFn fun i => s[i.val] ^^^ lane ((block.drop (8 * i.val)).take 8)

/-- Absorbs whole blocks, permuting after each. -/
def absorb (s : State) (b : Bytes) : State :=
  if b = [] then s
  else absorb (permute (absorbBlock s (b.take rate))) (b.drop rate)
termination_by b.length
decreasing_by
  rename_i h
  have := List.length_pos_iff.2 h
  simp only [List.length_drop, rate]
  omega

/-- Fills up the last block: a one bit, zeros, and a one bit at the end. -/
def pad (b : Bytes) : Bytes :=
  let free := rate - b.length % rate
  if free = 1 then b ++ [0x81] else b ++ [0x01] ++ List.replicate (free - 2) 0 ++ [0x80]

/-- The bytes of a lane, least significant first. -/
def laneBytes (w : UInt64) : Bytes := (Bytes.ofNat 8 w.toNat).reverse

end Keccak

/-- The Keccak-256 digest of a byte string. -/
def keccak256 (b : Bytes) : Bytes :=
  let s := Keccak.absorb (Vector.replicate 25 0) (Keccak.pad b)
  Keccak.laneBytes s[0] ++ Keccak.laneBytes s[1] ++ Keccak.laneBytes s[2] ++ Keccak.laneBytes s[3]

@[simp] theorem length_keccak256 (b : Bytes) : (keccak256 b).length = 32 := by
  simp [keccak256, Keccak.laneBytes]

end GroupSignal
