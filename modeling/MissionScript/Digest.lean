import MissionScript.Bytes
import MissionScript.Text.Digits

/-!
# SHA3-256

The digest of a byte string: the Keccak sponge with a rate of 136 bytes, the domain byte 0x06 and
32 bytes of output. The state is 25 lanes of 64 bits, lane `x + 5 * y` standing in column `x` of
plane `y`.
-/

namespace MissionScript.Digest

/-- The 25 lanes of the sponge. -/
abbrev Lanes := Vector UInt64 25

/-- The lane at an index, taken round the state. -/
def lane (lanes : Lanes) (index : Nat) : UInt64 := lanes.get ⟨index % 25, Nat.mod_lt _ (by decide)⟩

def rotateLeft (word : UInt64) (count : UInt64) : UInt64 :=
  (word <<< count) ||| (word >>> (64 - count))

/-- The parity of a column. -/
def parity (lanes : Lanes) (x : Nat) : UInt64 :=
  lane lanes x ^^^ lane lanes (x + 5) ^^^ lane lanes (x + 10) ^^^ lane lanes (x + 15) ^^^
    lane lanes (x + 20)

/-- Adds to each lane the parities of two neighbouring columns. -/
def theta (lanes : Lanes) : Lanes :=
  let parities := Vector.ofFn fun x : Fin 5 => parity lanes x.val
  let column (x : Nat) : UInt64 := parities.get ⟨x % 5, Nat.mod_lt _ (by decide)⟩
  Vector.ofFn fun i => lanes.get i ^^^ column (i.val + 4) ^^^ rotateLeft (column (i.val + 1)) 1

/-- The rotation of each lane. -/
def offsets : Vector UInt64 25 := #v[
  0, 1, 62, 28, 27, 36, 44, 6, 55, 20, 3, 10, 43, 25, 39, 41, 45, 15, 21, 8, 18, 2, 61, 56, 14]

/-- Rotates each lane and moves it to its new place: the lane in column `x` of plane `y` comes from
column `x + 3 * y` of plane `x`. -/
def rhoPi (lanes : Lanes) : Lanes :=
  let turned := Vector.ofFn fun i : Fin 25 => rotateLeft (lanes.get i) (offsets.get i)
  Vector.ofFn fun i =>
    let x := i.val % 5
    let y := i.val / 5
    lane turned ((x + 3 * y) % 5 + 5 * x)

/-- Mixes each lane with the two after it in its plane. -/
def chi (lanes : Lanes) : Lanes :=
  Vector.ofFn fun i =>
    let plane := i.val / 5 * 5
    lanes.get i ^^^
      (~~~ lane lanes (plane + (i.val + 1) % 5) &&& lane lanes (plane + (i.val + 2) % 5))

/-- The constants that tell the rounds apart. -/
def roundConstants : List UInt64 := [
  0x0000000000000001, 0x0000000000008082, 0x800000000000808A, 0x8000000080008000,
  0x000000000000808B, 0x0000000080000001, 0x8000000080008081, 0x8000000000008009,
  0x000000000000008A, 0x0000000000000088, 0x0000000080008009, 0x000000008000000A,
  0x000000008000808B, 0x800000000000008B, 0x8000000000008089, 0x8000000000008003,
  0x8000000000008002, 0x8000000000000080, 0x000000000000800A, 0x800000008000000A,
  0x8000000080008081, 0x8000000000008080, 0x0000000080000001, 0x8000000080008008]

def round (lanes : Lanes) (constant : UInt64) : Lanes :=
  let mixed := chi (rhoPi (theta lanes))
  mixed.set 0 (mixed.get 0 ^^^ constant)

/-- All 24 rounds. -/
def permute (lanes : Lanes) : Lanes := roundConstants.foldl round lanes

/-- The number of bytes taken in before each permutation. -/
def rate : Nat := 136

/-- The lane that eight bytes of a block stand for. -/
def blockLane (block : List UInt8) (index : Nat) : UInt64 :=
  UInt64.ofNat (littleEndian ((block.drop (8 * index)).take 8))

/-- Takes in one block. -/
def absorbBlock (lanes : Lanes) (block : List UInt8) : Lanes :=
  permute (Vector.ofFn fun i =>
    if i.val < rate / 8 then lanes.get i ^^^ blockLane block i.val else lanes.get i)

/-- Takes in the given number of blocks. -/
def absorb : Nat → List UInt8 → Lanes → Lanes
  | 0, _, lanes => lanes
  | blocks + 1, bytes, lanes => absorb blocks (bytes.drop rate) (absorbBlock lanes (bytes.take rate))

/-- Fills the text up to whole blocks: the domain byte, zeros, and the top bit of the last byte. -/
def padding (length : Nat) : List UInt8 :=
  let missing := rate - length % rate
  if missing = 1 then [0x86]
  else 0x06 :: List.replicate (missing - 2) 0 ++ [0x80]

/-- The 32 bytes of the digest. -/
def sha3 (bytes : List UInt8) : List UInt8 :=
  let lanes := absorb (bytes.length / rate + 1) (bytes ++ padding bytes.length)
    (Vector.replicate 25 0)
  (List.range 4).flatMap fun index => toLittleEndian 8 (lane lanes index).toNat

end MissionScript.Digest
