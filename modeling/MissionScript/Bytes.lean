/-!
# Little-endian numbers

Numbers stand in a script with their least significant byte first. `littleEndian` reads a byte
string as a number and `toLittleEndian` writes one; `signExtend` reads two's complement of any
width up to 32 bits.

Results: writing and reading are inverse to each other (`littleEndian_toLittleEndian`,
`toLittleEndian_littleEndian`).
-/

namespace MissionScript

/-- The number a byte string stands for, least significant byte first. -/
def littleEndian : List UInt8 → Nat
  | [] => 0
  | byte :: rest => byte.toNat + 256 * littleEndian rest

/-- The `width` low bytes of a number, least significant first. -/
def toLittleEndian : Nat → Nat → List UInt8
  | 0, _ => []
  | width + 1, value => UInt8.ofNat value :: toLittleEndian width (value / 256)

/-- The number of values that `width` bytes can hold. -/
def byteRange : Nat → Nat
  | 0 => 1
  | width + 1 => 256 * byteRange width

@[simp] theorem length_toLittleEndian (width value : Nat) :
    (toLittleEndian width value).length = width := by
  induction width generalizing value with
  | zero => rfl
  | succ width ih => simp [toLittleEndian, ih]

theorem littleEndian_lt (bytes : List UInt8) : littleEndian bytes < byteRange bytes.length := by
  induction bytes with
  | nil => simp [littleEndian, byteRange]
  | cons byte rest ih =>
    have bound := byte.toNat_lt
    simp only [littleEndian, List.length_cons, byteRange]
    omega

theorem littleEndian_toLittleEndian (width value : Nat) :
    littleEndian (toLittleEndian width value) = value % byteRange width := by
  induction width generalizing value with
  | zero => simp [littleEndian, toLittleEndian, byteRange, Nat.mod_one]
  | succ width ih =>
    have low : (UInt8.ofNat value).toNat = value % 256 := by simp
    simp only [littleEndian, toLittleEndian, low, ih]
    rw [byteRange, Nat.mod_mul]

theorem toLittleEndian_littleEndian (bytes : List UInt8) :
    toLittleEndian bytes.length (littleEndian bytes) = bytes := by
  induction bytes with
  | nil => rfl
  | cons byte rest ih =>
    have bound := byte.toNat_lt
    simp only [List.length_cons, littleEndian, toLittleEndian]
    have high : (byte.toNat + 256 * littleEndian rest) / 256 = littleEndian rest := by omega
    have low : UInt8.ofNat (byte.toNat + 256 * littleEndian rest) = byte := by
      apply UInt8.toNat_inj.1
      simp
    rw [high, low, ih]

/-- The two's complement reading of a byte string, widened to 32 bits. -/
def signExtend (bytes : List UInt8) : Int32 :=
  Int32.ofInt ((littleEndian bytes : Int).bmod (byteRange bytes.length))

/-- The four bytes of a 32-bit integer. -/
def int32Bytes (value : Int32) : List UInt8 := toLittleEndian 4 value.toUInt32.toNat

end MissionScript
