import MissionScript.Memory
import MissionScript.Proofs.Results

/-!
# What stands in memory

`memory.Holds address data` says that the bytes `data` stand in memory from `address` on. A read
succeeds exactly with the bytes that stand there, so statements about reads become statements about
contents, which split and join like lists do. A table whose records have one width holds each of them
at a multiple of that width (`Memory.Holds.record`).
-/

namespace MissionScript

/-! ## 1. Numbers -/

theorem length_int32Bytes (value : Int32) : (int32Bytes value).length = 4 :=
  length_toLittleEndian 4 _

/-- A number below half of the 32-bit range stays as it is. -/
theorem toNat_toInt_ofNat {n : Nat} (small : n < 0x80000000) :
    (Int32.ofNat n).toInt.toNat = n := by
  rw [Int32.toInt_ofNat_of_lt small, Int.toNat_natCast]

theorem signExtend_int32Bytes (value : Int32) : signExtend (int32Bytes value) = value := by
  have small : value.toUInt32.toNat < byteRange 4 := value.toUInt32.toNat_lt
  have signed : value.toInt = (value.toUInt32.toNat : Int).bmod (byteRange 4) :=
    BitVec.toInt_eq_toNat_bmod value.toBitVec
  unfold signExtend int32Bytes
  rw [littleEndian_toLittleEndian, length_toLittleEndian, Nat.mod_eq_of_lt small, ← signed,
    Int32.ofInt_toInt]

theorem int32Bytes_signExtend {data : List UInt8} (four : data.length = 4) :
    int32Bytes (signExtend data) = data := by
  have small := littleEndian_lt data
  rw [four] at small
  have same : (signExtend data).toUInt32.toNat = littleEndian data := by
    unfold signExtend
    rw [four]
    have word : (Int32.ofInt ((littleEndian data : Int).bmod (byteRange 4))).toUInt32.toNat =
        ((littleEndian data : Int).bmod (byteRange 4) % byteRange 4).toNat := BitVec.toNat_ofInt _
    rw [word, Int.bmod_emod, Int.emod_eq_of_lt (Int.natCast_nonneg _) (Int.ofNat_lt.2 small),
      Int.toNat_natCast]
  rw [int32Bytes, same, ← four, toLittleEndian_littleEndian]

/-- The number of bytes that a value takes in a variable. -/
theorem Value.length_storage? {value : Value} {dataType : DataType} {data : List UInt8}
    (stored : value.storage? = some (dataType, data)) : data.length = cellWidth := by
  cases value with
  | int number =>
    cases stored
    exact length_toLittleEndian 4 _
  | float number =>
    cases stored
    exact length_toLittleEndian 4 _
  | text string => cases stored

namespace Memory

/-! ## 2. Contents -/

/-- The bytes `data` stand in memory from `address` on. -/
def Holds (memory : Memory) (address : Nat) (data : List UInt8) : Prop :=
  ∀ index, index < data.length → memory.bytes[address + index]? = data[index]?

@[simp] theorem holds_nil (memory : Memory) (address : Nat) : memory.Holds address [] := by
  intro index inside
  cases inside

theorem holds_cons {memory : Memory} {address : Nat} {byte : UInt8} {rest : List UInt8} :
    memory.Holds address (byte :: rest) ↔
      memory.bytes[address]? = some byte ∧ memory.Holds (address + 1) rest := by
  constructor
  · intro holds
    refine ⟨by simpa using holds 0 (by simp), ?_⟩
    intro index inside
    have shifted := holds (index + 1) (by simpa using inside)
    rw [List.getElem?_cons_succ] at shifted
    rw [← shifted, Nat.add_assoc, Nat.add_comm 1 index]
  · rintro ⟨first, holds⟩ index inside
    cases index with
    | zero => simpa using first
    | succ index =>
      rw [List.getElem?_cons_succ, ← holds index (by simpa using inside), Nat.add_assoc,
        Nat.add_comm 1 index]

theorem holds_append {memory : Memory} {address : Nat} {left right : List UInt8} :
    memory.Holds address (left ++ right) ↔
      memory.Holds address left ∧ memory.Holds (address + left.length) right := by
  induction left generalizing address with
  | nil => simp
  | cons byte rest ih =>
    rw [List.cons_append, holds_cons, holds_cons, ih, and_assoc, List.length_cons]
    rw [show address + 1 + rest.length = address + (rest.length + 1) by omega]

/-- What stands in memory lies inside it. -/
theorem Holds.fits {memory : Memory} {address : Nat} {data : List UInt8}
    (holds : memory.Holds address data) (nonempty : 0 < data.length) :
    address + data.length ≤ memory.size := by
  have last := holds (data.length - 1) (by omega)
  rw [List.getElem?_eq_getElem (by omega)] at last
  obtain ⟨inside, _⟩ := Array.getElem?_eq_some_iff.1 last
  unfold size
  omega

/-- Memories that agree on a span hold the same bytes there. -/
theorem Holds.congr {memory other : Memory} {address : Nat} {data : List UInt8}
    (holds : memory.Holds address data)
    (agree : ∀ index, address ≤ index → index < address + data.length →
      other.bytes[index]? = memory.bytes[index]?) : other.Holds address data := by
  intro index inside
  rw [agree (address + index) (by omega) (by omega)]
  exact holds index inside

/-- A read succeeds exactly with the bytes that stand there. -/
theorem read_eq_ok_iff {memory : Memory} {address length : Nat} {data : List UInt8} :
    memory.read address length = .ok data ↔
      data.length = length ∧ address + length ≤ memory.size ∧ memory.Holds address data := by
  unfold read
  constructor
  · intro success
    split at success
    · next fits =>
      cases success
      unfold size at fits
      have sameLength : (memory.slice ⟨address, address + length⟩).length = length := by
        simp [slice]
        omega
      refine ⟨sameLength, fits, ?_⟩
      intro index inside
      rw [sameLength] at inside
      simp only [slice, Array.getElem?_toList, Array.getElem?_extract]
      rw [if_pos (by omega)]
    · cases success
  · rintro ⟨rfl, fits, holds⟩
    rw [if_pos fits]
    unfold size at fits
    congr 1
    apply List.ext_getElem?
    intro index
    simp only [slice, Array.getElem?_toList, Array.getElem?_extract]
    split
    · exact holds index (by omega)
    · rw [List.getElem?_eq_none (by omega)]

/-- A read fails exactly where its bytes leave memory. -/
theorem read_eq_error_iff {memory : Memory} {address length : Nat} {error : Error} :
    memory.read address length = .error error ↔
      memory.size < address + length ∧ error = .outOfBounds address length memory.size := by
  unfold read
  by_cases fits : address + length ≤ memory.size
  · rw [if_pos fits]
    simp [Nat.not_lt_of_le fits]
  · rw [if_neg fits]
    simp [Nat.lt_of_not_le fits, eq_comm]

theorem readByte_eq_ok_iff {memory : Memory} {address : Nat} {byte : UInt8} :
    memory.readByte address = .ok byte ↔ memory.bytes[address]? = some byte := by
  unfold readByte
  split
  · next inside => simp [Array.getElem?_eq_getElem inside]
  · next outside => simp [Array.getElem?_eq_none (Nat.le_of_not_lt outside)]

/-- A word is read exactly where its two bytes stand. -/
theorem readUInt16_eq_ok_iff {memory : Memory} {address : Nat} {word : UInt16} :
    memory.readUInt16 address = .ok word ↔
      memory.Holds address (toLittleEndian 2 word.toNat) := by
  unfold readUInt16
  rw [except_map_eq_ok]
  constructor
  · rintro ⟨data, read, rfl⟩
    obtain ⟨two, _, holds⟩ := read_eq_ok_iff.1 read
    have bound := littleEndian_lt data
    rw [two] at bound
    rw [UInt16.toNat_ofNat_of_lt' bound, ← two, toLittleEndian_littleEndian]
    exact holds
  · intro holds
    have fits := holds.fits (by simp)
    rw [length_toLittleEndian] at fits
    refine ⟨_, read_eq_ok_iff.2 ⟨length_toLittleEndian 2 _, fits, holds⟩, ?_⟩
    have bound : word.toNat < byteRange 2 := word.toNat_lt
    rw [littleEndian_toLittleEndian, Nat.mod_eq_of_lt bound, UInt16.ofNat_toNat]

/-- A 32-bit number is read exactly where its four bytes stand. -/
theorem readInt32_eq_ok_iff {memory : Memory} {address : Nat} {value : Int32} :
    memory.readInt32 address = .ok value ↔ memory.Holds address (int32Bytes value) := by
  unfold readInt32
  rw [except_map_eq_ok]
  constructor
  · rintro ⟨data, read, rfl⟩
    obtain ⟨four, _, holds⟩ := read_eq_ok_iff.1 read
    rw [int32Bytes_signExtend four]
    exact holds
  · intro holds
    have four := length_int32Bytes value
    have fits := holds.fits (by omega)
    rw [four] at fits
    exact ⟨_, read_eq_ok_iff.2 ⟨four, fits, holds⟩, signExtend_int32Bytes value⟩

/-- A floating point number is read exactly where its four bytes stand. -/
theorem readSingle_eq_ok_iff {memory : Memory} {address : Nat} {value : Single} :
    memory.readSingle address = .ok value ↔
      memory.Holds address (toLittleEndian 4 value.bits.toNat) := by
  unfold readSingle
  rw [except_map_eq_ok]
  constructor
  · rintro ⟨data, read, rfl⟩
    obtain ⟨four, _, holds⟩ := read_eq_ok_iff.1 read
    have bound := littleEndian_lt data
    rw [four] at bound
    rw [UInt32.toNat_ofNat_of_lt' bound, ← four, toLittleEndian_littleEndian]
    exact holds
  · intro holds
    have fits := holds.fits (by simp)
    rw [length_toLittleEndian] at fits
    refine ⟨_, read_eq_ok_iff.2 ⟨length_toLittleEndian 4 _, fits, holds⟩, ?_⟩
    have bound : value.bits.toNat < byteRange 4 := value.bits.toNat_lt
    rw [littleEndian_toLittleEndian, Nat.mod_eq_of_lt bound, UInt32.ofNat_toNat]

theorem length_slice {memory : Memory} {span : Span} (fits : span.stop ≤ memory.size) :
    (memory.slice span).length = span.stop - span.start := by
  have within : span.stop ≤ memory.bytes.size := fits
  rw [slice, Array.length_toList, Array.size_extract, Nat.min_eq_left within]

/-- Spans that follow each other are one span. -/
theorem slice_append (memory : Memory) {first middle last : Nat} (low : first ≤ middle)
    (high : middle ≤ last) :
    memory.slice ⟨first, middle⟩ ++ memory.slice ⟨middle, last⟩ = memory.slice ⟨first, last⟩ := by
  simp only [slice]
  rw [← Array.toList_append, Array.extract_append_extract, Nat.min_eq_left low, Nat.max_eq_right high]

/-- A span holds the bytes that stand there. -/
theorem Holds.slice_eq {memory : Memory} {address : Nat} {data : List UInt8}
    (holds : memory.Holds address data) (fits : address + data.length ≤ memory.size) :
    memory.slice ⟨address, address + data.length⟩ = data := by
  have read := read_eq_ok_iff.2 ⟨rfl, fits, holds⟩
  rw [Memory.read, if_pos fits] at read
  exact Except.ok.inj read

/-- Memory holds the bytes that it was made of. -/
theorem holds_ofBytes (data : List UInt8) : (ofBytes data.toArray).Holds 0 data := by
  intro index inside
  simp [ofBytes]

theorem length_flatMap_of_forall {α β : Type} {encode : α → List β} {items : List α} {width : Nat}
    (widths : ∀ item ∈ items, (encode item).length = width) :
    (items.flatMap encode).length = items.length * width := by
  induction items with
  | nil => exact (Nat.zero_mul width).symm
  | cons first rest ih =>
    obtain ⟨firstWidth, restWidths⟩ := List.forall_mem_cons.1 widths
    rw [List.flatMap_cons, List.length_append, firstWidth, ih restWidths, List.length_cons,
      Nat.succ_mul, Nat.add_comm]

/-- In a table of records of one width, each record stands at a multiple of the width. -/
theorem Holds.record {α : Type} {memory : Memory} {address width : Nat} {encode : α → List UInt8}
    {items : List α} (widths : ∀ item ∈ items, (encode item).length = width)
    (holds : memory.Holds address (items.flatMap encode)) {index : Nat} {item : α}
    (found : items[index]? = some item) :
    memory.Holds (address + index * width) (encode item) := by
  induction items generalizing address index with
  | nil => cases found
  | cons first rest ih =>
    obtain ⟨firstWidth, restWidths⟩ := List.forall_mem_cons.1 widths
    rw [List.flatMap_cons, holds_append, firstWidth] at holds
    cases index with
    | zero =>
      cases found
      rw [Nat.zero_mul, Nat.add_zero]
      exact holds.1
    | succ index =>
      have later := ih restWidths holds.2 found
      rw [Nat.succ_mul, Nat.add_comm (index * width), ← Nat.add_assoc]
      exact later

end Memory

end MissionScript
