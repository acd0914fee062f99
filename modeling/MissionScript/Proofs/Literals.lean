import MissionScript.Proofs.Grammar
import MissionScript.Proofs.TextRoundTrip

/-!
# Literals that are written and read back

There are nine ways to write an argument that is not an end marker: integers of three widths, floating
point numbers, the two kinds of variables and three kinds of text. A literal is what is written, in one
of these ways, and it is made so that it fits: the bounds of the text are part of it.

The way back has two steps. The decoder cuts the bytes into arguments, of which it knows nothing but
where they end, and only the operand of an argument says what it is worth. So each literal has an
argument of its own (`Literal.argument`), with the bytes of the literal and its worth, and instructions are
put together from these.

Results:
1. `signExtend_toLittleEndian`: numbers of any width up to 32 bits keep their sign.
2. `Literal.bytes_argument`, `Literal.wellFormed_argument` and `Literal.operand_argument`: the argument of a
   literal.
3. `literals_round_trip`: instructions with literals.
-/

namespace MissionScript

/-! ## 1. Literals -/

/-- A text that has no zero character and takes at most the given number of bytes. -/
structure BoundedText (most : Nat) where
  text : String
  nonzero : '\x00' ∉ text.toList
  short : (Text.encode text).length ≤ most

namespace BoundedText

variable {most : Nat}

def bytes (text : BoundedText most) : List UInt8 := Text.encode text.text

/-- The bytes of the text, filled up with zeros to the greatest number. -/
def padded (text : BoundedText most) : List UInt8 :=
  text.bytes ++ List.replicate (most - text.bytes.length) 0

theorem length_padded (text : BoundedText most) : text.padded.length = most := by
  rw [padded, List.length_append, List.length_replicate]
  exact Nat.add_sub_cancel' text.short

theorem decodeTerminated_padded (text : BoundedText most) :
    Text.decodeTerminated text.padded = text.text :=
  Text.decodeTerminated_padded text.nonzero _

theorem decodeTerminated_bytes (text : BoundedText most) :
    Text.decodeTerminated text.bytes = text.text := by
  have unpadded := Text.decodeTerminated_padded text.nonzero 0
  rwa [List.replicate_zero, List.append_nil] at unpadded

end BoundedText

/-- A literal or variable, in one of the ways in which it can be written. -/
inductive Literal where
  | int8 (value : Int8)
  | int16 (value : Int16)
  | int32 (value : Int32)
  | float (value : Single)
  | globalVar (address : UInt16)
  | localVar (index : UInt16)
  | string8 (text : BoundedText 8)
  | varString (text : BoundedText 255)
  /-- The first byte takes the place of the tag, so it must not be a type code. -/
  | inlineString (text : BoundedText 8) (first : UInt8) (rest : List UInt8)
      (starts : text.bytes = first :: rest) (above : DataType.maxTypeCode < first)

namespace Literal

/-- The bytes that the format prescribes for a literal. -/
def bytes : Literal → List UInt8
  | .int8 value => 0x04 :: toLittleEndian 1 value.toUInt8.toNat
  | .int16 value => 0x05 :: toLittleEndian 2 value.toUInt16.toNat
  | .int32 value => 0x01 :: int32Bytes value
  | .float value => 0x06 :: toLittleEndian 4 value.bits.toNat
  | .globalVar address => 0x02 :: toLittleEndian 2 address.toNat
  | .localVar index => 0x03 :: toLittleEndian 2 index.toNat
  | .string8 text => 0x09 :: text.padded
  | .varString text => 0x0E :: UInt8.ofNat text.bytes.length :: text.bytes
  | .inlineString text _ _ _ _ => text.padded

/-- What a literal is worth: integers keep their value in 32 bits, floating point numbers their bits. -/
def operand : Literal → Operand
  | .int8 value => .int value.toInt32
  | .int16 value => .int value.toInt32
  | .int32 value => .int value
  | .float value => .float value
  | .globalVar address => .globalVar address.toNat
  | .localVar index => .localVar index.toNat
  | .string8 text => .text text.text
  | .varString text => .text text.text
  | .inlineString text _ _ _ _ => .text text.text

/-- The argument that a literal is read as. -/
def argument : Literal → Argument
  | .int8 value => ⟨.int8, toLittleEndian 1 value.toUInt8.toNat⟩
  | .int16 value => ⟨.int16, toLittleEndian 2 value.toUInt16.toNat⟩
  | .int32 value => ⟨.int32, int32Bytes value⟩
  | .float value => ⟨.float32, toLittleEndian 4 value.bits.toNat⟩
  | .globalVar address => ⟨.globalVar, toLittleEndian 2 address.toNat⟩
  | .localVar index => ⟨.localVar, toLittleEndian 2 index.toNat⟩
  | .string8 text => ⟨.string8, text.padded⟩
  | .varString text => ⟨.varString, UInt8.ofNat text.bytes.length :: text.bytes⟩
  | .inlineString text first _ _ _ => ⟨.inlineString first, text.padded.tail⟩

end Literal

/-! ## 2. Numbers -/

theorem littleEndian_of_lt {width value : Nat} (small : value < byteRange width) :
    littleEndian (toLittleEndian width value) = value := by
  rw [littleEndian_toLittleEndian, Nat.mod_eq_of_lt small]

/-- A number that is written in two's complement is read as itself: the bytes of a word stand for the
number that agrees with the word modulo the range of its width. -/
theorem signExtend_toLittleEndian {width word : Nat} (small : word < byteRange width) {value : Int32}
    (signed : value.toInt = (word : Int).bmod (byteRange width)) :
    signExtend (toLittleEndian width word) = value := by
  unfold signExtend
  rw [littleEndian_of_lt small, length_toLittleEndian, ← signed, Int32.ofInt_toInt]

namespace Literal

theorem signExtend_int8 (value : Int8) :
    signExtend (toLittleEndian 1 value.toUInt8.toNat) = value.toInt32 := by
  apply signExtend_toLittleEndian value.toUInt8.toNat_lt
  rw [Int8.toInt_toInt32]
  exact BitVec.toInt_eq_toNat_bmod value.toBitVec

theorem signExtend_int16 (value : Int16) :
    signExtend (toLittleEndian 2 value.toUInt16.toNat) = value.toInt32 := by
  apply signExtend_toLittleEndian value.toUInt16.toNat_lt
  rw [Int16.toInt_toInt32]
  exact BitVec.toInt_eq_toNat_bmod value.toBitVec

end Literal

/-! ## 3. Arguments -/

/-- A tag above the type codes is the first character of a text. -/
theorem DataType.ofTag?_of_above {first : UInt8} (above : maxTypeCode < first) :
    ofTag? first = some (.inlineString first) := by
  have apart : ∀ code ≤ maxTypeCode, first ≠ code := by
    rintro code notAbove rfl
    exact absurd above (UInt8.not_lt.2 notAbove)
  unfold ofTag?
  rw [if_neg (apart _ (by decide)), if_neg (apart _ (by decide)), if_neg (apart _ (by decide)),
    if_neg (apart _ (by decide)), if_neg (apart _ (by decide)), if_neg (apart _ (by decide)),
    if_neg (apart _ (by decide)), if_neg (apart _ (by decide)), if_neg (apart _ (by decide)),
    if_pos above]

namespace Literal

/-- The argument of a literal has its bytes. -/
theorem bytes_argument (literal : Literal) : literal.argument.bytes = literal.bytes := by
  cases literal with
  | inlineString text first rest starts above =>
    simp only [argument, Argument.bytes, bytes, DataType.tag, BoundedText.padded, starts,
      List.cons_append, List.tail_cons]
  | _ => rfl

theorem isEnd_argument (literal : Literal) : literal.argument.isEnd = false := by
  cases literal <;> rfl

/-- It is well formed. -/
theorem wellFormed_argument (literal : Literal) : literal.argument.WellFormed := by
  cases literal with
  | string8 text => exact ⟨rfl, text.length_padded⟩
  | varString text =>
    refine ⟨rfl, UInt8.ofNat text.bytes.length, rfl, ?_⟩
    exact UInt8.toNat_ofNat_of_lt' (Nat.lt_succ_of_le text.short)
  | inlineString text first rest starts above =>
    refine ⟨DataType.ofTag?_of_above above, ?_⟩
    show text.padded.tail.length = 7
    rw [List.length_tail, text.length_padded]
  | _ => exact ⟨rfl, length_toLittleEndian _ _⟩

/-- It is worth what the literal is worth. -/
theorem operand_argument (literal : Literal) : literal.argument.operand = literal.operand := by
  cases literal with
  | int8 value => exact congrArg Operand.int (signExtend_int8 value)
  | int16 value => exact congrArg Operand.int (signExtend_int16 value)
  | int32 value => exact congrArg Operand.int (signExtend_int32Bytes value)
  | float value =>
    show Operand.float ⟨UInt32.ofNat (littleEndian (toLittleEndian 4 value.bits.toNat))⟩ = .float value
    rw [littleEndian_of_lt value.bits.toNat_lt, UInt32.ofNat_toNat]
  | globalVar address => exact congrArg Operand.globalVar (littleEndian_of_lt address.toNat_lt)
  | localVar index => exact congrArg Operand.localVar (littleEndian_of_lt index.toNat_lt)
  | string8 text => exact congrArg Operand.text text.decodeTerminated_padded
  | varString text => exact congrArg Operand.text text.decodeTerminated_bytes
  | inlineString text first rest starts above =>
    have joined : first :: text.padded.tail = text.padded := by
      rw [BoundedText.padded, starts, List.cons_append, List.tail_cons]
    show Operand.text (Text.decodeTerminated (first :: text.padded.tail)) = .text text.text
    rw [joined, text.decodeTerminated_padded]

end Literal

/-! ## 4. Instructions -/

/-- As many arguments as there are single parameters split over them. -/
theorem splits_of_singles {params : List Param} {args : List Argument}
    (singles : ∀ param ∈ params, param.kind.isVariadic = false)
    (count : args.length = params.length) (plain : ∀ argument ∈ args, argument.isEnd = false) :
    Splits params args := by
  induction params generalizing args with
  | nil =>
    rw [List.length_eq_zero_iff.1 count]
    exact .nil
  | cons param params ih =>
    cases args with
    | nil => cases count
    | cons argument args =>
      obtain ⟨isSingle, singles⟩ := List.forall_mem_cons.1 singles
      obtain ⟨notEnd, plain⟩ := List.forall_mem_cons.1 plain
      have splits := ih singles (Nat.succ.inj count) plain
      obtain ⟨name, kind⟩ := param
      cases kind with
      | single constraint => exact .single notEnd splits
      | variadic constraint => cases isSingle

/-- Literals that are written behind the opcode of an instruction with as many single parameters are read
back: the instruction is decoded, whether negated or not, at whatever address it stands, and its operands
are what the literals are worth. -/
theorem literals_round_trip {H : Type} {registry : Registry H} {word : UInt16}
    {definition : Definition} {negated : Bool}
    (known : registry.lookup? word = some (definition, negated)) {literals : List Literal}
    (singles : ∀ param ∈ definition.params, param.kind.isVariadic = false)
    (count : literals.length = definition.params.length) {memory : Memory} {address : Nat}
    (holds : memory.Holds address (toLittleEndian 2 word.toNat ++ literals.flatMap Literal.bytes)) :
    ∃ args, registry.decode memory address = .ok ⟨address, definition.opcode, negated, args⟩ ∧
      args.map Argument.operand = literals.map Literal.operand := by
  have sameBytes : (literals.map Literal.argument).flatMap Argument.bytes =
      literals.flatMap Literal.bytes := by
    rw [List.flatMap_map]
    exact congrArg literals.flatMap (funext Literal.bytes_argument)
  obtain ⟨wordHeld, argsHeld⟩ := Memory.holds_append.1 holds
  rw [length_toLittleEndian, ← sameBytes] at argsHeld
  have splits : Splits definition.params (literals.map Literal.argument) := by
    refine splits_of_singles singles ((List.length_map _).trans count) ?_
    exact List.forall_mem_map.2 fun literal _ => literal.isEnd_argument
  refine ⟨literals.map Literal.argument, ?_, ?_⟩
  · refine Registry.decode_eq_ok_iff.2 ⟨word, definition, known, rfl, rfl, wordHeld, splits, ?_, argsHeld⟩
    exact List.forall_mem_map.2 fun literal _ => literal.wellFormed_argument
  · rw [List.map_map]
    exact congrArg (List.map · literals) (funext Literal.operand_argument)

namespace LiteralsExample

/-- A record with nine arguments, which may be anything. -/
def record : Record := ⟨⟨0x0456⟩, 9, "shows everything"⟩

def draft : Registry.Draft Unit := { Registry.Draft.empty with records := Table.empty.insert 0x0456 record }

def registry : Registry Unit := draft.build.toOption.getD ⟨.empty⟩

/-- Each kind at an end of its range: the least integers, a float that is no number, the last global and
the first local variable, a text of no bytes, one that is not padded and one that starts with no letter. -/
def literals : List Literal := [
  .int8 (-128), .int16 (-32768), .int32 (-2147483648), .float ⟨0xFFC00001⟩, .globalVar 0xFFFF,
  .localVar 0, .string8 ⟨"", by decide, by decide⟩, .varString ⟨"m\u00FCll", by decide, by decide⟩,
  .inlineString ⟨"\u00E9t\u00E9", by decide, by decide⟩ 0xC3 [0xA9, 0x74, 0xC3, 0xA9] (by decide)
    (by decide)]

/-- The instruction between two bytes that are not part of it. -/
def memory : Memory := Memory.ofBytes #[0xAA,
  0x56, 0x84, 0x04, 0x80, 0x05, 0x00, 0x80, 0x01, 0x00, 0x00, 0x00, 0x80, 0x06, 0x01, 0x00, 0xC0, 0xFF,
  0x02, 0xFF, 0xFF, 0x03, 0x00, 0x00, 0x09, 0, 0, 0, 0, 0, 0, 0, 0,
  0x0E, 0x05, 0x6D, 0xC3, 0xBC, 0x6C, 0x6C, 0xC3, 0xA9, 0x74, 0xC3, 0xA9, 0, 0, 0,
  0xBB]

end LiteralsExample

open LiteralsExample in
/-- The negated instruction with one literal of each kind is read back. -/
theorem nine_literals_read_back :
    registry.lookup? 0x8456 = some (record.definition none, true) ∧
      memory.Holds 1 (toLittleEndian 2 (0x8456 : UInt16).toNat ++ literals.flatMap Literal.bytes) ∧
      ∃ args, registry.decode memory 1 = .ok ⟨1, ⟨0x0456⟩, true, args⟩ ∧
        args.map Argument.operand = [
          .int (-128), .int (-32768), .int (-2147483648), .float ⟨0xFFC00001⟩, .globalVar 0xFFFF,
          .localVar 0, .text "", .text "m\u00FCll", .text "\u00E9t\u00E9"] := by
  have known : registry.lookup? 0x8456 = some (record.definition none, true) := rfl
  have holds : memory.Holds 1
      (toLittleEndian 2 (0x8456 : UInt16).toNat ++ literals.flatMap Literal.bytes) := by
    unfold Memory.Holds
    decide
  have singles : ∀ param ∈ (record.definition none).params, param.kind.isVariadic = false := by
    decide
  exact ⟨known, holds, literals_round_trip known singles rfl holds⟩

end MissionScript
