import MissionScript.Proofs.Grammar

/-!
# Instructions that are cut off

When memory ends in the middle of an instruction, the decoder notices: wherever the end falls, in the
opcode, behind it, in a tag, a length byte or a payload or between two arguments, the access that crosses
it fails. What is left of the instruction is never taken for a shorter one, nor for something unknown.

The decoder reads from left to right, and up to the end it reads the same bytes as in the whole memory.
So each of its parts either lies before the end and is read as before, or is the one that the end cuts
off. The proofs follow the parts: an argument, the arguments of a variadic parameter, those of all
parameters, the instruction.

Results:
1. `decodeArgument_kept` and `decodeArgument_cut`: one argument before the end, and across it.
2. `decodeVariadic_cut` and `decodeParams_cut`: lists of arguments.
3. `cut_instruction_crosses_end`: the instruction.
-/

namespace MissionScript

/-! ## 1. Memories that end early -/

/-- A memory holds the same bytes as another one, up to its own end. -/
def Memory.Begins (cut memory : Memory) : Prop :=
  ∀ index, index < cut.size → cut.bytes[index]? = memory.bytes[index]?

/-- An error of an access that starts at or before the end of memory and goes beyond it. The access lies
between two addresses. -/
def Error.CrossesEnd (error : Error) (size low high : Nat) : Prop :=
  ∃ address length, error = .outOfBounds address length size ∧ low ≤ address ∧ address ≤ size ∧
    size < address + length ∧ address + length ≤ high

theorem Error.CrossesEnd.mono {error : Error} {size low high lower higher : Nat}
    (crosses : error.CrossesEnd size low high) (below : lower ≤ low) (above : high ≤ higher) :
    error.CrossesEnd size lower higher := by
  obtain ⟨address, length, rfl, notBefore, inside, beyond, notBehind⟩ := crosses
  exact ⟨address, length, rfl, Nat.le_trans below notBefore, inside, beyond,
    Nat.le_trans notBehind above⟩

namespace Memory

variable {memory cut : Memory} {address length : Nat}

/-- The first bytes of a memory are a memory that begins like it. -/
theorem begins_of_extract {size : Nat} (first : cut.bytes = memory.bytes.extract 0 size) :
    cut.Begins memory := by
  intro index inside
  unfold Memory.size at inside
  rw [first, Array.size_extract] at inside
  rw [first, Array.getElem?_extract, if_pos inside, Nat.zero_add]

theorem size_of_extract {size : Nat} (first : cut.bytes = memory.bytes.extract 0 size)
    (inside : size ≤ memory.size) : cut.size = size := by
  unfold Memory.size at inside ⊢
  rw [first, Array.size_extract, Nat.min_eq_left inside, Nat.sub_zero]

/-- What stands before the end stands there in both. -/
theorem Begins.holds (begins : cut.Begins memory) {data : List UInt8}
    (holds : memory.Holds address data) (before : address + data.length ≤ cut.size) :
    cut.Holds address data := by
  apply holds.congr
  intro index _ high
  exact begins index (Nat.lt_of_lt_of_le high before)

theorem readByte_of_end (outside : memory.size ≤ address) :
    memory.readByte address = .error (.outOfBounds address 1 memory.size) :=
  dif_neg (Nat.not_lt_of_le outside)

/-- A read that begins before the end and goes beyond it fails. -/
theorem read_crosses {low high : Nat} (notBefore : low ≤ address) (inside : address ≤ cut.size)
    (beyond : cut.size < address + length) (notBehind : address + length ≤ high) :
    ∃ error, cut.read address length = .error error ∧ error.CrossesEnd cut.size low high :=
  ⟨_, read_eq_error_iff.2 ⟨beyond, rfl⟩, address, length, rfl, notBefore, inside, beyond, notBehind⟩

theorem readByte_crosses {low high : Nat} (notBefore : low ≤ address) (isEnd : address = cut.size)
    (notBehind : address + 1 ≤ high) :
    ∃ error, cut.readByte address = .error error ∧ error.CrossesEnd cut.size low high :=
  ⟨_, readByte_of_end (Nat.le_of_eq isEnd.symm), address, 1, rfl, notBefore, Nat.le_of_eq isEnd,
    by omega, notBehind⟩

end Memory

/-! ## 2. One argument -/

section Arguments

variable {memory cut : Memory} {address : Nat} {mayEnd : Bool} {argument : Argument}

/-- An argument that ends before the end of memory is read as before. -/
theorem decodeArgument_kept (begins : cut.Begins memory)
    (decoded : decodeArgument memory address mayEnd = .ok argument)
    (before : address + argument.byteLength ≤ cut.size) :
    decodeArgument cut address mayEnd = .ok argument := by
  obtain ⟨wellFormed, allowed, holds⟩ := decodeArgument_sound decoded
  apply decodeArgument_complete wellFormed allowed
  apply begins.holds holds
  rw [argument.length_bytes]
  exact before

/-- An argument that the end of memory cuts off fails with an access across it: that of its tag, of its
length byte or of its payload. -/
theorem decodeArgument_cut (begins : cut.Begins memory)
    (decoded : decodeArgument memory address mayEnd = .ok argument) (inside : address ≤ cut.size)
    (beyond : cut.size < address + argument.byteLength) :
    ∃ error, decodeArgument cut address mayEnd = .error error ∧
      error.CrossesEnd cut.size address (address + argument.byteLength) := by
  obtain ⟨⟨ownTag, width⟩, allowed, holds⟩ := decodeArgument_sound decoded
  obtain ⟨dataType, payload⟩ := argument
  obtain ⟨tagHeld, payloadHeld⟩ := Argument.holds_bytes.1 holds
  unfold Argument.byteLength at beyond ⊢
  simp only at ownTag width allowed payloadHeld tagHeld beyond ⊢
  unfold decodeArgument
  rcases Nat.eq_or_lt_of_le inside with isEnd | tagInside
  · obtain ⟨error, failed, crosses⟩ := Memory.readByte_crosses (Nat.le_refl address) isEnd
      (show address + 1 ≤ address + (1 + payload.length) by omega)
    rw [failed]
    exact ⟨error, rfl, crosses⟩
  have tagRead : cut.readByte address = .ok dataType.tag := by
    rw [Memory.readByte_eq_ok_iff, begins address tagInside]
    exact tagHeld
  have notRefused : ¬(dataType = .endMarker ∧ mayEnd = false) := by
    rintro ⟨isMarker, refused⟩
    rw [allowed (Argument.isEnd_iff.2 isMarker)] at refused
    cases refused
  simp only [tagRead, ownTag, if_neg notRefused]
  -- Whatever the width, it is that of the payload, and reading the payload would cross the end.
  have payloadCrosses : ∃ error, cut.read (address + 1) payload.length = .error error ∧
      error.CrossesEnd cut.size address (address + (1 + payload.length)) :=
    Memory.read_crosses (Nat.le_succ address) tagInside (by omega) (by omega)
  split
  · next fixed isFixed =>
    rw [isFixed] at width
    obtain ⟨error, failed, crosses⟩ := payloadCrosses
    rw [← width, failed]
    exact ⟨error, rfl, crosses⟩
  · next prefixed =>
    rw [prefixed] at width
    obtain ⟨first, isHead, isLength⟩ := width
    cases payload with
    | nil => cases isHead
    | cons head characters =>
      cases isHead
      rcases Nat.eq_or_lt_of_le tagInside with isEnd | lengthInside
      · obtain ⟨error, failed, crosses⟩ := Memory.readByte_crosses (Nat.le_succ address) isEnd
          (show address + 1 + 1 ≤ address + (1 + (first :: characters).length) by
            rw [List.length_cons]
            omega)
        simp only [failed]
        exact ⟨error, rfl, crosses⟩
      · have lengthRead : cut.readByte (address + 1) = .ok first := by
          rw [Memory.readByte_eq_ok_iff, begins _ lengthInside]
          exact (Memory.holds_cons.1 payloadHeld).1
        obtain ⟨error, failed, crosses⟩ := payloadCrosses
        simp only [List.length_cons, Nat.add_sub_cancel] at isLength failed
        simp only [lengthRead]
        rw [isLength, Nat.add_comm 1, failed]
        exact ⟨error, rfl, crosses⟩

end Arguments

/-! ## 3. Lists of arguments -/

/-- What is read for a variadic parameter is an end marker, or another argument and what is read behind
it. -/
theorem decodeVariadic_eq_ok {memory : Memory} {left address : Nat} {args : List Argument}
    (success : decodeVariadic memory (left + 1) address = .ok args) :
    ∃ argument rest, args = argument :: rest ∧ decodeArgument memory address true = .ok argument ∧
      (argument.isEnd = true ∧ rest = [] ∨ argument.isEnd = false ∧
        decodeVariadic memory left (address + argument.byteLength) = .ok rest) := by
  unfold decodeVariadic at success
  split at success
  · cases success
  next argument decoded =>
  split at success
  · next isEnd =>
    cases success
    exact ⟨argument, [], rfl, decoded, Or.inl ⟨isEnd, rfl⟩⟩
  · next notEnd =>
    obtain ⟨rest, decodedRest, rfl⟩ := except_map_eq_ok.1 success
    exact ⟨argument, rest, rfl, decoded, Or.inr ⟨Bool.eq_false_iff.2 notEnd, decodedRest⟩⟩

/-- The end of memory cuts off one of the arguments of a variadic parameter, or stands right before one.
The decoder does not give up earlier: it is prepared for as many arguments as there are bytes. -/
theorem decodeVariadic_cut {memory cut : Memory} (begins : cut.Begins memory)
    {left cutLeft address : Nat} {args : List Argument}
    (decoded : decodeVariadic memory left address = .ok args) (enough : cut.size - address ≤ cutLeft)
    (inside : address ≤ cut.size) (beyond : cut.size < address + argumentsLength args) :
    ∃ error, decodeVariadic cut cutLeft address = .error error ∧
      error.CrossesEnd cut.size address (address + argumentsLength args) := by
  induction left generalizing cutLeft address args with
  | zero => cases decoded
  | succ left ih =>
    obtain ⟨argument, rest, rfl, first, others⟩ := decodeVariadic_eq_ok decoded
    rw [argumentsLength, ← Nat.add_assoc] at beyond ⊢
    cases cutLeft with
    | zero =>
      have isEnd : cut.size ≤ address := Nat.le_of_sub_eq_zero (Nat.le_zero.1 enough)
      refine ⟨_, rfl, address, 1, rfl, Nat.le_refl address, inside, Nat.lt_succ_of_le isEnd, ?_⟩
      unfold Argument.byteLength
      omega
    | succ cutLeft =>
      unfold decodeVariadic
      rcases Nat.lt_or_ge cut.size (address + argument.byteLength) with cutOff | kept
      · obtain ⟨error, failed, crosses⟩ := decodeArgument_cut begins first inside cutOff
        rw [failed]
        exact ⟨error, rfl, crosses.mono (Nat.le_refl _) (Nat.le_add_right _ _)⟩
      · simp only [decodeArgument_kept begins first kept]
        rcases others with ⟨_, rfl⟩ | ⟨notEnd, decodedRest⟩
        · exact absurd beyond (Nat.not_lt_of_le kept)
        · have fewer : cut.size - (address + argument.byteLength) ≤ cutLeft := by
            unfold Argument.byteLength
            omega
          obtain ⟨error, failed, crosses⟩ := ih decodedRest fewer kept beyond
          rw [notEnd, if_neg Bool.false_ne_true, failed]
          exact ⟨error, rfl, crosses.mono (Nat.le_add_right _ _) (Nat.le_refl _)⟩

/-- What is read for a variadic parameter before the end of memory is read as before. -/
theorem decodeVariadic_kept {memory cut : Memory} (begins : cut.Begins memory) {left address : Nat}
    {args : List Argument} (decoded : decodeVariadic memory left address = .ok args)
    (before : address + argumentsLength args ≤ cut.size) :
    decodeVariadic cut (cut.size - address) address = .ok args := by
  obtain ⟨taken, marker, rfl, plain, isMarker, wellFormed, holds⟩ := decodeVariadic_sound decoded
  have cutHolds : cut.Holds address ((taken ++ [marker]).flatMap Argument.bytes) := by
    apply begins.holds holds
    rw [length_flatMap_bytes]
    exact before
  refine decodeVariadic_complete plain isMarker wellFormed cutHolds ?_
  have counted := length_le_argumentsLength (taken ++ [marker])
  omega

/-- The end of memory cuts off the arguments of one of the parameters, or stands right before them. -/
theorem decodeParams_cut {memory cut : Memory} (begins : cut.Begins memory) {params : List Param}
    {address : Nat} {args : List Argument} (decoded : decodeParams memory params address = .ok args)
    (inside : address ≤ cut.size) (beyond : cut.size < address + argumentsLength args) :
    ∃ error, decodeParams cut params address = .error error ∧
      error.CrossesEnd cut.size address (address + argumentsLength args) := by
  induction params generalizing address args with
  | nil =>
    cases decoded
    exact absurd beyond (Nat.not_lt_of_le inside)
  | cons param params ih =>
    obtain ⟨name, kind⟩ := param
    unfold decodeParams at decoded ⊢
    cases kind with
    | single constraint =>
      simp only at decoded ⊢
      split at decoded
      · cases decoded
      next argument first =>
      obtain ⟨rest, decodedRest, rfl⟩ := except_map_eq_ok.1 decoded
      rw [argumentsLength, ← Nat.add_assoc] at beyond ⊢
      rcases Nat.lt_or_ge cut.size (address + argument.byteLength) with cutOff | kept
      · obtain ⟨error, failed, crosses⟩ := decodeArgument_cut begins first inside cutOff
        rw [failed]
        exact ⟨error, rfl, crosses.mono (Nat.le_refl _) (Nat.le_add_right _ _)⟩
      · obtain ⟨error, failed, crosses⟩ := ih decodedRest kept beyond
        simp only [decodeArgument_kept begins first kept, failed]
        exact ⟨error, rfl, crosses.mono (Nat.le_add_right _ _) (Nat.le_refl _)⟩
    | variadic constraint =>
      simp only at decoded ⊢
      split at decoded
      · cases decoded
      next own first =>
      obtain ⟨rest, decodedRest, rfl⟩ := except_map_eq_ok.1 decoded
      rw [argumentsLength_append, ← Nat.add_assoc] at beyond ⊢
      rcases Nat.lt_or_ge cut.size (address + argumentsLength own) with cutOff | kept
      · obtain ⟨error, failed, crosses⟩ :=
          decodeVariadic_cut begins first (Nat.le_refl _) inside cutOff
        rw [failed]
        exact ⟨error, rfl, crosses.mono (Nat.le_refl _) (Nat.le_add_right _ _)⟩
      · obtain ⟨error, failed, crosses⟩ := ih decodedRest kept beyond
        simp only [decodeVariadic_kept begins first kept, failed]
        exact ⟨error, rfl, crosses.mono (Nat.le_add_right _ _) (Nat.le_refl _)⟩

/-! ## 4. Instructions -/

/-- An instruction that the end of memory cuts off is never read as anything: the decoder fails with the
access across the end, which is part of the instruction. An instruction that ends before it is read as
before. -/
theorem cut_instruction_crosses_end {H : Type} {registry : Registry H} {memory : Memory}
    {address : Nat} {instruction : Instruction}
    (decoded : registry.decode memory address = .ok instruction) {size : Nat} {cut : Memory}
    (firstBytes : cut.bytes = memory.bytes.extract 0 size) :
    (address ≤ size → size < instruction.next →
      ∃ error, registry.decode cut address = .error error ∧
        error.CrossesEnd size address instruction.next) ∧
    (instruction.next ≤ size → registry.decode cut address = .ok instruction) := by
  have begins := Memory.begins_of_extract firstBytes
  have fits := Registry.decode_next_le decoded
  refine ⟨fun inside beyond => ?_, fun behind => ?_⟩
  · have isSize : cut.size = size :=
      Memory.size_of_extract firstBytes (Nat.le_trans (Nat.le_of_lt beyond) fits)
    subst isSize
    unfold Registry.decode at decoded ⊢
    split at decoded
    · cases decoded
    next word wordRead =>
    split at decoded
    · cases decoded
    next definition negated found =>
    obtain ⟨args, decodedArgs, rfl⟩ := except_map_eq_ok.1 decoded
    have isNext : Instruction.next ⟨address, definition.opcode, negated, args⟩ =
        address + Opcode.width + argumentsLength args := (Nat.add_assoc _ _ _).symm
    rw [isNext] at beyond ⊢
    rcases Nat.lt_or_ge cut.size (address + Opcode.width) with cutOff | kept
    · obtain ⟨error, failed, crosses⟩ : ∃ error, cut.read address 2 = .error error ∧
          error.CrossesEnd cut.size address (address + Opcode.width + argumentsLength args) :=
        Memory.read_crosses (Nat.le_refl address) inside cutOff (Nat.le_add_right _ _)
      rw [Memory.readUInt16, failed]
      exact ⟨error, rfl, crosses⟩
    · have sameWord : cut.readUInt16 address = .ok word := by
        rw [Memory.readUInt16_eq_ok_iff] at wordRead ⊢
        exact begins.holds wordRead (by rwa [length_toLittleEndian])
      obtain ⟨error, failed, crosses⟩ := decodeParams_cut begins decodedArgs kept beyond
      simp only [sameWord, found, failed]
      exact ⟨error, rfl, crosses.mono (Nat.le_add_right _ _) (Nat.le_refl _)⟩
  · apply Registry.decode_congr decoded
    intro index _ before
    apply begins
    rw [Memory.size, firstBytes, Array.size_extract, Nat.sub_zero]
    exact Nat.lt_of_lt_of_le before (Nat.le_min.2 ⟨behind, fits⟩)

open GrammarExample in
/-- An end in the length-prefixed string, right behind its first character: the payload starts at its
length byte and would go one byte further than memory does. -/
theorem cut_string_crosses_end :
    registry.decode memory 1 = .ok instruction ∧ instruction.next = 19 ∧
      ∃ error, registry.decode (.ofBytes (memory.bytes.extract 0 8)) 1 = .error error ∧
        error.CrossesEnd 8 1 19 ∧ error = .outOfBounds 6 3 8 := by
  have decoded : registry.decode memory 1 = .ok instruction := rfl
  have firstBytes : (Memory.ofBytes (memory.bytes.extract 0 8)).bytes = memory.bytes.extract 0 8 := rfl
  obtain ⟨error, failed, crosses⟩ :=
    (cut_instruction_crosses_end decoded firstBytes).1 (by decide) (by decide)
  refine ⟨decoded, rfl, error, failed, crosses, ?_⟩
  cases failed
  rfl

end MissionScript
