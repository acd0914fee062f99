import MissionScript.Instruction
import MissionScript.Proofs.Contents
import MissionScript.Proofs.Registries

/-!
# The grammar of instructions

The decoder is one reading of the format; this module gives the other one, as a grammar. An argument
is well formed when its tag stands for its data type and its payload has the width that goes with
the tag. A list of arguments splits over parameters: one argument that is no end marker for a single
parameter, and any number of them up to and including an end marker for a variadic one.

Results:
1. `decodeParams_sound` and `decodeParams_complete`: the arguments that are read for parameters are
   exactly the well-formed ones that split over them and stand there.
2. `Registry.decode_congr`: what is read depends on no byte outside the instruction.
3. `decode_accepts_exactly`: the decoder accepts exactly the grammar.
-/

namespace MissionScript

/-! ## 1. The grammar -/

/-- The tag stands for the data type, and the payload is as wide as the tag says. The payload of a
length-prefixed string says so itself, in its first byte. -/
structure Argument.WellFormed (argument : Argument) : Prop where
  tag : DataType.ofTag? argument.dataType.tag = some argument.dataType
  width : match argument.dataType.width? with
    | some width => argument.payload.length = width
    | none => ∃ first, argument.payload.head? = some first ∧
        first.toNat = argument.payload.length - 1

/-- `Splits params args`: the arguments are, in order, those of the parameters. -/
inductive Splits : List Param → List Argument → Prop
  | nil : Splits [] []
  | single {name : String} {constraint : Constraint} {params : List Param} {argument : Argument}
      {args : List Argument} :
      argument.isEnd = false → Splits params args →
      Splits (⟨name, .single constraint⟩ :: params) (argument :: args)
  | variadic {name : String} {constraint : Constraint} {params : List Param}
      {taken : List Argument} {marker : Argument} {args : List Argument} :
      (∀ argument ∈ taken, argument.isEnd = false) → marker.isEnd = true → Splits params args →
      Splits (⟨name, .variadic constraint⟩ :: params) (taken ++ marker :: args)

/-! ## 2. Lengths -/

theorem Argument.length_bytes (argument : Argument) :
    argument.bytes.length = argument.byteLength := by
  simp only [bytes, byteLength, List.length_cons]
  omega

theorem length_flatMap_bytes (args : List Argument) :
    (args.flatMap Argument.bytes).length = argumentsLength args := by
  induction args with
  | nil => rfl
  | cons argument rest ih =>
    rw [List.flatMap_cons, List.length_append, argument.length_bytes, ih]
    rfl

theorem argumentsLength_append (left right : List Argument) :
    argumentsLength (left ++ right) = argumentsLength left + argumentsLength right := by
  rw [← length_flatMap_bytes, List.flatMap_append, List.length_append, length_flatMap_bytes,
    length_flatMap_bytes]

theorem length_le_argumentsLength (args : List Argument) : args.length ≤ argumentsLength args := by
  induction args with
  | nil => exact Nat.le_refl 0
  | cons argument rest ih =>
    simp only [List.length_cons, argumentsLength, Argument.byteLength]
    omega

theorem Instruction.length_bytes (instruction : Instruction) :
    instruction.bytes.length = instruction.byteLength := by
  simp only [bytes, byteLength, List.length_append, length_flatMap_bytes, Opcode.bytes,
    length_toLittleEndian]

/-! ## 3. Arguments -/

theorem Argument.isEnd_iff {argument : Argument} :
    argument.isEnd = true ↔ argument.dataType = .endMarker := by
  simp [isEnd]

theorem Argument.holds_bytes {memory : Memory} {address : Nat} {argument : Argument} :
    memory.Holds address argument.bytes ↔
      memory.bytes[address]? = some argument.dataType.tag ∧
        memory.Holds (address + 1) argument.payload :=
  Memory.holds_cons

/-- What the decoder reads is well formed, may stand where it stands, and stands there. -/
theorem decodeArgument_sound {memory : Memory} {address : Nat} {mayEnd : Bool} {argument : Argument}
    (success : decodeArgument memory address mayEnd = .ok argument) :
    argument.WellFormed ∧ (argument.isEnd = true → mayEnd = true) ∧
      memory.Holds address argument.bytes := by
  unfold decodeArgument at success
  split at success
  · cases success
  next code tagRead =>
  split at success
  · cases success
  next dataType known =>
  split at success
  · cases success
  next allowed =>
  have tagIs : dataType.tag = code := DataType.tag_of_ofTag? known
  have ownTag : DataType.ofTag? dataType.tag = some dataType := by rw [tagIs, known]
  have endAllowed : dataType = .endMarker → mayEnd = true := by
    intro isEnd
    cases mayEnd with
    | false => exact absurd ⟨isEnd, rfl⟩ allowed
    | true => rfl
  rw [Memory.readByte_eq_ok_iff, ← tagIs] at tagRead
  split at success
  · next width fixed =>
    obtain ⟨payload, read, rfl⟩ := except_map_eq_ok.1 success
    obtain ⟨sameLength, _, holds⟩ := Memory.read_eq_ok_iff.1 read
    refine ⟨⟨ownTag, ?_⟩, fun isEnd => endAllowed (Argument.isEnd_iff.1 isEnd),
      Argument.holds_bytes.2 ⟨tagRead, holds⟩⟩
    simp only [fixed]
    exact sameLength
  · next prefixed =>
    split at success
    · cases success
    next length lengthRead =>
    obtain ⟨payload, read, rfl⟩ := except_map_eq_ok.1 success
    obtain ⟨sameLength, _, holds⟩ := Memory.read_eq_ok_iff.1 read
    refine ⟨⟨ownTag, ?_⟩, fun isEnd => endAllowed (Argument.isEnd_iff.1 isEnd),
      Argument.holds_bytes.2 ⟨tagRead, holds⟩⟩
    simp only [prefixed]
    -- the length byte is read twice: on its own, and as the first byte of the payload
    cases payload with
    | nil =>
      simp only [List.length_nil] at sameLength
      omega
    | cons first characters =>
      rw [Memory.readByte_eq_ok_iff, (Memory.holds_cons.1 holds).1] at lengthRead
      have sameByte : first = length := Option.some.inj lengthRead
      refine ⟨first, rfl, ?_⟩
      rw [sameLength, sameByte]
      omega

/-- What is well formed, may stand where it stands and stands there is read by the decoder. -/
theorem decodeArgument_complete {memory : Memory} {address : Nat} {mayEnd : Bool}
    {argument : Argument} (wellFormed : argument.WellFormed)
    (allowed : argument.isEnd = true → mayEnd = true)
    (holds : memory.Holds address argument.bytes) :
    decodeArgument memory address mayEnd = .ok argument := by
  obtain ⟨dataType, payload⟩ := argument
  obtain ⟨ownTag, width⟩ := wellFormed
  have fits := holds.fits (Nat.zero_lt_succ _)
  simp only [Argument.length_bytes, Argument.byteLength] at fits
  obtain ⟨tagHeld, payloadHeld⟩ := Argument.holds_bytes.1 holds
  have tagRead : memory.readByte address = .ok dataType.tag := Memory.readByte_eq_ok_iff.2 tagHeld
  have notRefused : ¬(dataType = .endMarker ∧ mayEnd = false) := by
    rintro ⟨isEnd, refused⟩
    rw [allowed (Argument.isEnd_iff.2 isEnd)] at refused
    cases refused
  have payloadRead : memory.read (address + 1) payload.length = .ok payload :=
    Memory.read_eq_ok_iff.2 ⟨rfl, by omega, payloadHeld⟩
  unfold decodeArgument
  simp only [tagRead, ownTag, if_neg notRefused]
  split
  · next widthValue fixed =>
    simp only [fixed] at width
    rw [← width, payloadRead]
    rfl
  · next prefixed =>
    simp only [prefixed] at width
    obtain ⟨first, isHead, isLength⟩ := width
    cases payload with
    | nil => cases isHead
    | cons head characters =>
      cases isHead
      have lengthRead : memory.readByte (address + 1) = .ok first :=
        Memory.readByte_eq_ok_iff.2 (Memory.holds_cons.1 payloadHeld).1
      simp only [List.length_cons, Nat.add_sub_cancel] at isLength payloadRead
      rw [lengthRead]
      simp only
      rw [isLength, Nat.add_comm 1, payloadRead]
      rfl

/-! ## 4. Lists of arguments -/

theorem holds_flatMap_cons {memory : Memory} {address : Nat} {argument : Argument}
    {args : List Argument} :
    memory.Holds address ((argument :: args).flatMap Argument.bytes) ↔
      memory.Holds address argument.bytes ∧
        memory.Holds (address + argument.byteLength) (args.flatMap Argument.bytes) := by
  rw [List.flatMap_cons, Memory.holds_append, argument.length_bytes]

theorem holds_flatMap_append {memory : Memory} {address : Nat} {left right : List Argument} :
    memory.Holds address ((left ++ right).flatMap Argument.bytes) ↔
      memory.Holds address (left.flatMap Argument.bytes) ∧
        memory.Holds (address + argumentsLength left) (right.flatMap Argument.bytes) := by
  rw [List.flatMap_append, Memory.holds_append, length_flatMap_bytes]

theorem decodeVariadic_sound {memory : Memory} {left address : Nat} {args : List Argument}
    (success : decodeVariadic memory left address = .ok args) :
    ∃ taken marker, args = taken ++ [marker] ∧ (∀ argument ∈ taken, argument.isEnd = false) ∧
      marker.isEnd = true ∧ (∀ argument ∈ args, argument.WellFormed) ∧
      memory.Holds address (args.flatMap Argument.bytes) := by
  induction left generalizing address args with
  | zero => cases success
  | succ left ih =>
    unfold decodeVariadic at success
    split at success
    · cases success
    next argument decoded =>
    obtain ⟨wellFormed, _, holds⟩ := decodeArgument_sound decoded
    split at success
    · next isEnd =>
      cases success
      refine ⟨[], argument, rfl, ?_, isEnd, ?_, ?_⟩
      · intro other member
        cases member
      · intro other member
        rw [List.mem_singleton.1 member]
        exact wellFormed
      · exact holds_flatMap_cons.2 ⟨holds, Memory.holds_nil _ _⟩
    · next notEnd =>
      obtain ⟨rest, decodedRest, rfl⟩ := except_map_eq_ok.1 success
      obtain ⟨taken, marker, rfl, plain, isMarker, restWellFormed, restHolds⟩ := ih decodedRest
      refine ⟨argument :: taken, marker, rfl, ?_, isMarker, ?_, ?_⟩
      · exact List.forall_mem_cons.2 ⟨Bool.eq_false_iff.2 notEnd, plain⟩
      · exact List.forall_mem_cons.2 ⟨wellFormed, restWellFormed⟩
      · exact holds_flatMap_cons.2 ⟨holds, restHolds⟩

theorem decodeVariadic_complete {memory : Memory} {left address : Nat} {taken : List Argument}
    {marker : Argument} (plain : ∀ argument ∈ taken, argument.isEnd = false)
    (isMarker : marker.isEnd = true)
    (wellFormed : ∀ argument ∈ taken ++ [marker], argument.WellFormed)
    (holds : memory.Holds address ((taken ++ [marker]).flatMap Argument.bytes))
    (enough : (taken ++ [marker]).length ≤ left) :
    decodeVariadic memory left address = .ok (taken ++ [marker]) := by
  induction taken generalizing left address with
  | nil =>
    cases left with
    | zero => cases enough
    | succ left =>
      obtain ⟨here, _⟩ := holds_flatMap_cons.1 holds
      have decoded := decodeArgument_complete (wellFormed marker List.mem_cons_self)
        (fun _ => rfl) here
      unfold decodeVariadic
      simp only [decoded, isMarker, if_true, List.nil_append]
  | cons argument rest ih =>
    cases left with
    | zero => cases enough
    | succ left =>
      obtain ⟨here, beyond⟩ := holds_flatMap_cons.1 holds
      obtain ⟨notEnd, restPlain⟩ := List.forall_mem_cons.1 plain
      obtain ⟨first, restWellFormed⟩ := List.forall_mem_cons.1 wellFormed
      have decoded := decodeArgument_complete first (fun _ => rfl) here
      have decodedRest := ih restPlain restWellFormed beyond (Nat.le_of_succ_le_succ enough)
      unfold decodeVariadic
      simp only [decoded, notEnd, Bool.false_eq_true, if_false, decodedRest]
      rfl

theorem decodeParams_sound {memory : Memory} {params : List Param} {address : Nat}
    {args : List Argument} (success : decodeParams memory params address = .ok args) :
    Splits params args ∧ (∀ argument ∈ args, argument.WellFormed) ∧
      memory.Holds address (args.flatMap Argument.bytes) := by
  induction params generalizing address args with
  | nil =>
    cases success
    exact ⟨.nil, List.forall_mem_nil _, Memory.holds_nil _ _⟩
  | cons param params ih =>
    obtain ⟨name, kind⟩ := param
    unfold decodeParams at success
    cases kind with
    | single constraint =>
      simp only at success
      split at success
      · cases success
      next argument decoded =>
      obtain ⟨rest, decodedRest, rfl⟩ := except_map_eq_ok.1 success
      obtain ⟨wellFormed, allowed, holds⟩ := decodeArgument_sound decoded
      obtain ⟨splits, restWellFormed, restHolds⟩ := ih decodedRest
      have notEnd : argument.isEnd = false := by
        cases isEnd : argument.isEnd with
        | false => rfl
        | true => cases allowed isEnd
      exact ⟨.single notEnd splits, List.forall_mem_cons.2 ⟨wellFormed, restWellFormed⟩,
        holds_flatMap_cons.2 ⟨holds, restHolds⟩⟩
    | variadic constraint =>
      simp only at success
      split at success
      · cases success
      next own decoded =>
      obtain ⟨rest, decodedRest, rfl⟩ := except_map_eq_ok.1 success
      obtain ⟨taken, marker, rfl, plain, isMarker, wellFormed, holds⟩ := decodeVariadic_sound decoded
      obtain ⟨splits, restWellFormed, restHolds⟩ := ih decodedRest
      refine ⟨?_, ?_, holds_flatMap_append.2 ⟨holds, restHolds⟩⟩
      · rw [List.append_assoc]
        exact .variadic plain isMarker splits
      · exact List.forall_mem_append.2 ⟨wellFormed, restWellFormed⟩

theorem decodeParams_complete {memory : Memory} {params : List Param} {address : Nat}
    {args : List Argument} (splits : Splits params args)
    (wellFormed : ∀ argument ∈ args, argument.WellFormed)
    (holds : memory.Holds address (args.flatMap Argument.bytes)) :
    decodeParams memory params address = .ok args := by
  induction splits generalizing address with
  | nil => rfl
  | @single name constraint params argument args notEnd _ ih =>
    obtain ⟨here, beyond⟩ := holds_flatMap_cons.1 holds
    obtain ⟨first, restWellFormed⟩ := List.forall_mem_cons.1 wellFormed
    have decoded : decodeArgument memory address false = .ok argument := by
      apply decodeArgument_complete first _ here
      intro isEnd
      rw [notEnd] at isEnd
      cases isEnd
    unfold decodeParams
    simp only [decoded, ih restWellFormed beyond]
    rfl
  | @variadic name constraint params taken marker args plain isMarker _ ih =>
    have grouped : taken ++ marker :: args = (taken ++ [marker]) ++ args := by
      rw [List.append_assoc]
      rfl
    rw [grouped] at holds wellFormed ⊢
    obtain ⟨here, beyond⟩ := holds_flatMap_append.1 holds
    obtain ⟨ownWellFormed, restWellFormed⟩ := List.forall_mem_append.1 wellFormed
    have enough : (taken ++ [marker]).length ≤ memory.size - address := by
      have counted := length_le_argumentsLength (taken ++ [marker])
      have nonempty : 0 < (taken ++ [marker]).length := by simp
      have fits := here.fits (by rw [length_flatMap_bytes]; omega)
      rw [length_flatMap_bytes] at fits
      omega
    have decoded := decodeVariadic_complete plain isMarker ownWellFormed here enough
    unfold decodeParams
    simp only [decoded, ih restWellFormed beyond]
    rfl

/-! ## 5. Instructions -/

theorem Opcode.split_word_lt (raw : UInt16) : (split raw).1.word < negationBit := by
  rw [UInt16.lt_iff_toNat_lt]
  show (raw % negationBit).toNat < negationBit.toNat
  rw [UInt16.toNat_mod]
  exact Nat.mod_lt _ (by decide)

/-- Putting an opcode and its flag together loses nothing, as long as the flag's bit is free. -/
theorem Opcode.split_raw {opcode : Opcode} (free : opcode.word < negationBit) (negated : Bool) :
    split (opcode.raw negated) = (opcode, negated) := by
  obtain ⟨word⟩ := opcode
  have below : word.toNat < 32768 := UInt16.lt_iff_toNat_lt.1 free
  cases negated with
  | false =>
    have notHigh : ¬negationBit ≤ word := by
      rw [UInt16.le_iff_toNat_le]
      exact Nat.not_le_of_lt below
    have sameWord : word % negationBit = word := by
      apply UInt16.toNat_inj.1
      rw [UInt16.toNat_mod]
      exact Nat.mod_eq_of_lt below
    simp [split, Opcode.raw, notHigh, sameWord]
  | true =>
    have value : (word % negationBit + negationBit).toNat = word.toNat + 32768 := by
      rw [UInt16.toNat_add, UInt16.toNat_mod]
      show (word.toNat % 32768 + 32768) % 65536 = word.toNat + 32768
      omega
    have high : negationBit ≤ word % negationBit + negationBit := by
      rw [UInt16.le_iff_toNat_le, value]
      exact Nat.le_add_left _ _
    have sameWord : (word % negationBit + negationBit) % negationBit = word := by
      apply UInt16.toNat_inj.1
      rw [UInt16.toNat_mod, value]
      show (word.toNat + 32768) % 32768 = word.toNat
      omega
    simp [split, Opcode.raw, high, sameWord]

theorem Instruction.holds_bytes {memory : Memory} {address : Nat} {instruction : Instruction} :
    memory.Holds address instruction.bytes ↔
      memory.Holds address (toLittleEndian 2 (instruction.opcode.raw instruction.negated).toNat) ∧
        memory.Holds (address + Opcode.width) (instruction.args.flatMap Argument.bytes) := by
  rw [Instruction.bytes, Memory.holds_append, Opcode.bytes, length_toLittleEndian]
  rfl

namespace Registry

variable {H : Type} {registry : Registry H} {memory : Memory} {address : Nat}
  {instruction : Instruction}

theorem lookup?_eq_some_iff {word : UInt16} {definition : Definition} {negated : Bool} :
    registry.lookup? word = some (definition, negated) ↔
      registry.definition? (Opcode.split word).1 = some definition ∧
        (Opcode.split word).2 = negated := by
  unfold lookup?
  rw [Option.map_eq_some_iff]
  constructor
  · rintro ⟨found, inTable, same⟩
    rw [Prod.mk.injEq] at same
    rw [← same.1, ← same.2]
    exact ⟨inTable, rfl⟩
  · rintro ⟨inTable, same⟩
    exact ⟨definition, inTable, by rw [same]⟩

/-- What the decoder reads at an address, for a registry that need not hold definitions under their
own opcodes: the word in memory is looked up, and the arguments after it split over the parameters of
what was found. -/
theorem decode_eq_ok_iff :
    registry.decode memory address = .ok instruction ↔
      ∃ word definition, registry.lookup? word = some (definition, instruction.negated) ∧
        instruction.address = address ∧ instruction.opcode = definition.opcode ∧
        memory.Holds address (toLittleEndian 2 word.toNat) ∧
        Splits definition.params instruction.args ∧
        (∀ argument ∈ instruction.args, argument.WellFormed) ∧
        memory.Holds (address + Opcode.width) (instruction.args.flatMap Argument.bytes) := by
  constructor
  · intro success
    unfold decode at success
    split at success
    · cases success
    next word wordRead =>
    split at success
    · cases success
    next definition negated found =>
    obtain ⟨args, decoded, rfl⟩ := except_map_eq_ok.1 success
    obtain ⟨splits, wellFormed, holds⟩ := decodeParams_sound decoded
    exact ⟨word, definition, found, rfl, rfl, Memory.readUInt16_eq_ok_iff.1 wordRead, splits,
      wellFormed, holds⟩
  · rintro ⟨word, definition, found, isAddress, isOpcode, wordHeld, splits, wellFormed, holds⟩
    obtain ⟨ownAddress, opcode, negated, args⟩ := instruction
    cases isAddress
    cases isOpcode
    unfold decode
    simp only [Memory.readUInt16_eq_ok_iff.2 wordHeld, found,
      decodeParams_complete splits wellFormed holds]
    rfl

theorem decode_address (success : registry.decode memory address = .ok instruction) :
    instruction.address = address := by
  obtain ⟨_, _, _, isAddress, _⟩ := decode_eq_ok_iff.1 success
  exact isAddress

/-- Behind an instruction lies a higher address. -/
theorem decode_lt_next (success : registry.decode memory address = .ok instruction) :
    address < instruction.next := by
  have isAddress := decode_address success
  simp only [Instruction.next, Instruction.byteLength, Opcode.width]
  omega

/-- An instruction that was decoded ends inside memory. -/
theorem decode_next_le (success : registry.decode memory address = .ok instruction) :
    instruction.next ≤ memory.size := by
  obtain ⟨word, _, _, isAddress, _, wordHeld, _, _, holds⟩ := decode_eq_ok_iff.1 success
  have joined : memory.Holds address
      (toLittleEndian 2 word.toNat ++ instruction.args.flatMap Argument.bytes) := by
    rw [Memory.holds_append, length_toLittleEndian]
    exact ⟨wordHeld, holds⟩
  have fits := joined.fits (Nat.zero_lt_succ _)
  rw [List.length_append, length_toLittleEndian, length_flatMap_bytes] at fits
  rw [Instruction.next, Instruction.byteLength, isAddress]
  exact fits

/-- What the decoder reads depends on no byte outside the instruction. -/
theorem decode_congr {other : Memory}
    (success : registry.decode memory address = .ok instruction)
    (agree : ∀ index, address ≤ index → index < instruction.next →
      other.bytes[index]? = memory.bytes[index]?) :
    registry.decode other address = .ok instruction := by
  obtain ⟨word, definition, found, isAddress, isOpcode, wordHeld, splits, wellFormed, holds⟩ :=
    decode_eq_ok_iff.1 success
  rw [Instruction.next, Instruction.byteLength, isAddress] at agree
  refine decode_eq_ok_iff.2 ⟨word, definition, found, isAddress, isOpcode, ?_, splits, wellFormed, ?_⟩
  · apply wordHeld.congr
    intro index low high
    rw [length_toLittleEndian] at high
    exact agree index low (by unfold Opcode.width; omega)
  · apply holds.congr
    intro index low high
    rw [length_flatMap_bytes] at high
    exact agree index (by omega) (by omega)

end Registry

/-- The decoder accepts exactly the grammar. With a registry that was built from a draft, it reads
an instruction at an address if and only if the opcode is registered and leaves the flag's bit free,
the arguments are well formed and split over the parameters, and memory holds the bytes of the
instruction there. Its length is the number of these bytes, and what is read depends on no others. -/
theorem decode_accepts_exactly {H : Type} {draft : Registry.Draft H} {registry : Registry H}
    (built : draft.build = .ok registry) (memory : Memory) (address : Nat)
    (instruction : Instruction) :
    (registry.decode memory address = .ok instruction ↔
      instruction.address = address ∧ instruction.opcode.word < Opcode.negationBit ∧
        ∃ definition, registry.definition? instruction.opcode = some definition ∧
          Splits definition.params instruction.args ∧
          (∀ argument ∈ instruction.args, argument.WellFormed) ∧
          memory.Holds address instruction.bytes) ∧
      instruction.byteLength = instruction.bytes.length ∧
      (registry.decode memory address = .ok instruction → ∀ other : Memory,
        (∀ index, address ≤ index → index < address + instruction.byteLength →
          other.bytes[index]? = memory.bytes[index]?) →
        registry.decode other address = .ok instruction) := by
  refine ⟨?_, instruction.length_bytes.symm, ?_⟩
  · rw [Registry.decode_eq_ok_iff]
    constructor
    · rintro ⟨word, definition, found, isAddress, isOpcode, wordHeld, splits, wellFormed, holds⟩
      obtain ⟨inTable, isNegated⟩ := Registry.lookup?_eq_some_iff.1 found
      have isSplit : instruction.opcode = (Opcode.split word).1 := by
        rw [isOpcode, Registry.definition?_opcode built inTable]
      have isWord : instruction.opcode.raw instruction.negated = word := by
        rw [isSplit, ← isNegated, Opcode.raw_split]
      refine ⟨isAddress, ?_, definition, ?_, splits, wellFormed, ?_⟩
      · rw [isSplit]
        exact Opcode.split_word_lt word
      · rw [isSplit]
        exact inTable
      · rw [Instruction.holds_bytes, isWord]
        exact ⟨wordHeld, holds⟩
    · rintro ⟨isAddress, free, definition, inTable, splits, wellFormed, holds⟩
      obtain ⟨wordHeld, argsHeld⟩ := Instruction.holds_bytes.1 holds
      refine ⟨instruction.opcode.raw instruction.negated, definition, ?_, isAddress, ?_, wordHeld,
        splits, wellFormed, argsHeld⟩
      · rw [Registry.lookup?_eq_some_iff, Opcode.split_raw free]
        exact ⟨inTable, rfl⟩
      · exact (Registry.definition?_opcode built inTable).symm
  · intro success other agree
    apply Registry.decode_congr success
    rw [Instruction.next, Registry.decode_address success]
    exact agree

namespace GrammarExample

/-- One definition with two variadic parameters among its four. -/
def draft : Registry.Draft Unit where
  names := .empty
  records := .empty
  bindings := Table.empty.insert 0x0123 {
    definition := {
      opcode := ⟨0x0123⟩, symbol := "show"
      params := [⟨"kind", .single .int⟩, ⟨"names", .variadic .any⟩, ⟨"title", .single .string⟩,
        ⟨"places", .variadic .var⟩] }
    handler := () }

def registry : Registry Unit := draft.build.toOption.getD ⟨.empty⟩

/-- A negated instruction with a length-prefixed string before the first end marker, an inline
string after it, and nothing before the second. -/
def instruction : Instruction where
  address := 1
  opcode := ⟨0x0123⟩
  negated := true
  args := [⟨.int8, [0xFF]⟩, ⟨.varString, [2, 0x41, 0x42]⟩, ⟨.endMarker, []⟩,
    ⟨.inlineString 0x48, [0x65, 0x6C, 0x6C, 0x6F, 0, 0, 0]⟩, ⟨.endMarker, []⟩]

/-- The instruction between two bytes that are not part of it. -/
def memory : Memory := Memory.ofBytes #[0xAA,
  0x23, 0x81, 0x04, 0xFF, 0x0E, 0x02, 0x41, 0x42, 0x00, 0x48, 0x65, 0x6C, 0x6C, 0x6F, 0, 0, 0, 0x00,
  0xBB]

theorem instruction_wellFormed : ∀ argument ∈ instruction.args, argument.WellFormed := by
  simp only [instruction, List.forall_mem_cons]
  refine ⟨⟨rfl, rfl⟩, ⟨rfl, 2, rfl, rfl⟩, ⟨rfl, rfl⟩, ⟨rfl, rfl⟩, ⟨rfl, rfl⟩, ?_⟩
  exact List.forall_mem_nil _

end GrammarExample

open GrammarExample in
/-- The instruction stands in memory, so it is decoded there. -/
theorem decode_show :
    draft.build = .ok registry ∧ memory.Holds 1 instruction.bytes ∧
      registry.decode memory 1 = .ok instruction := by
  have built : draft.build = .ok registry := rfl
  have holds : memory.Holds 1 instruction.bytes := by
    unfold Memory.Holds
    decide
  refine ⟨built, holds, (decode_accepts_exactly built memory 1 instruction).1.2
    ⟨rfl, by decide, _, rfl, ?_, instruction_wellFormed, holds⟩⟩
  apply Splits.single rfl
  show Splits _ ([_] ++ _ :: _ :: ([] ++ [_]))
  exact .variadic (by decide) rfl (.single rfl (.variadic (by decide) rfl .nil))

end MissionScript
