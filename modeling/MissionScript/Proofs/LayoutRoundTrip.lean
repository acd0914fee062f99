import MissionScript.Proofs.BuiltinEffects
import MissionScript.Proofs.Grammar
import MissionScript.Proofs.Layouts
import MissionScript.Proofs.MissionRanges
import MissionScript.Proofs.TextRoundTrip

/-!
# Layouts that are written and read back

An `Outline` is what the regions of a script are written from, and the code after them. Writing it
gives one flat byte string: the ends of the regions, which the jumps name, come from the sizes of
what stands in them, and the two tables are records of one width behind their counts. Detection has
to find all of this again from the bytes alone.

Results:
1. `Outline.introduced`: where a region was written, its jump introduces it.
2. `Outline.readModels_names` and `Outline.readMissionStarts_starts`: the two tables are read back.
3. `Outline.detect_memory`: detection finds the layout that the outline stands for.
4. `layout_round_trip`: part by part, it is what was written.
-/

namespace MissionScript

/-- What a script is written from: the contents of its three regions, and the code after them. -/
structure Outline where
  globals : List UInt8
  modelNames : List String
  missionsStart : Int32
  allocatedMemory : Int32
  missionStarts : List Nat
  code : List UInt8
deriving DecidableEq, Repr

namespace Outline

/-! ## 1. Writing -/

/-- The jump over a region, with its target in four bytes. -/
def jump (offset stop : Nat) : Instruction where
  address := offset
  opcode := Builtin.goto.opcode
  negated := false
  args := [⟨.int32, int32Bytes (Int32.ofNat stop)⟩]

/-- The number of bytes of a jump with its marker. -/
def introWidth : Nat := 8

/-- A region with the jump over it and its marker. -/
def region (variant : Variant) (kind : Region) (offset : Nat) (contents : List UInt8) :
    List UInt8 :=
  (jump offset (offset + introWidth + contents.length)).bytes ++ variant.marker kind :: contents

/-- A name, filled up with zero bytes. -/
def nameRecord (name : String) : List UInt8 :=
  Text.encode name ++ List.replicate (Layout.modelNameWidth - (Text.encode name).length) 0

def startRecord (start : Nat) : List UInt8 := int32Bytes (Int32.ofNat start)

variable (outline : Outline) (variant : Variant)

def modelTable : List UInt8 :=
  int32Bytes (Int32.ofNat outline.modelNames.length) ++ outline.modelNames.flatMap nameRecord

def missionTable : List UInt8 :=
  int32Bytes outline.missionsStart ++ (int32Bytes outline.allocatedMemory ++
    (int32Bytes (Int32.ofNat outline.missionStarts.length) ++
      outline.missionStarts.flatMap startRecord))

/-- Where the jump over the models stands, right after the globals. -/
def modelsOffset : Nat := introWidth + outline.globals.length

/-- Where the jump over the mission table stands, right after the models. -/
def tableOffset : Nat := outline.modelsOffset + introWidth + outline.modelTable.length

/-- Where code starts, right after the mission table. -/
def codeStart : Nat := outline.tableOffset + introWidth + outline.missionTable.length

def size : Nat := outline.codeStart + outline.code.length

/-- The bytes of the script. -/
def bytes : List UInt8 :=
  region variant .globals 0 outline.globals ++
    (region variant .models outline.modelsOffset outline.modelTable ++
      (region variant .missions outline.tableOffset outline.missionTable ++ outline.code))

/-- The memory of the script. -/
def memory : Memory := Memory.ofBytes (outline.bytes variant).toArray

/-- The script can be written: names fit into their records and have no zero character, missions start
in code, and all addresses are 32-bit numbers. -/
structure Fits : Prop where
  names : ∀ name ∈ outline.modelNames,
    name.utf8ByteSize ≤ Layout.modelNameWidth ∧ '\x00' ∉ name.toList
  starts : ∀ start ∈ outline.missionStarts, outline.codeStart ≤ start ∧ start < outline.size
  size : outline.size < 0x80000000

/-- Where mission code starts: at the first mission, or at the end when there is none. -/
def firstMission : Nat := outline.missionStarts.min?.getD outline.size

/-- The layout that the outline stands for. -/
def layout : Layout where
  globals := ⟨introWidth, outline.modelsOffset⟩
  models := ⟨outline.modelsOffset + introWidth, outline.tableOffset⟩
  missionTable := ⟨outline.tableOffset + introWidth, outline.codeStart⟩
  mainCode := ⟨outline.codeStart, outline.firstMission⟩
  missionCode := ⟨outline.firstMission, outline.size⟩
  modelNames := outline.modelNames
  missions := Layout.missionRanges outline.missionStarts outline.size
  missionsStart := outline.missionsStart
  allocatedMemory := outline.allocatedMemory

/-! ## 2. Lengths -/

theorem length_region (kind : Region) (offset : Nat) (contents : List UInt8) :
    (region variant kind offset contents).length = introWidth + contents.length := by
  rw [region, List.length_append, Instruction.length_bytes, List.length_cons]
  simp only [jump, Instruction.byteLength, argumentsLength, Argument.byteLength, length_int32Bytes,
    Opcode.width, introWidth]
  omega

theorem length_nameRecord {name : String} (fits : name.utf8ByteSize ≤ Layout.modelNameWidth) :
    (nameRecord name).length = Layout.modelNameWidth := by
  have isSize : (Text.encode name).length = name.utf8ByteSize := rfl
  rw [nameRecord, List.length_append, List.length_replicate, isSize]
  omega

theorem length_bytes : (outline.bytes variant).length = outline.size := by
  simp only [bytes, List.length_append, length_region, size, codeStart, tableOffset, modelsOffset]
  omega

theorem size_memory : (outline.memory variant).size = outline.size :=
  outline.length_bytes variant

theorem length_modelTable {outline : Outline} (fits : outline.Fits) :
    outline.modelTable.length = 4 + outline.modelNames.length * Layout.modelNameWidth := by
  rw [modelTable, List.length_append, length_int32Bytes,
    Memory.length_flatMap_of_forall fun name member => length_nameRecord (fits.names name member).1]

theorem length_missionTable :
    outline.missionTable.length = 12 + outline.missionStarts.length * 4 := by
  have records : (outline.missionStarts.flatMap startRecord).length =
      outline.missionStarts.length * 4 := Memory.length_flatMap_of_forall fun _ _ => length_int32Bytes _
  simp only [missionTable, List.length_append, length_int32Bytes, records]
  omega

/-! ## 3. Regions -/

section Regions

variable {registry : Registry Handler} {memory : Memory} {variant : Variant} {kind : Region}
  {offset : Nat} {contents : List UInt8}

theorem next_jump (offset stop : Nat) : (jump offset stop).next = offset + 7 := by
  simp only [jump, Instruction.next, Instruction.byteLength, argumentsLength, Argument.byteLength,
    length_int32Bytes, Opcode.width]

theorem decode_jump (hasBuiltins : registry.HasBuiltins) {stop : Nat}
    (holds : memory.Holds offset (jump offset stop).bytes) :
    registry.decode memory offset = .ok (jump offset stop) := by
  obtain ⟨entry, found, isOpcode, isParams, _⟩ := hasBuiltins .goto
  obtain ⟨wordHeld, argsHeld⟩ := Instruction.holds_bytes.1 holds
  refine Registry.decode_eq_ok_iff.2 ⟨Builtin.goto.opcode.raw false, entry.definition, ?_, rfl,
    isOpcode.symm, wordHeld, ?_, ?_, argsHeld⟩
  · rw [Registry.lookup?_eq_some_iff]
    refine ⟨?_, rfl⟩
    show (registry.entry? Builtin.goto.opcode).map Entry.definition = some entry.definition
    rw [found, Option.map_some]
  · rw [isParams]
    exact .single rfl .nil
  · intro argument member
    rw [List.mem_singleton.1 member]
    exact ⟨rfl, length_int32Bytes _⟩

theorem immediate?_jump (offset stop : Nat) :
    (jump offset stop).immediate? = some (Int32.ofNat stop) := by
  show some (signExtend (int32Bytes (Int32.ofNat stop))) = some (Int32.ofNat stop)
  rw [signExtend_int32Bytes]

/-- Before a region stand the bytes of a jump. -/
theorem holds_jumpBytes (holds : memory.Holds offset (region variant kind offset contents)) :
    memory.Holds offset Layout.jumpBytes :=
  (Instruction.holds_bytes.1 (Memory.holds_append.1 holds).1).1

/-- The contents of a region stand behind its jump and its marker. -/
theorem holds_contents (holds : memory.Holds offset (region variant kind offset contents)) :
    memory.Holds (offset + introWidth) contents := by
  obtain ⟨_, markerHeld⟩ := Memory.holds_append.1 holds
  rw [Instruction.length_bytes] at markerHeld
  have behind := (Memory.holds_cons.1 markerHeld).2
  rw [show offset + (jump offset (offset + introWidth + contents.length)).byteLength = offset + 7
    from next_jump offset _] at behind
  exact behind

/-- Where a region was written, its jump introduces it. -/
theorem introduced (hasBuiltins : registry.HasBuiltins)
    (holds : memory.Holds offset (region variant kind offset contents))
    (small : memory.size < 0x80000000)
    (followed : kind ≠ .missions →
      memory.Holds (offset + introWidth + contents.length) Layout.jumpBytes) :
    Layout.Introduced registry memory variant kind offset
      (jump offset (offset + introWidth + contents.length))
      (Int32.ofNat (offset + introWidth + contents.length))
      ⟨offset + introWidth, offset + introWidth + contents.length⟩ := by
  obtain ⟨jumpHeld, markerHeld⟩ := Memory.holds_append.1 holds
  have inside : offset + introWidth + contents.length ≤ memory.size := by
    have fits := holds.fits (by rw [length_region]; exact Nat.add_pos_left (by decide) _)
    rw [length_region, ← Nat.add_assoc] at fits
    exact fits
  have stopSmall : offset + introWidth + contents.length < 0x80000000 :=
    Nat.lt_of_le_of_lt inside small
  exact {
    decoded := decode_jump hasBuiltins jumpHeld
    opcode := rfl
    marker := by
      rw [Instruction.length_bytes] at markerHeld
      exact Memory.readByte_eq_ok_iff.2 (Memory.holds_cons.1 markerHeld).1
    immediate := immediate?_jump _ _
    nonneg := by
      rw [Int32.toInt_ofNat_of_lt stopSmall]
      exact Int.natCast_nonneg _
    start_eq := by rw [next_jump]; rfl
    stop_eq := (toNat_toInt_ofNat stopSmall).symm
    start_le := Nat.le_add_right _ _
    stop_le := inside
    followed := by
      intro notLast
      have jumpFits := (followed notLast).fits (by decide)
      exact except_toOption_eq_some.2
        (Memory.read_eq_ok_iff.2 ⟨rfl, jumpFits, followed notLast⟩) }

end Regions

/-! ## 4. Tables -/

section Tables

variable {outline : Outline} {memory : Memory} {start : Nat}

/-- A name comes back from its record. -/
theorem decodeTerminated_nameRecord {name : String} (nonzero : '\x00' ∉ name.toList) :
    Text.decodeTerminated (nameRecord name) = name :=
  Text.decodeTerminated_padded nonzero _

theorem readModels_names (fits : outline.Fits) (holds : memory.Holds start outline.modelTable)
    (small : memory.size < 0x80000000) :
    Layout.readModels memory ⟨start, start + outline.modelTable.length⟩ = .ok outline.modelNames := by
  have length := length_modelTable fits
  have inside := holds.fits (by omega)
  -- Every name takes bytes of memory, so there are fewer names than addresses.
  have countSmall : outline.modelNames.length < 0x80000000 := by
    simp only [Layout.modelNameWidth] at length
    omega
  obtain ⟨countHeld, recordsHeld⟩ := Memory.holds_append.1 holds
  rw [length_int32Bytes] at recordsHeld
  unfold Layout.readModels
  refine except_bind_eq_ok.2 ⟨_, Layout.readable_eq_ok.2 (Memory.readInt32_eq_ok_iff.2 countHeld), ?_⟩
  refine except_guard_eq_ok.2 ⟨?_, ?_⟩
  · rw [Int32.toInt_ofNat_of_lt countSmall]
    omega
  simp only [toNat_toInt_ofNat countSmall]
  refine except_guard_eq_ok.2 ⟨by omega, mapM_range_eq_ok ?_⟩
  intro index name found
  obtain ⟨nameFits, nonzero⟩ := fits.names name (List.mem_of_getElem? found)
  have width := length_nameRecord nameFits
  have record := recordsHeld.record
    (fun other member => length_nameRecord (fits.names other member).1) found
  have recordInside := record.fits (by rw [width]; decide)
  rw [width] at recordInside
  refine except_bind_eq_ok.2 ⟨nameRecord name, ?_, ?_⟩
  · exact Layout.readable_eq_ok.2 (Memory.read_eq_ok_iff.2 ⟨width, recordInside, record⟩)
  · rw [decodeTerminated_nameRecord nonzero]
    rfl

theorem readMissionStarts_starts {starts : List Nat} {tableEnd : Nat}
    (holds : memory.Holds start (starts.flatMap startRecord)) (small : memory.size < 0x80000000)
    (valid : ∀ address ∈ starts, tableEnd ≤ address ∧ address < memory.size) :
    Layout.readMissionStarts memory start tableEnd starts.length = .ok starts := by
  unfold Layout.readMissionStarts
  refine mapM_range_eq_ok fun index address found => ?_
  obtain ⟨notBefore, inside⟩ := valid address (List.mem_of_getElem? found)
  have addressSmall := Nat.lt_trans inside small
  have record := holds.record (fun _ _ => length_int32Bytes _) found
  refine except_bind_eq_ok.2
    ⟨_, Layout.readable_eq_ok.2 (Memory.readInt32_eq_ok_iff.2 record), ?_⟩
  simp only [Int32.toInt_ofNat_of_lt addressSmall]
  exact except_guard_eq_ok.2 ⟨by omega, rfl⟩

end Tables

/-! ## 5. The whole script -/

section Script

/-- The three regions stand one after the other from the first address on. -/
theorem holds_regions :
    (outline.memory variant).Holds 0 (region variant .globals 0 outline.globals) ∧
      (outline.memory variant).Holds outline.modelsOffset
        (region variant .models outline.modelsOffset outline.modelTable) ∧
      (outline.memory variant).Holds outline.tableOffset
        (region variant .missions outline.tableOffset outline.missionTable) := by
  have holds : (outline.memory variant).Holds 0 (outline.bytes variant) := Memory.holds_ofBytes _
  unfold bytes at holds
  rw [Memory.holds_append, Memory.holds_append, Memory.holds_append, length_region, length_region,
    Nat.zero_add, ← Nat.add_assoc] at holds
  exact ⟨holds.1, holds.2.1, holds.2.2.1⟩

variable {outline : Outline} {registry : Registry Handler}

/-- The outline's layout is what detection reads from the script. -/
theorem detected (hasBuiltins : registry.HasBuiltins) (fits : outline.Fits) (variant : Variant) :
    Layout.Detected registry (outline.memory variant) variant outline.layout
      (Int32.ofNat outline.missionStarts.length) outline.missionStarts := by
  have isSize := outline.size_memory variant
  have small : (outline.memory variant).size < 0x80000000 := isSize ▸ fits.size
  obtain ⟨globalsHeld, modelsHeld, tableHeld⟩ := outline.holds_regions variant
  have tableLength := outline.length_missionTable
  have countSmall : outline.missionStarts.length < 0x80000000 := by
    have sizeSmall := fits.size
    unfold Outline.size codeStart at sizeSmall
    omega
  have tableParts := holds_contents tableHeld
  unfold missionTable at tableParts
  simp only [Memory.holds_append, length_int32Bytes] at tableParts
  obtain ⟨startHeld, allocatedHeld, countHeld, startsHeld⟩ := tableParts
  exact {
    globals := by
      -- The first region stands at address zero, which the sums of its addresses do not show.
      have found := introduced hasBuiltins globalsHeld small fun _ => by
        rw [Nat.zero_add]
        exact holds_jumpBytes modelsHeld
      rw [Nat.zero_add] at found
      exact ⟨_, _, found⟩
    models := ⟨_, _, introduced hasBuiltins modelsHeld small fun _ => holds_jumpBytes tableHeld⟩
    missionTable := ⟨_, _, introduced hasBuiltins tableHeld small fun last => absurd rfl last⟩
    modelNames := readModels_names fits (holds_contents modelsHeld) small
    missionsStart := Memory.readInt32_eq_ok_iff.2 startHeld
    allocatedMemory := Memory.readInt32_eq_ok_iff.2 allocatedHeld
    missionCount := Memory.readInt32_eq_ok_iff.2 countHeld
    count_nonneg := by
      rw [Int32.toInt_ofNat_of_lt countSmall]
      exact Int.natCast_nonneg _
    mainCode_start := by
      rw [toNat_toInt_ofNat countSmall]
      show outline.codeStart = outline.tableOffset + introWidth + 12 + _
      unfold codeStart
      omega
    table_fits := Nat.le_refl _
    missionStarts := by
      rw [toNat_toInt_ofNat countSmall]
      exact readMissionStarts_starts startsHeld small (isSize ▸ fits.starts)
    missions := congrArg (Layout.missionRanges outline.missionStarts) isSize.symm
    mainCode_stop := congrArg outline.missionStarts.min?.getD isSize.symm
    missionCode := by rw [isSize]; rfl }

theorem modelName?_layout (fits : outline.Fits) {index : Nat} {name : String}
    (found : outline.modelNames[index]? = some name) :
    outline.layout.modelName? (Int32.ofInt (-index)) = some name := by
  have bound : index < outline.modelNames.length := (List.getElem?_eq_some_iff.1 found).1
  have indexSmall : index < 0x80000000 := by
    have length := length_modelTable fits
    have sizeSmall := fits.size
    simp only [Outline.size, codeStart, tableOffset, Layout.modelNameWidth] at sizeSmall length
    omega
  have isNumber : (Int32.ofInt (-index)).toInt = -index :=
    Int32.toInt_ofInt_of_le (by omega) (by omega)
  rw [Layout.modelName?, isNumber, if_neg (by omega), Int.natAbs_neg, Int.natAbs_natCast]
  exact found

end Script

end Outline

/-- Layouts round-trip. Write any globals, any names that fit into their records, any two numbers, any
code and any starts of missions in it as one script, for either game. With a registry that has the
built-in instructions, detection succeeds and finds every part again: the regions hold exactly what
was written into them, the names and numbers are those that were written, the model with the number
`-i` has the name at index `i`, main code reaches from the end of the mission table to the first
mission, mission code from there to the end, and the missions start where they were said to, in the
same order. -/
theorem layout_round_trip {registry : Registry Handler} (hasBuiltins : registry.HasBuiltins)
    (variant : Variant) {outline : Outline} (fits : outline.Fits) :
    ∃ layout, Layout.detect registry (outline.memory variant) variant = .ok layout ∧
      (layout.globals = ⟨8, 8 + outline.globals.length⟩ ∧
        (outline.memory variant).slice layout.globals = outline.globals) ∧
      (layout.models = ⟨outline.modelsOffset + 8, outline.tableOffset⟩ ∧
        (outline.memory variant).slice layout.models = outline.modelTable) ∧
      (layout.modelNames = outline.modelNames ∧
        ∀ (index : Nat) name, outline.modelNames[index]? = some name →
          layout.modelName? (Int32.ofInt (-index)) = some name) ∧
      layout.missionsStart = outline.missionsStart ∧
      layout.allocatedMemory = outline.allocatedMemory ∧
      layout.mainCode = ⟨outline.codeStart, outline.missionStarts.min?.getD outline.size⟩ ∧
      layout.missionCode = ⟨outline.missionStarts.min?.getD outline.size, outline.size⟩ ∧
      layout.missions.map Mission.first = outline.missionStarts := by
  have isSize := outline.size_memory variant
  obtain ⟨globalsHeld, modelsHeld, _⟩ := outline.holds_regions variant
  have modelsInside : outline.tableOffset ≤ (outline.memory variant).size := by
    rw [isSize]
    unfold Outline.size Outline.codeStart
    omega
  have globalsInside : 0 + Outline.introWidth + outline.globals.length ≤
      (outline.memory variant).size := by
    refine Nat.le_trans ?_ modelsInside
    unfold Outline.tableOffset Outline.modelsOffset
    omega
  refine ⟨outline.layout, (Outline.detected hasBuiltins fits variant).detect, ⟨rfl, ?_⟩, ⟨rfl, ?_⟩,
    ⟨rfl, fun _ _ => Outline.modelName?_layout fits⟩, rfl, rfl, rfl, rfl,
    Layout.missionRanges_map_first _ _⟩
  · have contents := (Outline.holds_contents globalsHeld).slice_eq globalsInside
    rw [Nat.zero_add] at contents
    exact contents
  · exact (Outline.holds_contents modelsHeld).slice_eq modelsInside

namespace LayoutRoundTripExample

/-- Three global bytes, an empty name, a name that fills its record and one with characters of several
bytes, and missions that neither ascend nor differ. -/
def outline : Outline where
  globals := [0x02, 0x00, 0x01]
  modelNames := ["", "PICKUP_WITH_24_BYTE_NAME", "caf\u00E9 \u20AC"]
  missionsStart := -1
  allocatedMemory := 0x7FFFFFFF
  missionStarts := [130, 128, 130]
  code := [0x4E, 0x00, 0x4E, 0x00]

theorem outline_fits : outline.Fits := ⟨by decide +kernel, by decide +kernel, by decide +kernel⟩

end LayoutRoundTripExample

open LayoutRoundTripExample in
/-- The third name is found under `-2`, and main code, four bytes before the end, reaches up to the
second mission. -/
theorem outline_round_trip :
    outline.Fits ∧ ∃ registry layout, Registry.builtin = .ok registry ∧
      Layout.detect registry (outline.memory .sanAndreas) .sanAndreas = .ok layout ∧
      layout.modelName? (-2) = some "caf\u00E9 \u20AC" ∧ layout.mainCode = ⟨127, 128⟩ ∧
      layout.missions.map Mission.first = [130, 128, 130] := by
  have builds : Registry.builtin.toOption.isSome = true := by decide +kernel
  obtain ⟨registry, isBuilt⟩ := Option.isSome_iff_exists.1 builds
  have built := except_toOption_eq_some.1 isBuilt
  obtain ⟨layout, detected, _, _, ⟨_, names⟩, _, _, mainCode, _, missions⟩ :=
    layout_round_trip (Registry.builtin_hasBuiltins built) .sanAndreas outline_fits
  have isMainCode : Span.mk outline.codeStart (outline.missionStarts.min?.getD outline.size) =
      ⟨127, 128⟩ := by decide +kernel
  exact ⟨outline_fits, registry, layout, built, detected, names 2 _ rfl, mainCode.trans isMainCode,
    missions⟩

end MissionScript
