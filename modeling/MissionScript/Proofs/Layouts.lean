import MissionScript.Proofs.MissionRanges
import MissionScript.Proofs.Results

/-!
# What a layout was read from

A layout that was detected says where its parts stand in memory. `Layout.Introduced` lists what a
region needs: the jump over it, the marker, and an end that lies in memory. `Layout.Detected` puts
the regions and the two tables together. A layout is detected exactly when it was read from memory
like this (`Layout.detect_detected`, `Layout.Detected.detect`). The tables have as many entries as
their counts say (`Layout.readModels_eq_ok`, `Layout.readMissionStarts_eq_ok`). From all this follows
where code lies: `Layout.Detected.contains_code_iff`.
-/

namespace MissionScript

namespace Layout

variable {H : Type} {registry : Registry H} {memory : Memory} {variant : Variant}

theorem readable_eq_ok {α : Type} {result : Except Error α} {value : α} :
    readable result = .ok value ↔ result = .ok value :=
  except_mapError_eq_ok

/-- The jump at an offset introduces a region: it leads to the region's end, and the marker stands
between the two. -/
structure Introduced (registry : Registry H) (memory : Memory) (variant : Variant)
    (region : Region) (offset : Nat) (jump : Instruction) (target : Int32) (span : Span) : Prop where
  decoded : registry.decode memory offset = .ok jump
  opcode : jump.opcode = Builtin.goto.opcode
  marker : memory.readByte jump.next = .ok (variant.marker region)
  immediate : jump.immediate? = some target
  nonneg : 0 ≤ target.toInt
  start_eq : span.start = jump.next + 1
  stop_eq : span.stop = target.toInt.toNat
  start_le : span.start ≤ span.stop
  stop_le : span.stop ≤ memory.size
  /-- All regions but the last are followed by another jump. -/
  followed : region ≠ .missions → (memory.read span.stop Opcode.width).toOption = some jumpBytes

theorem findRegion_introduced {region : Region} {offset : Nat} {span : Span}
    (success : findRegion registry memory variant region offset = .ok span) :
    ∃ jump target, Introduced registry memory variant region offset jump target span := by
  unfold findRegion at success
  obtain ⟨jump, decoded, success⟩ := except_bind_eq_ok.1 success
  obtain ⟨opcode, success⟩ := except_guard_eq_ok.1 success
  obtain ⟨found, marker, success⟩ := except_bind_eq_ok.1 success
  obtain ⟨expected, success⟩ := except_guard_eq_ok.1 success
  split at success
  · next target immediate =>
    obtain ⟨bounds, success⟩ := except_guard_eq_ok.1 success
    obtain ⟨followed, success⟩ := except_guard_eq_ok.1 success
    cases success
    rw [Decidable.not_not] at opcode expected
    refine ⟨jump, target, readable_eq_ok.1 decoded, opcode, ?_, immediate, ?_, rfl, rfl, ?_, ?_, ?_⟩
    · rw [readable_eq_ok.1 marker, expected]
    · omega
    · show jump.next + 1 ≤ target.toInt.toNat
      omega
    · show target.toInt.toNat ≤ memory.size
      omega
    · intro notLast
      exact Decidable.not_not.1 fun other => followed ⟨notLast, other⟩
  · cases success

/-- Nothing else is needed for a region to be found. -/
theorem Introduced.findRegion {region : Region} {offset : Nat} {jump : Instruction} {target : Int32}
    {span : Span} (introduced : Introduced registry memory variant region offset jump target span) :
    findRegion registry memory variant region offset = .ok span := by
  have start_eq := introduced.start_eq
  have stop_eq := introduced.stop_eq
  have start_le := introduced.start_le
  have stop_le := introduced.stop_le
  unfold Layout.findRegion
  refine except_bind_eq_ok.2 ⟨jump, readable_eq_ok.2 introduced.decoded, ?_⟩
  refine except_guard_eq_ok.2 ⟨Decidable.not_not.2 introduced.opcode, ?_⟩
  refine except_bind_eq_ok.2 ⟨variant.marker region, readable_eq_ok.2 introduced.marker, ?_⟩
  refine except_guard_eq_ok.2 ⟨Decidable.not_not.2 rfl, ?_⟩
  simp only [introduced.immediate]
  refine except_guard_eq_ok.2 ⟨?_, except_guard_eq_ok.2 ⟨?_, ?_⟩⟩
  · have nonneg := introduced.nonneg
    omega
  · rintro ⟨notLast, unlike⟩
    exact unlike (stop_eq ▸ introduced.followed notLast)
  · rw [← start_eq, ← stop_eq]
    rfl

/-- A model table has as many names as its count says, and ends inside its region. -/
theorem readModels_eq_ok {region : Span} {names : List String}
    (success : readModels memory region = .ok names) :
    ∃ count, memory.readInt32 region.start = .ok count ∧ count.toInt = names.length ∧
      region.start + (4 + 24 * names.length) ≤ region.stop := by
  unfold readModels at success
  obtain ⟨count, isCount, success⟩ := except_bind_eq_ok.1 success
  obtain ⟨notNegative, success⟩ := except_guard_eq_ok.1 success
  obtain ⟨fits, success⟩ := except_guard_eq_ok.1 success
  have length : names.length = count.toInt.toNat := (step_of_mapM_range success).1
  refine ⟨count, readable_eq_ok.1 isCount, ?_, ?_⟩
  · rw [length, Int.toNat_of_nonneg (Int.not_lt.1 notNegative)]
  · rw [length, Nat.mul_comm, ← Nat.add_assoc]
    exact Nat.le_of_not_lt fits

/-- Each start of a mission is an entry of the table, and lies between the table's end and the end of
memory. -/
theorem readMissionStarts_eq_ok {first tableEnd count : Nat} {starts : List Nat}
    (success : readMissionStarts memory first tableEnd count = .ok starts) :
    starts.length = count ∧ ∀ (index start : Nat), starts[index]? = some start →
      (∃ value, memory.readInt32 (first + index * 4) = .ok value ∧ value.toInt = start) ∧
        tableEnd ≤ start ∧ start < memory.size := by
  obtain ⟨length, each⟩ := step_of_mapM_range success
  refine ⟨length, fun index start found => ?_⟩
  obtain ⟨value, isValue, rest⟩ := except_bind_eq_ok.1 (each index start found)
  obtain ⟨inside, made⟩ := except_guard_eq_ok.1 rest
  cases made
  simp only [not_or, Int.not_lt, Nat.not_lt, Nat.not_le] at inside
  exact ⟨⟨value, readable_eq_ok.1 isValue, (Int.toNat_of_nonneg inside.1).symm⟩, inside.2⟩

/-- What a layout was read from: the count of missions, and where each of them starts. -/
structure Detected (registry : Registry H) (memory : Memory) (variant : Variant) (layout : Layout)
    (count : Int32) (starts : List Nat) : Prop where
  globals : ∃ jump target,
    Introduced registry memory variant .globals 0 jump target layout.globals
  models : ∃ jump target,
    Introduced registry memory variant .models layout.globals.stop jump target layout.models
  missionTable : ∃ jump target,
    Introduced registry memory variant .missions layout.models.stop jump target layout.missionTable
  modelNames : readModels memory layout.models = .ok layout.modelNames
  missionsStart : memory.readInt32 layout.missionTable.start = .ok layout.missionsStart
  allocatedMemory : memory.readInt32 (layout.missionTable.start + 4) = .ok layout.allocatedMemory
  missionCount : memory.readInt32 (layout.missionTable.start + 8) = .ok count
  count_nonneg : 0 ≤ count.toInt
  /-- Main code starts right after the entries of the mission table. -/
  mainCode_start : layout.mainCode.start = layout.missionTable.start + 12 + count.toInt.toNat * 4
  table_fits : layout.mainCode.start ≤ layout.missionTable.stop
  missionStarts : readMissionStarts memory (layout.missionTable.start + 12) layout.mainCode.start
    count.toInt.toNat = .ok starts
  missions : layout.missions = missionRanges starts memory.size
  mainCode_stop : layout.mainCode.stop = starts.min?.getD memory.size
  missionCode : layout.missionCode = ⟨layout.mainCode.stop, memory.size⟩

theorem detect_detected {layout : Layout} (success : detect registry memory variant = .ok layout) :
    ∃ count starts, Detected registry memory variant layout count starts := by
  have found : detectRegions registry memory variant = .ok layout :=
    except_mapError_eq_ok.1 success
  unfold detectRegions at found
  obtain ⟨globals, isGlobals, found⟩ := except_bind_eq_ok.1 found
  obtain ⟨models, isModels, found⟩ := except_bind_eq_ok.1 found
  obtain ⟨missionTable, isTable, found⟩ := except_bind_eq_ok.1 found
  obtain ⟨names, isNames, found⟩ := except_bind_eq_ok.1 found
  obtain ⟨missionsStart, isStart, found⟩ := except_bind_eq_ok.1 found
  obtain ⟨allocatedMemory, isAllocated, found⟩ := except_bind_eq_ok.1 found
  obtain ⟨count, isCount, found⟩ := except_bind_eq_ok.1 found
  obtain ⟨notNegative, found⟩ := except_guard_eq_ok.1 found
  obtain ⟨notOver, found⟩ := except_guard_eq_ok.1 found
  obtain ⟨starts, areStarts, found⟩ := except_bind_eq_ok.1 found
  cases found
  exact ⟨count, starts, {
    globals := findRegion_introduced isGlobals
    models := findRegion_introduced isModels
    missionTable := findRegion_introduced isTable
    modelNames := isNames
    missionsStart := readable_eq_ok.1 isStart
    allocatedMemory := readable_eq_ok.1 isAllocated
    missionCount := readable_eq_ok.1 isCount
    count_nonneg := Int.not_lt.1 notNegative
    mainCode_start := rfl
    table_fits := Nat.le_of_not_lt notOver
    missionStarts := areStarts
    missions := rfl
    mainCode_stop := rfl
    missionCode := rfl }⟩

/-- Nothing else is needed for a layout to be detected. -/
theorem Detected.detect {layout : Layout} {count : Int32} {starts : List Nat}
    (detected : Detected registry memory variant layout count starts) :
    detect registry memory variant = .ok layout := by
  obtain ⟨⟨_, _, globals⟩, ⟨_, _, models⟩, ⟨_, _, missionTable⟩, modelNames, missionsStart,
    allocatedMemory, missionCount, nonneg, mainCode_start, table_fits, missionStarts, missions,
    mainCode_stop, missionCode⟩ := detected
  obtain ⟨globalSpan, modelSpan, tableSpan, ⟨codeStart, codeStop⟩, missionSpan, names, ranges,
    first, second⟩ := layout
  simp only at *
  subst mainCode_start mainCode_stop missionCode missions
  refine except_mapError_eq_ok.2 ?_
  unfold detectRegions
  refine except_bind_eq_ok.2 ⟨_, globals.findRegion, ?_⟩
  refine except_bind_eq_ok.2 ⟨_, models.findRegion, ?_⟩
  refine except_bind_eq_ok.2 ⟨_, missionTable.findRegion, ?_⟩
  refine except_bind_eq_ok.2 ⟨_, modelNames, ?_⟩
  refine except_bind_eq_ok.2 ⟨_, readable_eq_ok.2 missionsStart, ?_⟩
  refine except_bind_eq_ok.2 ⟨_, readable_eq_ok.2 allocatedMemory, ?_⟩
  refine except_bind_eq_ok.2 ⟨_, readable_eq_ok.2 missionCount, ?_⟩
  refine except_guard_eq_ok.2 ⟨Int.not_lt.2 nonneg, ?_⟩
  refine except_guard_eq_ok.2 ⟨Nat.not_lt.2 table_fits, ?_⟩
  refine except_bind_eq_ok.2 ⟨_, missionStarts, ?_⟩
  rfl

namespace Detected

variable {layout : Layout} {count : Int32} {starts : List Nat}
  (detected : Detected registry memory variant layout count starts)
include detected

theorem mainCode_start_pos : 0 < layout.mainCode.start := by
  rw [detected.mainCode_start]
  omega

theorem mainCode_start_le : layout.mainCode.start ≤ memory.size := by
  obtain ⟨_, _, introduced⟩ := detected.missionTable
  exact Nat.le_trans detected.table_fits introduced.stop_le

/-- The table has one entry for each mission. -/
theorem length_missions : layout.missions.length = count.toInt.toNat := by
  rw [detected.missions, length_missionRanges]
  exact (readMissionStarts_eq_ok detected.missionStarts).1

/-- Main code starts where the table ends. -/
theorem mainCode_start_eq :
    layout.mainCode.start = layout.missionTable.start + (12 + 4 * layout.missions.length) := by
  rw [detected.mainCode_start, detected.length_missions, Nat.mul_comm, Nat.add_assoc]

/-- Each mission starts where its entry in the table says, and in code. -/
theorem mission_entry {index : Nat} {mission : Mission}
    (found : layout.missions[index]? = some mission) :
    (∃ start, memory.readInt32 (layout.missionTable.start + 12 + index * 4) = .ok start ∧
      start.toInt = mission.first) ∧
    layout.mainCode.start ≤ mission.first ∧ mission.first < memory.size := by
  refine (readMissionStarts_eq_ok detected.missionStarts).2 index mission.first ?_
  rw [← missionRanges_map_first starts memory.size, ← detected.missions, List.getElem?_map, found]
  rfl

/-- Missions start in code. -/
theorem mission_inside {mission : Mission} (member : mission ∈ layout.missions) :
    layout.mainCode.start ≤ mission.first ∧ mission.first < memory.size := by
  obtain ⟨index, found⟩ := List.getElem?_of_mem member
  exact (detected.mission_entry found).2

/-- Main code ends where the first mission starts. -/
theorem mainCode_stop_eq :
    layout.mainCode.stop = (layout.missions.map Mission.first).min?.getD memory.size := by
  rw [detected.mainCode_stop, detected.missions, missionRanges_map_first]

theorem mainCode_bounds :
    layout.mainCode.start ≤ layout.mainCode.stop ∧ layout.mainCode.stop ≤ memory.size := by
  rw [detected.mainCode_stop_eq]
  cases lowest : (layout.missions.map Mission.first).min? with
  | none => exact ⟨detected.mainCode_start_le, Nat.le_refl _⟩
  | some first =>
    obtain ⟨mission, member, rfl⟩ := List.mem_map.1 (List.min?_eq_some_iff.1 lowest).1
    exact (detected.mission_inside member).imp_right Nat.le_of_lt

/-- From the start of main code on, everything is code. -/
theorem contains_code_iff {address : Nat} :
    layout.mainCode.contains address = true ∨ layout.missionCode.contains address = true ↔
      layout.mainCode.start ≤ address ∧ address < memory.size := by
  obtain ⟨startLe, stopLe⟩ := detected.mainCode_bounds
  rw [detected.missionCode]
  simp only [Span.contains, Bool.and_eq_true, decide_eq_true_eq]
  constructor
  · rintro (⟨notBefore, below⟩ | ⟨notBefore, below⟩)
    · exact ⟨notBefore, Nat.lt_of_lt_of_le below stopLe⟩
    · exact ⟨Nat.le_trans startLe notBefore, below⟩
  · rintro ⟨notBefore, below⟩
    rcases Nat.lt_or_ge address layout.mainCode.stop with inMain | inMissions
    · exact Or.inl ⟨notBefore, inMain⟩
    · exact Or.inr ⟨inMissions, below⟩

end Detected

end Layout

end MissionScript
