import MissionScript.Proofs.BuiltinEffects
import MissionScript.Proofs.Grammar
import MissionScript.Proofs.Layouts

/-!
# Where regions lie

Detection goes from jump to jump, and takes everything that it needs from memory: the end of a region
from the jump over it, the number of entries of a table from the table, the starts of the missions from
its entries. All of these numbers may be wrong, and some are used before they are checked. A layout that
is detected can be relied on all the same: its regions stand one behind the other in memory, each behind
its jump and its marker, and the tables lie in their regions.

One thing is not checked. The mission table may end before its region does, and main code starts where
the table ends. The bytes in between, the slack of the table, are region and code at once.

Results:
1. `Layout.Introduced.offset_lt_start`: a region lies behind the jump over it.
2. `regions_lie_in_order`: where the parts of a layout lie, and which numbers in memory say so.
3. `table_and_code_share_slack`: what the mission table and code have in common.
-/

namespace MissionScript

namespace Layout

/-! ## 1. Announced regions -/

/-- Where the jump over a region stands: at the start of the script, or behind the region before. -/
def jumpAt (layout : Layout) : Region → Nat
  | .globals => 0
  | .models => layout.globals.stop
  | .missions => layout.models.stop

def span (layout : Layout) : Region → Span
  | .globals => layout.globals
  | .models => layout.models
  | .missions => layout.missionTable

/-- A region is announced at an offset: a jump that names its end stands there, then the marker, then the
region. -/
structure Announced {H : Type} (registry : Registry H) (memory : Memory) (variant : Variant)
    (region : Region) (offset : Nat) (span : Span) : Prop where
  jump : ∃ jump target, registry.decode memory offset = .ok jump ∧
    jump.opcode = Builtin.goto.opcode ∧ jump.immediate? = some target ∧
    target.toInt = span.stop ∧ jump.next + 1 = span.start
  marker : memory.bytes[span.start - 1]? = some (variant.marker region)

variable {H : Type} {registry : Registry H} {memory : Memory} {variant : Variant}

namespace Introduced

variable {region : Region} {offset : Nat} {jump : Instruction} {target : Int32} {span : Span}
  (introduced : Introduced registry memory variant region offset jump target span)
include introduced

theorem offset_lt_start : offset < span.start :=
  calc
    offset < jump.next := Registry.decode_lt_next introduced.decoded
    _ < span.start := introduced.start_eq ▸ Nat.lt_succ_self _

theorem announced : Announced registry memory variant region offset span where
  jump := by
    refine ⟨jump, target, introduced.decoded, introduced.opcode, introduced.immediate, ?_,
      introduced.start_eq.symm⟩
    rw [introduced.stop_eq, Int.toNat_of_nonneg introduced.nonneg]
  marker := by
    rw [introduced.start_eq, Nat.add_sub_cancel]
    exact Memory.readByte_eq_ok_iff.1 introduced.marker

end Introduced

theorem Detected.announced {layout : Layout} {count : Int32} {starts : List Nat}
    (detected : Detected registry memory variant layout count starts) (region : Region) :
    Announced registry memory variant region (layout.jumpAt region) (layout.span region) := by
  cases region with
  | globals =>
    obtain ⟨_, _, introduced⟩ := detected.globals
    exact introduced.announced
  | models =>
    obtain ⟨_, _, introduced⟩ := detected.models
    exact introduced.announced
  | missions =>
    obtain ⟨_, _, introduced⟩ := detected.missionTable
    exact introduced.announced

end Layout

/-! ## 2. Detected layouts -/

/-- The parts of a detected layout lie where memory says. The three regions stand in memory one behind
the other. Each is announced by a jump that names its end, followed by the marker of the game: the first
at address zero, the others at the end of the region before. The count in front of the models is the
number of model names, and their records lie in the region. The count in front of the mission starts is
the number of missions, the whole table lies in its region, and main code starts where the table ends.
Main code ends and mission code starts at the lowest start of a mission, or at the end of memory when
there is none; mission code ends with memory. Each mission starts where its entry says, in code. -/
theorem regions_lie_in_order {H : Type} {registry : Registry H} {memory : Memory} {variant : Variant}
    {layout : Layout} (success : Layout.detect registry memory variant = .ok layout) :
    (layout.globals.start ≤ layout.globals.stop ∧ layout.globals.stop < layout.models.start ∧
      layout.models.start ≤ layout.models.stop ∧ layout.models.stop < layout.missionTable.start ∧
      layout.missionTable.start ≤ layout.missionTable.stop ∧
      layout.missionTable.stop ≤ memory.size) ∧
    (∀ region, Layout.Announced registry memory variant region (layout.jumpAt region)
      (layout.span region)) ∧
    (∃ count, memory.readInt32 layout.models.start = .ok count ∧
      count.toInt = layout.modelNames.length ∧
      layout.models.start + (4 + 24 * layout.modelNames.length) ≤ layout.models.stop) ∧
    (∃ count, memory.readInt32 (layout.missionTable.start + 8) = .ok count ∧
      count.toInt = layout.missions.length ∧
      layout.missionTable.start + (12 + 4 * layout.missions.length) ≤ layout.missionTable.stop ∧
      layout.mainCode.start = layout.missionTable.start + (12 + 4 * layout.missions.length)) ∧
    (layout.mainCode.stop = layout.missionCode.start ∧
      layout.missionCode.start = (layout.missions.map Mission.first).min?.getD memory.size ∧
      layout.missionCode.stop = memory.size) ∧
    ∀ (index : Nat) (mission : Mission), layout.missions[index]? = some mission →
      (∃ start, memory.readInt32 (layout.missionTable.start + 12 + index * 4) = .ok start ∧
        start.toInt = mission.first) ∧
      layout.mainCode.start ≤ mission.first ∧ mission.first < memory.size := by
  obtain ⟨count, starts, detected⟩ := Layout.detect_detected success
  obtain ⟨_, _, globals⟩ := detected.globals
  obtain ⟨_, _, models⟩ := detected.models
  obtain ⟨_, _, table⟩ := detected.missionTable
  have tableEnd := detected.mainCode_start_eq
  refine ⟨⟨globals.start_le, models.offset_lt_start, models.start_le, table.offset_lt_start,
    table.start_le, table.stop_le⟩, detected.announced, Layout.readModels_eq_ok detected.modelNames,
    ⟨count, detected.missionCount, ?_, tableEnd ▸ detected.table_fits, tableEnd⟩, ⟨?_, ?_, ?_⟩, ?_⟩
  · rw [detected.length_missions, Int.toNat_of_nonneg detected.count_nonneg]
  · rw [detected.missionCode]
  · rw [detected.missionCode, detected.mainCode_stop_eq]
  · rw [detected.missionCode]
  · intro index mission found
    exact detected.mission_entry found

namespace RegionsExample

/-- The region of the mission table is four bytes longer than the table, and its one mission starts in the
middle of them. -/
def bytes : Array UInt8 := #[
  0x02, 0x00, 0x01, 0x0C, 0x00, 0x00, 0x00, 0x6D,
  0x00, 0x00, 0x00, 0x00,
  0x02, 0x00, 0x01, 0x18, 0x00, 0x00, 0x00, 0x00,
  0x00, 0x00, 0x00, 0x00,
  0x02, 0x00, 0x01, 0x34, 0x00, 0x00, 0x00, 0x00,
  0x00, 0x00, 0x00, 0x00, 0x00, 0x00, 0x00, 0x00, 0x01, 0x00, 0x00, 0x00, 0x32, 0x00, 0x00, 0x00,
  0x4E, 0x00, 0x4E, 0x00,
  0x4E, 0x00]

def memory : Memory := Memory.ofBytes bytes

def layout : Layout where
  globals := ⟨8, 12⟩
  models := ⟨20, 24⟩
  missionTable := ⟨32, 52⟩
  mainCode := ⟨48, 50⟩
  missionCode := ⟨50, 54⟩
  modelNames := []
  missions := [⟨50, 53⟩]
  missionsStart := 0
  allocatedMemory := 0

/-- The built-in instructions find this layout. -/
theorem detect_memory : ∃ registry, Registry.builtin = .ok registry ∧
    Layout.detect registry memory .viceCity = .ok layout := by
  have outcome : (Registry.builtin >>= fun registry =>
      Layout.detect registry memory .viceCity).toOption = some layout := by decide +kernel
  exact except_bind_eq_ok.1 (except_toOption_eq_some.1 outcome)

end RegionsExample

open RegionsExample in
/-- The regions of the script stand in order, and its table has one entry. -/
theorem slack_keeps_order :
    ∃ registry, Registry.builtin = .ok registry ∧
      Layout.detect registry memory .viceCity = .ok layout ∧
      (∀ region, Layout.Announced registry memory .viceCity region (layout.jumpAt region)
        (layout.span region)) ∧
      ∃ count, memory.readInt32 40 = .ok count ∧ count.toInt = 1 ∧
        layout.missionTable.start + 16 ≤ layout.missionTable.stop := by
  obtain ⟨registry, built, detect⟩ := detect_memory
  obtain ⟨_, announced, _, ⟨count, isCount, one, fits, _⟩, _⟩ := regions_lie_in_order detect
  exact ⟨registry, built, detect, announced, count, isCount, one, fits⟩

/-! ## 3. The slack of the mission table -/

/-- The mission table and code meet in the slack of the table, the bytes of the region behind the last
entry, and nowhere else. In particular the region ends before code starts exactly when it has no slack,
and then all missions start behind it. -/
theorem table_and_code_share_slack {H : Type} {registry : Registry H} {memory : Memory}
    {variant : Variant} {layout : Layout}
    (success : Layout.detect registry memory variant = .ok layout) :
    let tableEnd := layout.missionTable.start + (12 + 4 * layout.missions.length)
    (∀ address, layout.missionTable.contains address = true ∧
        (layout.mainCode.contains address = true ∨ layout.missionCode.contains address = true) ↔
      tableEnd ≤ address ∧ address < layout.missionTable.stop) ∧
    (layout.missionTable.stop ≤ layout.mainCode.start ∧
        (∀ mission ∈ layout.missions, layout.missionTable.stop ≤ mission.first) ↔
      layout.missionTable.stop = tableEnd) := by
  intro tableEnd
  obtain ⟨count, starts, detected⟩ := Layout.detect_detected success
  obtain ⟨_, _, table⟩ := detected.missionTable
  have isEnd : layout.mainCode.start = tableEnd := detected.mainCode_start_eq
  have fits : tableEnd ≤ layout.missionTable.stop := isEnd ▸ detected.table_fits
  constructor
  · intro address
    rw [detected.contains_code_iff, isEnd]
    simp only [Span.contains, Bool.and_eq_true, decide_eq_true_eq]
    constructor
    · rintro ⟨⟨_, inRegion⟩, behindEntries, _⟩
      exact ⟨behindEntries, inRegion⟩
    · rintro ⟨behindEntries, inRegion⟩
      exact ⟨⟨Nat.le_trans (Nat.le_add_right _ _) behindEntries, inRegion⟩, behindEntries,
        Nat.lt_of_lt_of_le inRegion table.stop_le⟩
  · constructor
    · rintro ⟨before, _⟩
      exact Nat.le_antisymm (isEnd ▸ before) fits
    · intro full
      refine ⟨Nat.le_of_eq (full.trans isEnd.symm), fun mission member => ?_⟩
      rw [full, ← isEnd]
      exact (detected.mission_inside member).1

open RegionsExample in
/-- The four bytes from 48 on belong to the region of the table and to code, and no others do. -/
theorem slack_of_four_bytes :
    ∃ registry, Registry.builtin = .ok registry ∧
      Layout.detect registry memory .viceCity = .ok layout ∧
      ∀ address, layout.missionTable.contains address = true ∧
          (layout.mainCode.contains address = true ∨ layout.missionCode.contains address = true) ↔
        48 ≤ address ∧ address < 52 := by
  obtain ⟨registry, built, detect⟩ := detect_memory
  exact ⟨registry, built, detect, (table_and_code_share_slack detect).1⟩

open RegionsExample in
/-- A script is accepted although main code and its mission start in the region of the mission table. -/
theorem mission_starts_in_table :
    ∃ registry, Registry.builtin = .ok registry ∧
      Layout.detect registry memory .viceCity = .ok layout ∧
      ¬ (layout.missionTable.stop ≤ layout.mainCode.start) ∧
      (∃ mission ∈ layout.missions, ¬ layout.missionTable.stop ≤ mission.first) ∧
      ∃ address, layout.missionTable.contains address = true ∧
        layout.missionCode.contains address = true := by
  obtain ⟨registry, built, detect⟩ := detect_memory
  exact ⟨registry, built, detect, by decide, by decide, 50, by decide, by decide⟩

end MissionScript
