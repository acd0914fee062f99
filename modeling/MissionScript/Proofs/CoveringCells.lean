import MissionScript.Proofs.Journal
import MissionScript.Proofs.Registries

/-!
# Covering cells

Cells may overlap: a store at one address does not remove the cell that starts two bytes before it,
although both then claim the same bytes. Still, the cell that an address lies in is found with one
look at the table, at the nearest start at or before the address. If that cell does not reach the
address, no cell that starts earlier does, because all of them are equally wide. A rollback puts old
cells back, so the width has to be the same in the journal as well.

Results:
1. `Table.floor?_eq_some_iff` and `Table.exists_floor?`: the look-up is the greatest key at or below a
   bound, and there is an answer when there is such a key.
2. `Memory.cellCovering?_eq_some_iff` and `Memory.cellCovering?_eq_none_iff`: where all cells are equally
   wide, looking at the nearest start is enough.
3. `Memory.Uniform.operateAll`: they are equally wide after every sequence of operations.
4. `covering_cell_greatest`: the two put together.
-/

namespace MissionScript

/-! ## 1. The greatest key at or below a bound -/

namespace Table

variable {β : Type}

theorem get?_eq_some_iff_mem {table : Table β} {key : Nat} {value : β} :
    table.get? key = some value ↔ (key, value) ∈ table.entries :=
  ⟨mem_of_find, find_of_mem table.ascending⟩

/-- In ascending order, the entries up to a bound are the first ones. -/
theorem mem_takeWhile_iff {entries : List (Nat × β)}
    (ascending : entries.Pairwise fun left right => left.1 < right.1) {bound : Nat}
    {entry : Nat × β} :
    entry ∈ entries.takeWhile (fun entry => entry.1 ≤ bound) ↔ entry ∈ entries ∧ entry.1 ≤ bound := by
  induction entries with
  | nil => simp
  | cons head rest ih =>
    obtain ⟨above, restAscending⟩ := List.pairwise_cons.1 ascending
    rw [List.takeWhile_cons]
    by_cases within : head.1 ≤ bound
    · rw [if_pos (decide_eq_true within), List.mem_cons, List.mem_cons, ih restAscending]
      constructor
      · rintro (rfl | ⟨later, low⟩)
        · exact ⟨Or.inl rfl, within⟩
        · exact ⟨Or.inr later, low⟩
      · rintro ⟨rfl | later, low⟩
        · exact Or.inl rfl
        · exact Or.inr ⟨later, low⟩
    · rw [if_neg (mt of_decide_eq_true within)]
      refine iff_of_false List.not_mem_nil ?_
      rintro ⟨member, low⟩
      cases member with
      | head => exact within low
      | tail _ later => exact within (Nat.le_trans (Nat.le_of_lt (above entry later)) low)

/-- In ascending order, the last entry is the greatest one. -/
theorem getLast?_eq_some_iff_greatest {entries : List (Nat × β)}
    (ascending : entries.Pairwise fun left right => left.1 < right.1) {entry : Nat × β} :
    entries.getLast? = some entry ↔ entry ∈ entries ∧ ∀ other ∈ entries, other.1 ≤ entry.1 := by
  constructor
  · intro isLast
    obtain ⟨before, rfl⟩ := List.getLast?_eq_some_iff.1 isLast
    refine ⟨List.mem_append_right _ List.mem_cons_self, fun other member => ?_⟩
    rcases List.mem_append.1 member with earlier | last
    · exact Nat.le_of_lt ((List.pairwise_append.1 ascending).2.2 other earlier entry List.mem_cons_self)
    · exact Nat.le_of_eq (congrArg Prod.fst (List.mem_singleton.1 last))
  · rintro ⟨member, greatest⟩
    obtain ⟨last, isLast⟩ := Option.ne_none_iff_exists'.1
      (mt List.getLast?_eq_none_iff.1 (List.ne_nil_of_mem member))
    rw [isLast]
    obtain ⟨before, rfl⟩ := List.getLast?_eq_some_iff.1 isLast
    rcases List.mem_append.1 member with earlier | same
    · -- An entry before the last one is below it, so it is not the greatest.
      have below := (List.pairwise_append.1 ascending).2.2 entry earlier last List.mem_cons_self
      have atLeast := greatest last (List.mem_append_right _ List.mem_cons_self)
      exact absurd below (Nat.not_lt_of_le atLeast)
    · rw [List.mem_singleton.1 same]

theorem floor?_eq_some_iff {table : Table β} {bound key : Nat} {value : β} :
    table.floor? bound = some (key, value) ↔ table.get? key = some value ∧ key ≤ bound ∧
      ∀ other found, table.get? other = some found → other ≤ bound → other ≤ key := by
  unfold floor?
  rw [getLast?_eq_some_iff_greatest (table.ascending.sublist (List.takeWhile_sublist _)),
    mem_takeWhile_iff table.ascending, ← get?_eq_some_iff_mem, and_assoc]
  refine and_congr_right fun _ => and_congr_right fun _ => ?_
  constructor
  · intro greatest other found isFound within
    exact greatest (other, found)
      ((mem_takeWhile_iff table.ascending).2 ⟨get?_eq_some_iff_mem.1 isFound, within⟩)
  · intro greatest other member
    obtain ⟨inTable, within⟩ := (mem_takeWhile_iff table.ascending).1 member
    exact greatest other.1 other.2 (get?_eq_some_iff_mem.2 inTable) within

/-- A key at or below the bound is enough for an answer. -/
theorem exists_floor? {table : Table β} {bound key : Nat} {value : β}
    (found : table.get? key = some value) (within : key ≤ bound) :
    ∃ entry, table.floor? bound = some entry := by
  have member : (key, value) ∈ table.entries.takeWhile fun entry => entry.1 ≤ bound :=
    (mem_takeWhile_iff table.ascending).2 ⟨get?_eq_some_iff_mem.1 found, within⟩
  exact Option.ne_none_iff_exists'.1 (mt List.getLast?_eq_none_iff.1 (List.ne_nil_of_mem member))

theorem Every.erase {property : Nat → β → Prop} {table : Table β} (every : table.Every property)
    (key : Nat) : (table.erase key).Every property := by
  intro other found isFound
  rw [get?_erase] at isFound
  split at isFound
  · cases isFound
  · exact every other found isFound

end Table

/-! ## 2. Cells of one width -/

/-- The cell is as wide as a variable. -/
def Cell.Standard (cell : Cell) : Prop := cell.width = cellWidth

namespace Memory

/-- A cell starts at `start`, and the address is one of its four bytes. -/
structure Covers (memory : Memory) (start address : Nat) : Prop where
  allocated : ∃ cell, memory.cell? start = some cell
  start_le : start ≤ address
  before_end : address < start + 4

section Lookup

variable {memory : Memory} (standard : memory.cells.Every fun _ cell => cell.Standard)
  {address start : Nat}
include standard

theorem cellCovering?_eq_some_iff {cell : Cell} :
    memory.cellCovering? address = some (start, cell) ↔ memory.cell? start = some cell ∧
      memory.Covers start address ∧ ∀ other, memory.Covers other address → other ≤ start := by
  unfold cellCovering?
  rw [Option.filter_eq_some_iff, Table.floor?_eq_some_iff, decide_eq_true_iff]
  constructor
  · rintro ⟨⟨found, notAfter, nearest⟩, reaches⟩
    have width : cell.width = 4 := standard start cell found
    rw [width] at reaches
    refine ⟨found, ⟨⟨cell, found⟩, notAfter, reaches⟩, fun other covers => ?_⟩
    obtain ⟨otherCell, isOther⟩ := covers.allocated
    exact nearest other otherCell isOther covers.start_le
  · rintro ⟨found, covers, greatest⟩
    have width : cell.width = 4 := standard start cell found
    rw [width]
    refine ⟨⟨found, covers.start_le, fun other otherCell isOther notAfter => ?_⟩, covers.before_end⟩
    -- A cell that starts between `start` and the address reaches further than the one at `start`.
    refine Nat.le_of_not_lt fun behind => ?_
    have before_end : address < other + 4 :=
      Nat.lt_trans covers.before_end (Nat.add_lt_add_right behind 4)
    exact Nat.not_le_of_lt behind (greatest other ⟨⟨otherCell, isOther⟩, notAfter, before_end⟩)

/-- If some cell covers the address, then the nearest one does. -/
theorem exists_cellCovering? (covers : memory.Covers start address) :
    ∃ entry, memory.cellCovering? address = some entry := by
  obtain ⟨cell, found⟩ := covers.allocated
  obtain ⟨⟨nearest, nearestCell⟩, isNearest⟩ := Table.exists_floor? found covers.start_le
  obtain ⟨isCell, _, greatest⟩ := Table.floor?_eq_some_iff.1 isNearest
  refine ⟨(nearest, nearestCell), Option.filter_eq_some_iff.2 ⟨isNearest, decide_eq_true ?_⟩⟩
  have width : nearestCell.width = 4 := standard nearest nearestCell isCell
  rw [width]
  exact Nat.lt_of_lt_of_le covers.before_end
    (Nat.add_le_add_right (greatest start cell found covers.start_le) 4)

theorem cellCovering?_eq_none_iff :
    memory.cellCovering? address = none ↔ ∀ start, ¬ memory.Covers start address := by
  constructor
  · intro isNone start covers
    obtain ⟨entry, isSome⟩ := exists_cellCovering? standard covers
    rw [isNone] at isSome
    cases isSome
  · intro uncovered
    refine Option.eq_none_iff_forall_ne_some.2 fun entry isSome => ?_
    exact uncovered entry.1 ((cellCovering?_eq_some_iff standard).1 isSome).2.1

end Lookup

/-! ## 3. Sequences of operations -/

/-- All cells have the standard width, those that a rollback would put back among them. -/
structure Uniform (memory : Memory) : Prop where
  cells : memory.cells.Every fun _ cell => cell.Standard
  journal : ∀ journal, memory.journal? = some journal →
    ∀ address cell, (address, some cell) ∈ journal.cells → cell.Standard

/-- Entry by entry, the journal puts back a cell of the standard width or takes one away. -/
theorem standard_of_restored {entries : List (Nat × Option Cell)} {cells : Table Cell}
    (standard : cells.Every fun _ cell => cell.Standard)
    (old : ∀ address cell, (address, some cell) ∈ entries → cell.Standard) :
    (entries.foldl (fun cells entry => restoreCell cells entry.1 entry.2) cells).Every
      fun _ cell => cell.Standard := by
  induction entries generalizing cells with
  | nil => exact standard
  | cons entry rest ih =>
    obtain ⟨address, cell?⟩ := entry
    refine ih ?_ fun place cell member => old place cell (List.mem_cons_of_mem _ member)
    cases cell? with
    | none => exact standard.erase address
    | some cell => exact standard.insert (old address cell List.mem_cons_self)

theorem uniform_ofBytes (bytes : Array UInt8) : (ofBytes bytes).Uniform where
  cells := Table.every_empty
  journal _ impossible := by cases impossible

namespace Uniform

variable {memory : Memory} (uniform : memory.Uniform)
include uniform

/-- A write leaves cells alone, in the table and in the journal. -/
theorem write {address : Nat} {data : List UInt8} {written : Memory}
    (wrote : memory.write address data = .ok written) : written.Uniform := by
  obtain ⟨_, _, cells, _, logged⟩ := write_eq_ok wrote
  refine ⟨cells ▸ uniform.cells, fun journal isJournal => ?_⟩
  rw [logged] at isJournal
  obtain ⟨old, isOld, rfl⟩ := Option.map_eq_some_iff.1 isJournal
  exact uniform.journal old isOld

/-- A new cell has the standard width, and so has the one that it replaces. -/
theorem allocate {address : Nat} {dataType : DataType} {data : List UInt8} {allocated : Memory}
    (made : memory.allocate address dataType data = .ok allocated) : allocated.Uniform := by
  obtain ⟨written, wrote, rfl⟩ := allocate_eq_ok made
  have writtenUniform := uniform.write wrote
  refine ⟨writtenUniform.cells.insert rfl, fun journal isJournal place cell member => ?_⟩
  obtain ⟨old, isOld, rfl⟩ := Option.map_eq_some_iff.1 isJournal
  cases List.mem_cons.1 member with
  | inl replaced =>
    obtain ⟨rfl, isCell⟩ := Prod.mk.inj replaced
    exact writtenUniform.cells place cell isCell.symm
  | inr earlier => exact writtenUniform.journal old isOld place cell earlier

theorem rollback : memory.rollback.Uniform := by
  unfold Memory.rollback
  split
  · exact uniform
  · next journal isJournal =>
    refine ⟨?_, fun _ impossible => by cases impossible⟩
    exact standard_of_restored uniform.cells (uniform.journal journal isJournal)

theorem perform (access : Access) : (memory.perform access).2.Uniform := by
  cases access with
  | read address length => exact uniform
  | write address data =>
    unfold Memory.perform
    cases wrote : memory.write address data with
    | error error => simpa only [wrote] using uniform
    | ok written => simpa only [wrote] using uniform.write wrote
  | allocate address dataType data =>
    unfold Memory.perform
    cases made : memory.allocate address dataType data with
    | error error => simpa only [made] using uniform
    | ok allocated => simpa only [made] using uniform.allocate made
  | beginJournal =>
    refine ⟨uniform.cells, fun journal isJournal address cell member => ?_⟩
    cases isJournal
    cases member

end Uniform

/-- What can be done to memory from outside. -/
inductive Operation where
  /-- A read, a write, a new cell or the opening of a journal. -/
  | access (access : Access)
  | clearDirty
  | commit
  | rollback
deriving DecidableEq, Repr

/-- Memory after an operation. One that fails leaves memory as it was. -/
def operate (memory : Memory) : Operation → Memory
  | .access access => (memory.perform access).2
  | .clearDirty => memory.clearDirty
  | .commit => memory.commit
  | .rollback => memory.rollback

def operateAll (memory : Memory) (operations : List Operation) : Memory :=
  operations.foldl operate memory

theorem Uniform.operate {memory : Memory} (uniform : memory.Uniform) (operation : Operation) :
    (memory.operate operation).Uniform := by
  cases operation with
  | access access => exact uniform.perform access
  | clearDirty => exact ⟨uniform.cells, uniform.journal⟩
  | commit => exact ⟨uniform.cells, fun _ impossible => by cases impossible⟩
  | rollback => exact uniform.rollback

theorem Uniform.operateAll {memory : Memory} (uniform : memory.Uniform)
    (operations : List Operation) : (memory.operateAll operations).Uniform := by
  induction operations generalizing memory with
  | nil => exact uniform
  | cons operation rest ih => exact ih (uniform.operate operation)

end Memory

/-- Load any bytes and then read, write, make cells over each other, clear the list of dirty spans and
open, keep and undo journals in any order. At every address the look-up gives the cell with the greatest
start among all cells that cover the address, together with that start, and it gives none exactly if no
cell covers the address. -/
theorem covering_cell_greatest (bytes : Array UInt8) (operations : List Memory.Operation)
    (address : Nat) :
    let memory := (Memory.ofBytes bytes).operateAll operations
    (∀ start cell, memory.cellCovering? address = some (start, cell) ↔
      memory.cell? start = some cell ∧ memory.Covers start address ∧
        ∀ other, memory.Covers other address → other ≤ start) ∧
    (memory.cellCovering? address = none ↔ ∀ start, ¬ memory.Covers start address) := by
  intro memory
  have standard := ((Memory.uniform_ofBytes bytes).operateAll operations).cells
  exact ⟨fun start cell => Memory.cellCovering?_eq_some_iff standard,
    Memory.cellCovering?_eq_none_iff standard⟩

end MissionScript
