import MissionScript.Memory

/-!
# Undoing writes

Every entry of a journal holds what one write or one new cell replaced, the latest first. Undoing
the head of the journal takes memory back to where it was before the latest change, so a change
made under an open journal does not alter what a rollback gives. This module proves that for one
write and one new cell; every sequence of them follows step by step. Opening a journal in the middle of
a sequence forgets the journal before it, so a rollback never goes back further than to the last opening.

Results:
1. `Memory.rollback_beginJournal`: a rollback right after a journal was opened only closes it.
2. `Memory.RollsBackTo.write` and `Memory.RollsBackTo.allocate`: what memory rolls back to survives
   every successful write and every new cell, also where they overlap earlier ones.
3. `Memory.allocate_size` and `Memory.rollback_size`: neither a new cell nor a rollback makes memory
   longer or shorter.
4. `rollback_restores_opening`: what a rollback gives after any sequence of accesses.
-/

namespace MissionScript

/-! ## 1. One entry of a journal -/

/-- Writing back what stood there undoes a write. -/
theorem overwrite_restore (bytes : Array UInt8) (address : Nat) (data : List UInt8)
    (fits : address + data.length ≤ bytes.size) :
    overwrite (overwrite bytes address data) address
      (bytes.extract address (address + data.length)).toList = bytes := by
  have sameLength : (bytes.extract address (address + data.length)).toList.length = data.length := by
    simp
    omega
  apply Array.ext_getElem?
  intro index
  rw [getElem?_overwrite _ _ _ _ (by rw [sameLength, size_overwrite]; exact fits), sameLength]
  split
  · next inside =>
    rw [Array.getElem?_toList, Array.getElem?_extract]
    rw [if_pos (by omega), Nat.add_sub_cancel' inside.1]
  · next outside => rw [getElem?_overwrite _ _ _ _ fits, if_neg outside]

/-- Putting back what stood under its address undoes a new cell. -/
theorem restoreCell_insert (cells : Table Cell) (address : Nat) (cell : Cell) :
    restoreCell (cells.insert address cell) address (cells.get? address) = cells := by
  apply Table.ext_get?
  intro key
  cases found : cells.get? address with
  | none =>
    by_cases hit : address = key
    · subst hit
      simp [restoreCell, found]
    · simp [restoreCell, hit]
  | some old =>
    by_cases hit : address = key
    · subst hit
      simp [restoreCell, found]
    · simp [restoreCell, hit]

namespace Memory

/-! ## 2. What memory rolls back to -/

/-- A journal is open, and the spans that were dirty when it was opened are still listed. -/
def Journaling (memory : Memory) : Prop :=
  ∃ journal, memory.journal? = some journal ∧ journal.dirtyLength ≤ memory.dirty.length

/-- A journal is open, and a rollback gives `base`. -/
structure RollsBackTo (memory base : Memory) : Prop where
  journaling : memory.Journaling
  rollback_eq : memory.rollback = base

theorem beginJournal_journaling (memory : Memory) : memory.beginJournal.Journaling :=
  ⟨_, rfl, Nat.le_refl _⟩

/-- A rollback right after a journal was opened only closes it. -/
theorem rollback_beginJournal (memory : Memory) : memory.beginJournal.rollback = memory.commit := by
  simp [beginJournal, rollback, commit]

theorem beginJournal_rollsBackTo (memory : Memory) :
    memory.beginJournal.RollsBackTo memory.commit :=
  ⟨memory.beginJournal_journaling, memory.rollback_beginJournal⟩

/-- What a write leaves behind, field by field. -/
theorem write_eq_ok {memory written : Memory} {address : Nat} {data : List UInt8}
    (success : memory.write address data = .ok written) :
    address + data.length ≤ memory.size ∧
      written.bytes = overwrite memory.bytes address data ∧
      written.cells = memory.cells ∧
      written.dirty =
        (if data.isEmpty then memory.dirty else memory.dirty ++ [⟨address, address + data.length⟩]) ∧
      written.journal? =
        memory.logBytes address (memory.slice ⟨address, address + data.length⟩) := by
  unfold write at success
  simp only at success
  split at success
  · next fits =>
    cases success
    exact ⟨fits, rfl, rfl, rfl, rfl⟩
  · cases success

/-- What a new cell leaves behind: a write, then an entry under its address. -/
theorem allocate_eq_ok {memory allocated : Memory} {address : Nat} {dataType : DataType}
    {data : List UInt8} (success : memory.allocate address dataType data = .ok allocated) :
    ∃ written, memory.write address data = .ok written ∧
      allocated = { written with
        cells := written.cells.insert address ⟨dataType, cellWidth⟩
        journal? := written.journal?.map fun journal =>
          { journal with cells := (address, written.cells.get? address) :: journal.cells } } := by
  unfold allocate at success
  cases outcome : memory.write address data with
  | error error => simp [outcome] at success
  | ok written =>
    simp only [outcome, Except.ok.injEq] at success
    exact ⟨written, rfl, success.symm⟩

/-- A write changes the bytes that it covers. -/
theorem write_keeps {memory written : Memory} {address : Nat} {data : List UInt8}
    (wrote : memory.write address data = .ok written) {index : Nat}
    (outside : ¬ (address ≤ index ∧ index < address + data.length)) :
    written.bytes[index]? = memory.bytes[index]? := by
  obtain ⟨fits, bytes, _⟩ := write_eq_ok wrote
  rw [bytes, getElem?_overwrite _ _ _ _ fits, if_neg outside]

/-- A new cell changes its own bytes and its own entry. -/
theorem allocate_keeps {memory allocated : Memory} {address : Nat} {dataType : DataType}
    {data : List UInt8} (made : memory.allocate address dataType data = .ok allocated) :
    (∀ index, ¬ (address ≤ index ∧ index < address + data.length) →
      allocated.bytes[index]? = memory.bytes[index]?) ∧
    ∀ other, other ≠ address → allocated.cell? other = memory.cell? other := by
  obtain ⟨written, wrote, rfl⟩ := allocate_eq_ok made
  refine ⟨fun index outside => write_keeps wrote outside, fun other apart => ?_⟩
  obtain ⟨_, _, cells, _⟩ := write_eq_ok wrote
  show (written.cells.insert address _).get? other = memory.cells.get? other
  rw [Table.get?_insert, if_neg (Ne.symm apart), cells]

theorem Journaling.write {memory written : Memory} {address : Nat} {data : List UInt8}
    (journaling : memory.Journaling) (success : memory.write address data = .ok written) :
    written.Journaling := by
  obtain ⟨journal, opened, within⟩ := journaling
  obtain ⟨_, _, _, dirty, logged⟩ := write_eq_ok success
  refine ⟨_, by rw [logged, logBytes, opened]; rfl, ?_⟩
  show journal.dirtyLength ≤ written.dirty.length
  rw [dirty]
  split
  · exact within
  · rw [List.length_append]
    omega

/-- The entry that a write adds to the journal undoes exactly that write. -/
theorem rollback_write {memory written : Memory} {address : Nat} {data : List UInt8}
    (journaling : memory.Journaling) (success : memory.write address data = .ok written) :
    written.rollback = memory.rollback := by
  obtain ⟨journal, opened, within⟩ := journaling
  obtain ⟨fits, bytes, cells, dirty, logged⟩ := write_eq_ok success
  have loggedSome : written.journal? = some { journal with
      bytes := (address, memory.slice ⟨address, address + data.length⟩) :: journal.bytes } := by
    rw [logged, logBytes, opened]
    rfl
  have sameDirty : written.dirty.take journal.dirtyLength = memory.dirty.take journal.dirtyLength := by
    rw [dirty]
    split
    · rfl
    · exact List.take_append_of_le_length within
  unfold rollback
  rw [loggedSome, opened]
  simp only [List.foldl_cons]
  rw [bytes, cells, sameDirty, slice, overwrite_restore _ _ _ fits]

theorem RollsBackTo.write {memory base written : Memory} {address : Nat} {data : List UInt8}
    (rolls : memory.RollsBackTo base) (success : memory.write address data = .ok written) :
    written.RollsBackTo base :=
  ⟨rolls.journaling.write success, (rollback_write rolls.journaling success).trans rolls.rollback_eq⟩

/-- The entry that a new cell adds to the journal undoes exactly that cell. -/
theorem RollsBackTo.allocate {memory base allocated : Memory} {address : Nat} {dataType : DataType}
    {data : List UInt8} (rolls : memory.RollsBackTo base)
    (success : memory.allocate address dataType data = .ok allocated) :
    allocated.RollsBackTo base := by
  obtain ⟨written, wrote, rfl⟩ := allocate_eq_ok success
  obtain ⟨⟨journal, opened, within⟩, rolled⟩ := rolls.write wrote
  refine ⟨⟨{ journal with cells := (address, written.cells.get? address) :: journal.cells },
    by simp only [opened, Option.map_some], within⟩, ?_⟩
  rw [← rolled]
  unfold rollback
  simp only [opened, Option.map_some, List.foldl_cons]
  rw [restoreCell_insert]

/-! ## 3. The size of memory -/

theorem write_size {memory written : Memory} {address : Nat} {data : List UInt8}
    (wrote : memory.write address data = .ok written) : written.size = memory.size := by
  obtain ⟨_, bytes, _⟩ := write_eq_ok wrote
  show written.bytes.size = memory.bytes.size
  rw [bytes, size_overwrite]

theorem allocate_size {memory allocated : Memory} {address : Nat} {dataType : DataType}
    {data : List UInt8} (success : memory.allocate address dataType data = .ok allocated) :
    allocated.size = memory.size := by
  obtain ⟨written, wrote, rfl⟩ := allocate_eq_ok success
  show written.size = memory.size
  exact write_size wrote

theorem rollback_size (memory : Memory) : memory.rollback.size = memory.size := by
  unfold rollback
  split
  · rfl
  · next journal _ =>
    simp only [size]
    generalize memory.bytes = bytes
    induction journal.bytes generalizing bytes with
    | nil => rfl
    | cons entry rest ih => rw [List.foldl_cons, ih, size_overwrite]

/-! ## 4. Sequences of accesses -/

/-- What can be done to memory between opening a journal and closing it. -/
inductive Access where
  | read (address length : Nat)
  | write (address : Nat) (data : List UInt8)
  | allocate (address : Nat) (dataType : DataType) (data : List UInt8)
  | beginJournal
deriving DecidableEq, Repr

/-- Makes one access: the bytes that were read, and memory after it. An access that fails leaves memory
as it was. -/
def perform (memory : Memory) : Access → Except Error (List UInt8) × Memory
  | .read address length => (memory.read address length, memory)
  | .write address data =>
    match memory.write address data with
    | .ok written => (.ok [], written)
    | .error error => (.error error, memory)
  | .allocate address dataType data =>
    match memory.allocate address dataType data with
    | .ok allocated => (.ok [], allocated)
    | .error error => (.error error, memory)
  | .beginJournal => (.ok [], memory.beginJournal)

/-- Memory after a sequence of accesses. -/
def performAll (memory : Memory) (accesses : List Access) : Memory :=
  accesses.foldl (fun memory access => (memory.perform access).2) memory

theorem performAll_append (memory : Memory) (first second : List Access) :
    memory.performAll (first ++ second) = (memory.performAll first).performAll second :=
  List.foldl_append

/-- What every access but the opening of a journal keeps, every sequence of such accesses keeps. -/
theorem performAll_invariant (invariant : Memory → Prop)
    (step : ∀ memory access, access ≠ .beginJournal → invariant memory →
      invariant (memory.perform access).2)
    {memory : Memory} (initial : invariant memory) {accesses : List Access}
    (noOpening : .beginJournal ∉ accesses) : invariant (memory.performAll accesses) := by
  induction accesses generalizing memory with
  | nil => exact initial
  | cons access rest ih =>
    have notFirst : access ≠ .beginJournal := Ne.symm (List.ne_of_not_mem_cons noOpening)
    exact ih (step memory access notFirst initial) (List.not_mem_of_not_mem_cons noOpening)

/-- Whether it succeeds or fails, an access does not alter what memory rolls back to. -/
theorem RollsBackTo.perform {memory base : Memory} {access : Access}
    (noOpening : access ≠ .beginJournal) (rolls : memory.RollsBackTo base) :
    (memory.perform access).2.RollsBackTo base := by
  cases access with
  | read address length => exact rolls
  | write address data =>
    unfold Memory.perform
    cases wrote : memory.write address data with
    | error error => simpa only [wrote] using rolls
    | ok written => simpa only [wrote] using rolls.write wrote
  | allocate address dataType data =>
    unfold Memory.perform
    cases made : memory.allocate address dataType data with
    | error error => simpa only [made] using rolls
    | ok allocated => simpa only [made] using rolls.allocate made
  | beginJournal => exact absurd rfl noOpening

/-- No access but the opening of a journal opens one. -/
theorem perform_closed {memory : Memory} {access : Access} (noOpening : access ≠ .beginJournal)
    (closed : memory.journal? = none) : (memory.perform access).2.journal? = none := by
  have written_closed {address data written} (wrote : memory.write address data = .ok written) :
      written.journal? = none := by
    obtain ⟨_, _, _, _, logged⟩ := write_eq_ok wrote
    rw [logged, logBytes, closed, Option.map_none]
  cases access with
  | read address length => exact closed
  | write address data =>
    unfold perform
    cases wrote : memory.write address data with
    | error error => simpa only [wrote] using closed
    | ok written => simpa only [wrote] using written_closed wrote
  | allocate address dataType data =>
    unfold perform
    cases made : memory.allocate address dataType data with
    | error error => simpa only [made] using closed
    | ok allocated =>
      obtain ⟨written, wrote, rfl⟩ := allocate_eq_ok made
      simp only [made, written_closed wrote, Option.map_none]
  | beginJournal => exact absurd rfl noOpening

theorem rollback_of_closed {memory : Memory} (closed : memory.journal? = none) :
    memory.rollback = memory := by
  unfold rollback
  rw [closed]

end Memory

/-- A rollback is exact. Make any reads, writes, new cells and openings of journals, inside memory or
outside, over each other or not, and look at the last opening among them: a rollback gives memory as it
was right before it, bytes, cells and dirty spans, with the journal closed. And once the journal was
closed to keep what was done, a rollback changes nothing, neither at once nor after further accesses that
open no other. -/
theorem rollback_restores_opening (memory : Memory) (before after : List Memory.Access)
    (last : .beginJournal ∉ after) :
    let opened := memory.performAll before
    let ended := memory.performAll (before ++ .beginJournal :: after)
    ended.rollback = { opened with journal? := none } ∧
      ∀ later, .beginJournal ∉ later →
        (ended.commit.performAll later).rollback = ended.commit.performAll later := by
  intro opened ended
  have isEnded : ended = opened.beginJournal.performAll after :=
    memory.performAll_append before (.beginJournal :: after)
  have rolls : ended.RollsBackTo opened.commit := by
    rw [isEnded]
    exact Memory.performAll_invariant (Memory.RollsBackTo · opened.commit)
      (fun _ _ noOpening => Memory.RollsBackTo.perform noOpening) opened.beginJournal_rollsBackTo last
  refine ⟨rolls.rollback_eq, fun later noOpening => Memory.rollback_of_closed ?_⟩
  exact Memory.performAll_invariant (fun memory => memory.journal? = none)
    (fun _ _ => Memory.perform_closed) rfl noOpening

namespace JournalExample

/-- Eight bytes. -/
def memory : Memory := .ofBytes #[0, 1, 2, 3, 4, 5, 6, 7]

/-- A write and a cell, then a journal and a write that it would undo. -/
def before : List Memory.Access :=
  [.write 0 [9, 9], .allocate 2 .int32 [1, 0, 0, 0], .beginJournal, .write 1 [8]]

/-- Writes and cells over each other, the same cell with two types, a write that fits and is empty, and
accesses that reach over the end of memory. -/
def after : List Memory.Access :=
  [.write 1 [1, 2, 3], .allocate 2 .float32 [5, 5, 5, 5], .allocate 2 .int32 [6, 6, 6, 6],
    .allocate 4 .int32 [7, 7, 7, 7], .write 6 [1, 2, 3], .allocate 5 .int32 [0, 0, 0, 0], .write 8 [],
    .read 7 2, .write 3 [4]]

end JournalExample

open JournalExample in
/-- The rollback goes back to the second opening and not to the first. -/
theorem second_opening_restored :
    .beginJournal ∉ after ∧
      (memory.performAll (before ++ .beginJournal :: after)).bytes = #[9, 1, 6, 4, 7, 7, 7, 7] ∧
      (memory.performAll (before ++ .beginJournal :: after)).rollback =
        { memory.performAll before with journal? := none } ∧
      (memory.performAll before).bytes = #[9, 8, 1, 0, 0, 0, 6, 7] ∧
      (memory.performAll before).dirty = [⟨0, 2⟩, ⟨2, 6⟩, ⟨1, 2⟩] := by
  have last : .beginJournal ∉ after := by decide
  exact ⟨last, by decide, (rollback_restores_opening memory before after last).1, by decide, by decide⟩

end MissionScript
