import MissionScript.Arguments
import MissionScript.Proofs.Contents
import MissionScript.Proofs.Journal

/-!
# Global variables

A global variable is kept in two places: its four bytes stand in memory, and the table of cells says
whether they are an integer or a floating point number. A store changes both and a write only the
bytes. As long as variables do not overlap and writes stay off them, the two never come apart: what is
read is what was stored last, to the bit, and everything that nobody has touched reads as before.

Results:
1. `Arguments.readGlobal_of_stored`: right after a store its value is read.
2. `Memory.Untouched.editAll`: edits that stay off four bytes leave them and their cell alone, and so
   what is read there (`Memory.Untouched.readGlobal_eq`).
3. `Arguments.readGlobal_eq_error_iff`: a read fails only where the bytes leave memory.
4. `globals_hold_last_store`: what pointers are resolved to after any sequence of edits.
-/

namespace MissionScript

/-! ## 1. Edits -/

/-- A change to memory: a value stored in a variable, or bytes written anywhere. -/
inductive Edit where
  | store (address : Nat) (value : Value)
  | write (address : Nat) (data : List UInt8)
deriving DecidableEq, Repr

/-- The bytes of the variable at an address. -/
def variableSpan (address : Nat) : Span := ⟨address, address + cellWidth⟩

/-- The two spans have no address in common. -/
def Span.Disjoint (left right : Span) : Prop :=
  ∀ address, left.contains address = true → right.contains address = false

namespace Span

theorem contains_iff {span : Span} {address : Nat} :
    span.contains address = true ↔ span.start ≤ address ∧ address < span.stop := by
  simp [contains]

theorem Disjoint.outside {left right : Span} (disjoint : left.Disjoint right) {address : Nat}
    (inside : right.contains address = true) :
    ¬ (left.start ≤ address ∧ address < left.stop) := by
  intro covered
  rw [disjoint address (contains_iff.2 covered)] at inside
  cases inside

theorem disjoint_of_apart {left right : Span}
    (apart : left.stop ≤ right.start ∨ right.stop ≤ left.start) : left.Disjoint right := by
  intro address inLeft
  obtain ⟨leftStart, leftStop⟩ := contains_iff.1 inLeft
  refine Bool.eq_false_iff.2 fun inRight => ?_
  obtain ⟨rightStart, rightStop⟩ := contains_iff.1 inRight
  rcases apart with before | behind
  · exact Nat.not_le_of_lt leftStop (Nat.le_trans before rightStart)
  · exact Nat.not_le_of_lt rightStop (Nat.le_trans behind leftStart)

end Span

theorem variableSpan_contains (address : Nat) : (variableSpan address).contains address = true :=
  Span.contains_iff.2 ⟨Nat.le_refl address, Nat.lt_add_of_pos_right (by decide)⟩

namespace Edit

/-- The bytes that the edit covers. -/
def span : Edit → Span
  | .store address _ => variableSpan address
  | .write address data => ⟨address, address + data.length⟩

/-- Where the edit stores a value. -/
def storedAt? : Edit → Option Nat
  | .store address _ => some address
  | .write _ _ => none

/-- The variables that edits store to are the same or do not overlap, and writes stay off all of
them. -/
structure Spaced (edits : List Edit) : Prop where
  stores : ∀ left ∈ edits.filterMap storedAt?, ∀ right ∈ edits.filterMap storedAt?,
    left = right ∨ left + cellWidth ≤ right ∨ right + cellWidth ≤ left
  writes : ∀ address data, .write address data ∈ edits →
    ∀ place ∈ edits.filterMap storedAt?, (Edit.write address data).span.Disjoint (variableSpan place)

/-- The value is the last one that the edits store at the address. -/
def LastStored (edits : List Edit) (address : Nat) (value : Value) : Prop :=
  ∃ before after, edits = before ++ .store address value :: after ∧
    ∀ other, .store address other ∉ after

end Edit

namespace Memory

/-- Makes an edit, if it can be made: text has no place in a variable, and nothing is put outside
memory. -/
def edit? (memory : Memory) : Edit → Option Memory
  | .store address value =>
    value.storage?.bind fun stored => (memory.allocate address stored.1 stored.2).toOption
  | .write address data => (memory.write address data).toOption

/-- Makes edits in order, if all of them can be made. -/
def editAll? (memory : Memory) (edits : List Edit) : Option Memory := edits.foldlM edit? memory

/-- Edits are made one after the other. -/
theorem editAll?_of_split {memory edited : Memory} {before after : List Edit} {edit : Edit}
    (made : memory.editAll? (before ++ edit :: after) = some edited) :
    ∃ reached next : Memory, reached.edit? edit = some next ∧ next.editAll? after = some edited := by
  unfold editAll? at made
  rw [List.foldlM_append] at made
  obtain ⟨reached, _, rest⟩ := Option.bind_eq_some_iff.1 made
  obtain ⟨next, isNext, afterMade⟩ := Option.bind_eq_some_iff.1 rest
  exact ⟨reached, next, isNext, afterMade⟩

theorem edit?_store {memory edited : Memory} {address : Nat} {value : Value}
    (made : memory.edit? (.store address value) = some edited) :
    ∃ dataType data, value.storage? = some (dataType, data) ∧
      memory.allocate address dataType data = .ok edited := by
  obtain ⟨⟨dataType, data⟩, stored, allocated⟩ := Option.bind_eq_some_iff.1 made
  exact ⟨dataType, data, stored, except_toOption_eq_some.1 allocated⟩

/-! ## 2. What edits leave alone -/

/-- The four bytes at an address and the entry for them are the same in two memories. -/
structure Untouched (address : Nat) (before after : Memory) : Prop where
  size : after.size = before.size
  bytes : ∀ index, (variableSpan address).contains index = true →
    after.bytes[index]? = before.bytes[index]?
  cell : after.cell? address = before.cell? address

namespace Untouched

variable {memory before after last edited : Memory} {address : Nat}

theorem refl (address : Nat) (memory : Memory) : Untouched address memory memory :=
  ⟨rfl, fun _ _ => rfl, rfl⟩

theorem trans (first : Untouched address before after) (second : Untouched address after last) :
    Untouched address before last where
  size := second.size.trans first.size
  bytes index inside := (second.bytes index inside).trans (first.bytes index inside)
  cell := second.cell.trans first.cell

/-- An edit leaves alone what it does not cover. A store leaves every other cell alone as well, since
it covers the first byte of its own. -/
theorem edit {edit : Edit} (made : memory.edit? edit = some edited)
    (disjoint : edit.span.Disjoint (variableSpan address)) : Untouched address memory edited := by
  cases edit with
  | store place value =>
    obtain ⟨dataType, data, stored, allocated⟩ := edit?_store made
    obtain ⟨bytes, cells⟩ := allocate_keeps allocated
    refine ⟨allocate_size allocated, fun index inside => bytes index ?_, cells address ?_⟩
    · rw [Value.length_storage? stored]
      exact disjoint.outside inside
    · rintro rfl
      exact disjoint.outside (variableSpan_contains address) (Span.contains_iff.1 (variableSpan_contains address))
  | write start data =>
    have wrote := except_toOption_eq_some.1 made
    obtain ⟨_, _, cells, _⟩ := write_eq_ok wrote
    refine ⟨write_size wrote, fun index inside => write_keeps wrote (disjoint.outside inside), ?_⟩
    exact congrArg (fun cells => cells.get? address) cells

/-- What each edit leaves alone, all of them do. -/
theorem editAll {edits : List Edit} (made : memory.editAll? edits = some edited)
    (disjoint : ∀ edit ∈ edits, edit.span.Disjoint (variableSpan address)) :
    Untouched address memory edited := by
  induction edits generalizing memory with
  | nil =>
    cases made
    exact .refl address _
  | cons first rest ih =>
    obtain ⟨next, firstMade, restMade⟩ := Option.bind_eq_some_iff.1 made
    obtain ⟨firstOff, restOff⟩ := List.forall_mem_cons.1 disjoint
    exact (edit firstMade firstOff).trans (ih restMade restOff)

theorem read_eq (untouched : Untouched address before after) :
    after.read address 4 = before.read address 4 := by
  by_cases fits : address + 4 ≤ before.size
  · have found : before.read address 4 = .ok (before.slice ⟨address, address + 4⟩) := if_pos fits
    obtain ⟨four, _, holds⟩ := read_eq_ok_iff.1 found
    rw [found]
    refine read_eq_ok_iff.2 ⟨four, untouched.size ▸ fits, holds.congr fun index low high => ?_⟩
    rw [four] at high
    exact untouched.bytes index (Span.contains_iff.2 ⟨low, high⟩)
  · unfold read
    rw [untouched.size, if_neg fits, if_neg fits]

theorem readGlobal_eq (untouched : Untouched address before after) :
    Arguments.readGlobal after address = Arguments.readGlobal before address := by
  unfold Arguments.readGlobal readSingle readInt32
  rw [untouched.cell, untouched.read_eq]

end Untouched

end Memory

/-! ## 3. What is read -/

namespace Memory

/-- A new cell holds its bytes, under its type. -/
theorem allocate_holds {memory allocated : Memory} {address : Nat} {dataType : DataType}
    {data : List UInt8} (made : memory.allocate address dataType data = .ok allocated) :
    allocated.Holds address data ∧ allocated.cell? address = some ⟨dataType, cellWidth⟩ := by
  obtain ⟨written, wrote, rfl⟩ := allocate_eq_ok made
  obtain ⟨fits, bytes, _⟩ := write_eq_ok wrote
  constructor
  · intro index inside
    show written.bytes[address + index]? = data[index]?
    rw [bytes, getElem?_overwrite _ _ _ _ fits,
      if_pos ⟨Nat.le_add_right _ _, Nat.add_lt_add_left inside _⟩, Nat.add_sub_cancel_left]
  · show (written.cells.insert address _).get? address = _
    rw [Table.get?_insert, if_pos rfl]

end Memory

namespace Arguments

/-- Right after a store its value is read, with its kind and all of its bits. -/
theorem readGlobal_of_stored {memory stored : Memory} {address : Nat} {value : Value}
    (made : memory.edit? (.store address value) = some stored) :
    readGlobal stored address = .ok value := by
  obtain ⟨dataType, data, isStorage, allocated⟩ := Memory.edit?_store made
  obtain ⟨holds, isCell⟩ := Memory.allocate_holds allocated
  unfold readGlobal
  cases value with
  | int number =>
    cases isStorage
    rw [isCell, Memory.readInt32_eq_ok_iff.2 holds]
    rfl
  | float number =>
    cases isStorage
    rw [isCell, Memory.readSingle_eq_ok_iff.2 holds]
    rfl
  | text string => cases isStorage

/-- A read fails exactly where the four bytes leave memory, whatever the kind of the variable. -/
theorem readGlobal_eq_error_iff {memory : Memory} {address : Nat} {error : Error} :
    readGlobal memory address = .error error ↔
      memory.size < address + 4 ∧ error = .outOfBounds address 4 memory.size := by
  unfold readGlobal
  split <;> simp only [Memory.readSingle, Memory.readInt32, except_map_eq_error,
    Memory.read_eq_error_iff]

/-- A pointer to a global variable is resolved to what is read there, where it is accepted. -/
theorem resolveOne_of_pointer {source : Source} {constraint : Constraint} {index address : Nat}
    {argument : Argument} (pointer : argument.operand = .globalVar address) :
    resolveOne source constraint index argument =
      if constraint.accepts .globalVar = true then
        (readGlobal source.memory address).map (⟨.globalVar, ·, some (.global address)⟩)
      else .error (.typeMismatch source.opcode index constraint.name DataType.globalVar.name) := by
  have isPointer : argument.dataType = .globalVar := by
    cases kind : argument.dataType <;> simp [Argument.operand, kind] at pointer ⊢
  unfold resolveOne
  simp only [pointer, isPointer]
  cases constraint.accepts .globalVar <;> rfl

end Arguments

/-! ## 4. Whole sequences -/

namespace Edit

theorem mem_variables {edits : List Edit} {address : Nat} :
    address ∈ edits.filterMap storedAt? ↔ ∃ value, .store address value ∈ edits := by
  rw [List.mem_filterMap]
  constructor
  · rintro ⟨edit, member, isVariable⟩
    cases edit with
    | store place value =>
      cases isVariable
      exact ⟨value, member⟩
    | write => cases isVariable
  · rintro ⟨value, member⟩
    exact ⟨_, member, rfl⟩

/-- Where something is stored, something is stored last. -/
theorem exists_lastStored {edits : List Edit} {address : Nat} {value : Value}
    (member : .store address value ∈ edits) : ∃ last, LastStored edits address last := by
  induction edits generalizing value with
  | nil => cases member
  | cons first rest ih =>
    by_cases later : ∃ other, .store address other ∈ rest
    · obtain ⟨other, inRest⟩ := later
      obtain ⟨last, before, after, rfl, isLast⟩ := ih inRest
      exact ⟨last, first :: before, after, rfl, isLast⟩
    · cases member with
      | head => exact ⟨value, [], rest, rfl, fun other inRest => later ⟨other, inRest⟩⟩
      | tail _ inRest => exact absurd ⟨value, inRest⟩ later

/-- Edits that do not store to a variable stay off it. -/
theorem Spaced.disjoint {edits : List Edit} (spaced : Spaced edits) {address : Nat}
    (isVariable : address ∈ edits.filterMap storedAt?) {edit : Edit} (member : edit ∈ edits)
    (notHere : ∀ value, edit ≠ .store address value) :
    edit.span.Disjoint (variableSpan address) := by
  cases edit with
  | store place value =>
    have other : place ∈ edits.filterMap storedAt? := mem_variables.2 ⟨value, member⟩
    refine Span.disjoint_of_apart
      ((spaced.stores place other address isVariable).resolve_left ?_)
    rintro rfl
    exact notHere value rfl
  | write start data => exact spaced.writes start data member address isVariable

end Edit

/-- Global variables are a typed store. Make any stores and writes that can be made, such that no two
variables overlap and no write touches one. A pointer to a variable is then resolved to the value that
was stored there last, of the same kind and with the same bits; a pointer to four bytes that no edit
covers is resolved to what it was resolved to before. -/
theorem globals_hold_last_store {memory edited : Memory} {edits : List Edit}
    (made : memory.editAll? edits = some edited) (spaced : Edit.Spaced edits) (opcode : Opcode)
    (thread : Thread) (now index : Nat) (constraint : Constraint) (argument : Argument) (address : Nat)
    (pointer : argument.operand = .globalVar address) :
    (address ∈ edits.filterMap Edit.storedAt? → ∃ value, Edit.LastStored edits address value) ∧
    (∀ value, Edit.LastStored edits address value → constraint.accepts .globalVar = true →
      Arguments.resolveOne ⟨opcode, edited, thread, now⟩ constraint index argument =
        .ok ⟨.globalVar, value, some (.global address)⟩) ∧
    ((∀ edit ∈ edits, edit.span.Disjoint (variableSpan address)) →
      Arguments.resolveOne ⟨opcode, edited, thread, now⟩ constraint index argument =
        Arguments.resolveOne ⟨opcode, memory, thread, now⟩ constraint index argument) := by
  rw [Arguments.resolveOne_of_pointer pointer, Arguments.resolveOne_of_pointer pointer]
  refine ⟨?_, ?_, ?_⟩
  · intro isVariable
    obtain ⟨value, member⟩ := Edit.mem_variables.1 isVariable
    exact Edit.exists_lastStored member
  · rintro value ⟨before, after, rfl, last⟩ accepted
    obtain ⟨_, stored, storeMade, afterMade⟩ := Memory.editAll?_of_split made
    have isVariable : address ∈ (before ++ .store address value :: after).filterMap Edit.storedAt? :=
      Edit.mem_variables.2 ⟨value, List.mem_append_right _ List.mem_cons_self⟩
    have untouched : Memory.Untouched address stored edited := by
      refine .editAll afterMade fun edit later => ?_
      refine spaced.disjoint isVariable (List.mem_append_right _ (List.mem_cons_of_mem _ later)) ?_
      rintro other rfl
      exact last other later
    rw [if_pos accepted, untouched.readGlobal_eq, Arguments.readGlobal_of_stored storeMade]
    rfl
  · intro disjoint
    rw [(Memory.Untouched.editAll made disjoint).readGlobal_eq]

namespace GlobalVariablesExample

/-- Sixteen bytes, with an open journal. -/
def memory : Memory :=
  (Memory.ofBytes #[0, 1, 2, 3, 4, 5, 6, 7, 8, 9, 10, 11, 12, 13, 14, 15]).beginJournal

/-- An integer that becomes a float and in the end one that is no number, next to a negative integer,
and two writes, one of them of nothing. -/
def edits : List Edit :=
  [.store 0 (.int 7), .store 4 (.int (-2)), .write 5 [], .store 0 (.float ⟨0x3F800000⟩),
    .write 8 [9, 9, 9, 9], .store 0 (.float ⟨0xFFC00001⟩)]

/-- A pointer to the variable at an address. -/
def pointer (address : UInt8) : Argument := ⟨.globalVar, [address, 0]⟩

theorem edits_spaced : Edit.Spaced edits where
  stores := by decide
  writes := by
    intro address data member place isVariable
    have isPlace : ∀ place ∈ edits.filterMap Edit.storedAt?, (variableSpan place).stop ≤ 8 := by decide
    have isWrite : address = 5 ∧ data = [] ∨ address = 8 ∧ data = [9, 9, 9, 9] := by
      simpa [edits] using member
    rcases isWrite with ⟨rfl, rfl⟩ | ⟨rfl, rfl⟩
    · intro index inside
      obtain ⟨low, high⟩ := Span.contains_iff.1 inside
      exact absurd high (Nat.not_lt_of_le low)
    · exact Span.disjoint_of_apart (Or.inr (isPlace place isVariable))

end GlobalVariablesExample

open GlobalVariablesExample in
/-- The first variable has changed its kind and kept its odd bits, and behind the writes nothing has
changed. -/
theorem retyped_variable_reads_back :
    ∃ edited, memory.editAll? edits = some edited ∧ Edit.Spaced edits ∧
      Edit.LastStored edits 0 (.float ⟨0xFFC00001⟩) ∧
      Arguments.resolveOne ⟨⟨0⟩, edited, .ofStart 0 0 0, 0⟩ .var 0 (pointer 0) =
        .ok ⟨.globalVar, .float ⟨0xFFC00001⟩, some (.global 0)⟩ ∧
      Arguments.resolveOne ⟨⟨0⟩, edited, .ofStart 0 0 0, 0⟩ .var 0 (pointer 12) =
        Arguments.resolveOne ⟨⟨0⟩, memory, .ofStart 0 0 0, 0⟩ .var 0 (pointer 12) := by
  obtain ⟨edited, made⟩ : ∃ edited, memory.editAll? edits = some edited := ⟨_, rfl⟩
  have resolves := globals_hold_last_store made edits_spaced ⟨0⟩ (.ofStart 0 0 0) 0 0 .var
  have last : Edit.LastStored edits 0 (.float ⟨0xFFC00001⟩) :=
    ⟨edits.take 5, [], rfl, fun _ => List.not_mem_nil⟩
  have early : ∀ edit ∈ edits, edit.span.stop ≤ 12 := by decide
  refine ⟨edited, made, edits_spaced, last, (resolves (pointer 0) 0 rfl).2.1 _ last rfl, ?_⟩
  refine (resolves (pointer 12) 12 rfl).2.2 fun edit member => ?_
  exact Span.disjoint_of_apart (Or.inl (early edit member))

end MissionScript
