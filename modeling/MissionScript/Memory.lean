import MissionScript.Digest
import MissionScript.Error
import MissionScript.Table
import MissionScript.Value

/-!
# Memory

A script is one flat array of bytes that holds code and global variables alike. Next to the bytes,
memory keeps:
* the typed cells, four bytes each, that stores to variables have made, so that a later reader can
  tell an integer from a floating point number;
* the spans written since the list was last cleared, in order;
* while a journal is open, what every write and every new cell replaced, so that all of them can
  be undone.

A read or a write that would leave the array fails and changes nothing.
-/

namespace MissionScript

/-- The addresses from `start` up to but not including `stop`. -/
structure Span where
  start : Nat
  stop : Nat
deriving DecidableEq, Repr, Inhabited

namespace Span

def contains (span : Span) (address : Nat) : Bool := span.start ≤ address && address < span.stop

end Span

/-- A typed place in memory. -/
structure Cell where
  dataType : DataType
  /-- The number of bytes. -/
  width : Nat
deriving DecidableEq, Repr, Inhabited

/-- The number of bytes of a variable. -/
def cellWidth : Nat := 4

/-- What has been replaced since the journal was opened, the latest first. -/
structure Journal where
  bytes : List (Nat × List UInt8)
  cells : List (Nat × Option Cell)
  /-- How many spans were dirty when the journal was opened. -/
  dirtyLength : Nat
deriving DecidableEq, Repr

structure Memory where
  bytes : Array UInt8
  cells : Table Cell
  /-- The spans written since the list was last cleared. -/
  dirty : List Span
  journal? : Option Journal
deriving DecidableEq, Repr

/-- The array with `data` written over it from `address` on; what would lie outside is dropped. -/
def overwrite (bytes : Array UInt8) (address : Nat) : List UInt8 → Array UInt8
  | [] => bytes
  | byte :: rest => overwrite (bytes.setIfInBounds address byte) (address + 1) rest

@[simp] theorem size_overwrite (bytes : Array UInt8) (address : Nat) (data : List UInt8) :
    (overwrite bytes address data).size = bytes.size := by
  induction data generalizing bytes address with
  | nil => rfl
  | cons byte rest ih => simp [overwrite, ih]

/-- Inside the span that is written stands the data, and elsewhere what stood there before. -/
theorem getElem?_overwrite (bytes : Array UInt8) (address : Nat) (data : List UInt8) (index : Nat)
    (fits : address + data.length ≤ bytes.size) :
    (overwrite bytes address data)[index]? =
      if address ≤ index ∧ index < address + data.length then data[index - address]?
      else bytes[index]? := by
  induction data generalizing bytes address with
  | nil => grind [overwrite]
  | cons byte rest ih =>
    simp only [List.length_cons] at fits
    rw [overwrite, ih _ _ (by simp; omega)]
    grind

/-- Puts a cell back to what it was. -/
def restoreCell (cells : Table Cell) (address : Nat) : Option Cell → Table Cell
  | some cell => cells.insert address cell
  | none => cells.erase address

namespace Memory

/-- The memory of a freshly loaded script. -/
def ofBytes (bytes : Array UInt8) : Memory := ⟨bytes, .empty, [], none⟩

def size (memory : Memory) : Nat := memory.bytes.size

/-! ## 1. Reading -/

/-- The bytes of a span, for spans that lie inside memory. -/
def slice (memory : Memory) (span : Span) : List UInt8 :=
  (memory.bytes.extract span.start span.stop).toList

def read (memory : Memory) (address length : Nat) : Except Error (List UInt8) :=
  if address + length ≤ memory.size then .ok (memory.slice ⟨address, address + length⟩)
  else .error (.outOfBounds address length memory.size)

def readByte (memory : Memory) (address : Nat) : Except Error UInt8 :=
  if h : address < memory.bytes.size then .ok memory.bytes[address]
  else .error (.outOfBounds address 1 memory.size)

def readUInt16 (memory : Memory) (address : Nat) : Except Error UInt16 :=
  (memory.read address 2).map fun bytes => UInt16.ofNat (littleEndian bytes)

def readInt32 (memory : Memory) (address : Nat) : Except Error Int32 :=
  (memory.read address 4).map signExtend

def readSingle (memory : Memory) (address : Nat) : Except Error Single :=
  (memory.read address 4).map fun bytes => ⟨UInt32.ofNat (littleEndian bytes)⟩

def digest (memory : Memory) : List UInt8 := Digest.sha3 memory.bytes.toList

/-! ## 2. Writing -/

/-- Records in an open journal which bytes a write replaces. -/
def logBytes (memory : Memory) (address : Nat) (old : List UInt8) : Option Journal :=
  memory.journal?.map fun journal => { journal with bytes := (address, old) :: journal.bytes }

/-- Overwrites bytes and marks the span dirty; a write of nothing marks nothing. -/
def write (memory : Memory) (address : Nat) (data : List UInt8) : Except Error Memory :=
  let span : Span := ⟨address, address + data.length⟩
  if span.stop ≤ memory.size then
    .ok {
      bytes := overwrite memory.bytes address data
      cells := memory.cells
      dirty := if data.isEmpty then memory.dirty else memory.dirty ++ [span]
      journal? := memory.logBytes address (memory.slice span) }
  else .error (.outOfBounds address data.length memory.size)

/-- Stores the four bytes of a variable and notes their type. -/
def allocate (memory : Memory) (address : Nat) (dataType : DataType) (data : List UInt8) :
    Except Error Memory :=
  match memory.write address data with
  | .error error => .error error
  | .ok written =>
    .ok { written with
      cells := written.cells.insert address ⟨dataType, cellWidth⟩
      journal? := written.journal?.map fun journal =>
        { journal with cells := (address, written.cells.get? address) :: journal.cells } }

/-- The cell that starts at an address. -/
def cell? (memory : Memory) (address : Nat) : Option Cell := memory.cells.get? address

/-- The cell that an address lies in, with its start: the nearest one that starts at or before the
address, if it reaches that far. -/
def cellCovering? (memory : Memory) (address : Nat) : Option (Nat × Cell) :=
  (memory.cells.floor? address).filter fun entry => address < entry.1 + entry.2.width

def clearDirty (memory : Memory) : Memory := { memory with dirty := [] }

/-! ## 3. Journal -/

/-- Opens a journal, in place of any journal that is open. -/
def beginJournal (memory : Memory) : Memory :=
  { memory with journal? := some ⟨[], [], memory.dirty.length⟩ }

/-- Closes the journal and keeps what was done. -/
def commit (memory : Memory) : Memory := { memory with journal? := none }

/-- Undoes everything since the journal was opened, the latest first, and closes it. -/
def rollback (memory : Memory) : Memory :=
  match memory.journal? with
  | none => memory
  | some journal => {
      bytes := journal.bytes.foldl (fun bytes entry => overwrite bytes entry.1 entry.2) memory.bytes
      cells := journal.cells.foldl (fun cells entry => restoreCell cells entry.1 entry.2) memory.cells
      dirty := memory.dirty.take journal.dirtyLength
      journal? := none }

end Memory

end MissionScript
