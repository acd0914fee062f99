import MissionScript.Layout

/-!
# Code map

The code map is one pass over the code, instruction after instruction: it holds where every
instruction starts and which instructions jump where. A jump goes by its first argument and only
counts when that argument is an integer literal; what a variable holds is not known before the
script runs.
-/

namespace MissionScript

/-- An instruction that names a code address, and that address. -/
structure Jump where
  source : Nat
  target : Nat
deriving DecidableEq, Repr, Inhabited

structure CodeMap where
  /-- Where the instructions start, in ascending order. -/
  starts : Array Nat
  /-- The jumps, by ascending source. -/
  jumps : Array Jump
deriving DecidableEq, Repr, Inhabited

namespace CodeMap

/-- The map of no code. -/
def empty : CodeMap := ⟨#[], #[]⟩

/-! ## 1. Building -/

/-- The address that a target stands for. Negative targets need a layout. -/
def resolveTarget (layout? : Option Layout) (source : Nat) (target : Int32) : Except Error Nat :=
  match layout? with
  | some layout => layout.resolveTarget source target
  | none =>
    if 0 ≤ target.toInt then .ok target.toInt.toNat
    else .error (.invalidJumpTarget target.toInt source)

/-- The literal target of an instruction whose first argument names a code address. -/
def literalTarget? (instruction : Instruction) : Option Int32 :=
  if (Flow.ofOpcode instruction.opcode).hasTarget then instruction.immediate? else none

/-- Adds the next instruction. -/
def add (map : CodeMap) (layout? : Option Layout) (instruction : Instruction) :
    Except Error CodeMap :=
  let starts := map.starts.push instruction.address
  match literalTarget? instruction with
  | none => .ok { map with starts }
  | some target =>
    match resolveTarget layout? instruction.address target with
    | .error error => .error error
    | .ok address => .ok { starts, jumps := map.jumps.push ⟨instruction.address, address⟩ }

/-- Adds the instructions from an address to the end of memory. Every instruction takes at least
two bytes, so the bytes left bound their number. -/
def scan {H : Type} (registry : Registry H) (memory : Memory) (layout? : Option Layout) :
    Nat → Nat → CodeMap → Except Error CodeMap
  | 0, _, map => .ok map
  | left + 1, address, map =>
    if memory.size ≤ address then .ok map
    else
      match registry.decode memory address with
      | .error error => .error error
      | .ok instruction =>
        match map.add layout? instruction with
        | .error error => .error error
        | .ok map => scan registry memory layout? left instruction.next map

/-- Maps the code from `start` to the end of memory, or reports the first address that fails. -/
def build {H : Type} (registry : Registry H) (memory : Memory) (start : Nat)
    (layout? : Option Layout) : Except Error CodeMap :=
  scan registry memory layout? (memory.size - start) start empty

/-! ## 2. Questions -/

def size (map : CodeMap) : Nat := map.starts.size

/-- Halves the indices `low .. high` until it is known how many starts lie at or before the
address. -/
def search (starts : Array Nat) (address : Nat) : Nat → Nat → Nat → Nat
  | 0, low, _ => low
  | fuel + 1, low, high =>
    if low < high then
      let middle := (low + high) / 2
      if starts.getD middle 0 ≤ address then search starts address fuel (middle + 1) high
      else search starts address fuel low middle
    else low

/-- How many instructions start at or before an address. -/
def countUpTo (map : CodeMap) (address : Nat) : Nat :=
  search map.starts address map.starts.size 0 map.starts.size

/-- The last start at or before an address. -/
def startBefore? (map : CodeMap) (address : Nat) : Option Nat :=
  match map.countUpTo address with
  | 0 => none
  | count + 1 => map.starts[count]?

/-- Whether an instruction starts at an address. -/
def startsAt (map : CodeMap) (address : Nat) : Bool := map.startBefore? address == some address

/-- The instructions that jump to an address, in ascending order. -/
def sourcesOf (map : CodeMap) (target : Nat) : List Nat :=
  (map.jumps.toList.filter fun jump => jump.target == target).map Jump.source

end CodeMap

end MissionScript
