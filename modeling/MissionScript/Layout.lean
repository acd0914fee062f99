import MissionScript.Builtin
import MissionScript.Instruction

/-!
# Layout

A script opens with three regions: the global variables, the names of the models and the table of
the missions. A jump over each region stands before it, followed by a marker byte that depends on
the game. The jump's target is the end of the region. After the third region comes main code, and
from the first mission's start on, mission code.

`Layout.detect` finds the regions and reads the two tables, or says why the script is none.
-/

namespace MissionScript

/-- The game a script was compiled for. -/
inductive Variant where
  | viceCity
  | sanAndreas
deriving DecidableEq, Repr, Inhabited

namespace Variant

def name : Variant → String
  | .viceCity => "vc"
  | .sanAndreas => "sa"

def ofName? (name : String) : Option Variant :=
  if name = "vc" then some .viceCity
  else if name = "sa" then some .sanAndreas
  else none

/-- What is said about a name that no game has. -/
def unknownMessage (name : String) : String := s!"unknown game '{name}' (expected vc or sa)"

end Variant

/-- The three leading regions. -/
inductive Region where
  | globals
  | models
  | missions
deriving DecidableEq, Repr

def Region.name : Region → String
  | .globals => "memory"
  | .models => "models"
  | .missions => "missions"

/-- The byte that marks a region. -/
def Variant.marker : Variant → Region → UInt8
  | .viceCity, .globals => 0x6D
  | .viceCity, .models => 0x00
  | .viceCity, .missions => 0x00
  | .sanAndreas, .globals => 0x73
  | .sanAndreas, .models => 0x00
  | .sanAndreas, .missions => 0x01

/-- The addresses of one mission, both ends included. -/
structure Mission where
  first : Nat
  last : Nat
deriving DecidableEq, Repr, Inhabited

def Mission.contains (mission : Mission) (address : Nat) : Bool :=
  mission.first ≤ address && address ≤ mission.last

structure Layout where
  globals : Span
  models : Span
  missionTable : Span
  mainCode : Span
  missionCode : Span
  /-- The name at index `i` belongs to the model with the number `-i`. -/
  modelNames : List String
  missions : List Mission
  /-- Two numbers of the mission table that are kept but not used. -/
  missionsStart : Int32
  allocatedMemory : Int32
deriving DecidableEq, Repr, Inhabited

namespace Layout

/-! ## 1. Questions -/

def mission? (layout : Layout) (id : Nat) : Option Mission := layout.missions[id]?

def missionContaining? (layout : Layout) (address : Nat) : Option Mission :=
  layout.missions.find? fun mission => mission.contains address

def modelName? (layout : Layout) (id : Int32) : Option String :=
  if 0 < id.toInt then none else layout.modelNames[id.toInt.natAbs]?

/-- The address that a jump at `source` names: a negative target counts from the start of the
mission that the jump stands in. -/
def resolveTarget (layout : Layout) (source : Nat) (target : Int32) : Except Error Nat :=
  if 0 ≤ target.toInt then .ok target.toInt.toNat
  else
    match layout.missionContaining? source with
    | some mission => .ok (mission.first + target.toInt.natAbs)
    | none => .error (.invalidJumpTarget target.toInt source)

/-! ## 2. Detection -/

/-- Why a script has no layout. -/
inductive Fault where
  | unreadable (cause : Error)
  | noJump (region : Region) (address : Nat) (found : Opcode)
  | wrongMarker (region : Region) (address : Nat) (expected found : UInt8)
  | noAddress (region : Region)
  | badEnd (region : Region) (target : Int32)
  | noJumpAtEnd (region : Region) (address : Nat)
  | negativeModelCount
  | modelOverflow (count : Nat)
  | negativeMissionCount
  | missionOverflow (count : Nat)
  | badMissionStart (index : Nat) (start : Int32)
deriving DecidableEq, Repr

def Fault.reason : Fault → String
  | .unreadable cause => cause.message
  | .noJump region address found =>
    s!"expected jump before {region.name} region at {address}, found {found}"
  | .wrongMarker region address expected found =>
    let wanted := String.ofList (Text.byteHex expected)
    let got := String.ofList (Text.byteHex found)
    s!"{region.name} marker at {address}: expected 0x{wanted}, found 0x{got}"
  | .noAddress region => s!"{region.name} jump has no address"
  | .badEnd region target => s!"{region.name} region ends at invalid address {target.toInt}"
  | .noJumpAtEnd region address =>
    s!"{region.name} region end {address} does not start with a jump"
  | .negativeModelCount => "negative model count"
  | .modelOverflow count => s!"model table of {count} entries overflows region"
  | .negativeMissionCount => "negative mission count"
  | .missionOverflow count => s!"mission table of {count} entries overflows region"
  | .badMissionStart index start => s!"mission {index} starts at invalid address {start.toInt}"

/-- Anything that memory or the decoder objects to makes the script unreadable. -/
def readable {α : Type} (result : Except Error α) : Except Fault α := result.mapError .unreadable

/-- The bytes of a jump that is not negated. -/
def jumpBytes : List UInt8 := Builtin.goto.opcode.bytes false

/-- Finds the region that the jump at `offset` leads over. Each region but the last must be
followed by the jump over the next one. -/
def findRegion {H : Type} (registry : Registry H) (memory : Memory) (variant : Variant)
    (region : Region) (offset : Nat) : Except Fault Span := do
  let jump ← readable (registry.decode memory offset)
  if jump.opcode ≠ Builtin.goto.opcode then
    throw (.noJump region offset jump.opcode)
  let markerAt := jump.next
  let found ← readable (memory.readByte markerAt)
  let expected := variant.marker region
  if found ≠ expected then
    throw (.wrongMarker region markerAt expected found)
  let some target := jump.immediate? | throw (.noAddress region)
  let stop := target.toInt.toNat
  if target.toInt < 0 ∨ stop ≤ markerAt ∨ memory.size < stop then
    throw (.badEnd region target)
  if region ≠ .missions ∧ (memory.read stop Opcode.width).toOption ≠ some jumpBytes then
    throw (.noJumpAtEnd region stop)
  pure ⟨markerAt + 1, stop⟩

/-- The number of bytes of a model name. -/
def modelNameWidth : Nat := 24

/-- Reads the count and the names of the model table. -/
def readModels (memory : Memory) (region : Span) : Except Fault (List String) := do
  let count ← readable (memory.readInt32 region.start)
  if count.toInt < 0 then
    throw .negativeModelCount
  let count := count.toInt.toNat
  let first := region.start + 4
  if region.stop < first + count * modelNameWidth then
    throw (.modelOverflow count)
  (List.range count).mapM fun index => do
    let name ← readable (memory.read (first + index * modelNameWidth) modelNameWidth)
    pure (Text.decodeTerminated name)

/-- Reads where the missions start. No mission starts before the end of the table. -/
def readMissionStarts (memory : Memory) (first tableEnd count : Nat) : Except Fault (List Nat) :=
  (List.range count).mapM fun index => do
    let start ← readable (memory.readInt32 (first + index * 4))
    let address := start.toInt.toNat
    if start.toInt < 0 ∨ address < tableEnd ∨ memory.size ≤ address then
      throw (.badMissionStart index start)
    pure address

/-- Puts a start in its place among starts in ascending order. -/
def insertStart (start : Nat) : List Nat → List Nat
  | [] => [start]
  | first :: rest =>
    if start ≤ first then start :: first :: rest else first :: insertStart start rest

/-- The starts in ascending order. -/
def sortStarts (starts : List Nat) : List Nat :=
  starts.foldr insertStart []

/-- Each mission runs up to the next higher start, and the last one to the end of the script. Starts are
looked up in ascending order, each once. -/
def missionRanges (starts : List Nat) (size : Nat) : List Mission :=
  let sorted := (sortStarts starts).eraseReps
  starts.map fun start =>
    let next := (sorted.find? fun other => start < other).getD size
    ⟨start, next - 1⟩

/-- The regions and tables of a script, or the first fault. -/
def detectRegions {H : Type} (registry : Registry H) (memory : Memory) (variant : Variant) :
    Except Fault Layout := do
  let globals ← findRegion registry memory variant .globals 0
  let models ← findRegion registry memory variant .models globals.stop
  let missionTable ← findRegion registry memory variant .missions models.stop
  let modelNames ← readModels memory models
  let base := missionTable.start
  let missionsStart ← readable (memory.readInt32 base)
  let allocatedMemory ← readable (memory.readInt32 (base + 4))
  let count ← readable (memory.readInt32 (base + 8))
  if count.toInt < 0 then
    throw .negativeMissionCount
  let count := count.toInt.toNat
  let tableEnd := base + 12 + count * 4
  if missionTable.stop < tableEnd then
    throw (.missionOverflow count)
  let starts ← readMissionStarts memory (base + 12) tableEnd count
  let firstMission := starts.min?.getD memory.size
  pure {
    globals, models, missionTable, modelNames, missionsStart, allocatedMemory
    mainCode := ⟨tableEnd, firstMission⟩
    missionCode := ⟨firstMission, memory.size⟩
    missions := missionRanges starts memory.size }

/-- The layout of a script; every fault is reported as an invalid structure. -/
def detect {H : Type} (registry : Registry H) (memory : Memory) (variant : Variant) :
    Except Error Layout :=
  (detectRegions registry memory variant).mapError fun fault => .invalidStructure fault.reason

end Layout

end MissionScript
