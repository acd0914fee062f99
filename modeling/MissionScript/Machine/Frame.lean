import MissionScript.Arguments
import MissionScript.CodeMap
import MissionScript.Conditions
import MissionScript.Schedule

/-!
# Operations of a running instruction

While an instruction runs, everything it can see stands in two records: the `Site`, which stays as
it is (the script, the instruction, the thread), and the `Frame`, which the instruction changes.
It changes the frame by operations only. An operation can fail; most leave the frame as it was
when they do, but resolving a condition block closes it in any case.
-/

namespace MissionScript

structure Config where
  variant : Variant := .viceCity
  /-- Whether control passes as soon as a thread is started. -/
  switchOnNewThread : Bool := true
  /-- Whether jumps into code must hit the start of an instruction. -/
  validateJumps : Bool := true
deriving DecidableEq, Repr, Inhabited

/-- What stays the same while an instruction runs. -/
structure Site where
  layout : Layout
  code : CodeMap
  config : Config
  /-- The number of the running thread. -/
  thread : Nat
  instruction : Instruction
  definition : Definition

/-- What an instruction can change while it runs. -/
structure Frame where
  memory : Memory
  schedule : Schedule
  conditions : Conditions
  /-- Whether the instruction has said where its thread goes on. -/
  jumped : Bool
  /-- What the instruction has noted for an observer, the latest first. -/
  remarks : List String

/-- What an instruction can ask for. -/
inductive Operation where
  /-- Looks at the frame. -/
  | view
  /-- Leaves a note for an observer; notes stay when the instruction fails. -/
  | remark (text : String)
  /-- Stores a value at an address. -/
  | allocate (address : Nat) (value : Value)
  /-- Stores a value in a variable. -/
  | assign (place : Place) (value : Value)
  | startThread (pc : Nat) (isMission : Bool)
  | setThreadLocal (id index : Nat) (value : Value)
  | setThreadName (name : String)
  /-- Puts the running thread to sleep and passes control. -/
  | sleepUntil (time : Nat)
  | endThread
  | openConditions (capacity : Nat) (combine : Combine)
  | pushCondition (value : Bool)
  | resolveConditions
  /-- Finds the address that a target stands for. -/
  | resolveTarget (target : Int32)
  | jump (target : Int32)
  | setPc (address : Nat)
  | call (target : Int32)
  | ret
deriving DecidableEq, Repr

/-- What an operation answers when it succeeds. -/
abbrev Operation.Answer : Operation → Type
  | .view => Frame
  | .startThread _ _ => Nat
  | .resolveConditions => Bool
  | .resolveTarget _ => Nat
  | _ => Unit

namespace Frame

/-! ## 1. Threads -/

/-- Changes a thread by a step that may fail. -/
def changeThread (frame : Frame) (id : Nat) (change : Thread → Except Error Thread) :
    Except Error Unit × Frame :=
  match frame.schedule.thread? id with
  | none => (.error .noThreads, frame)
  | some thread =>
    match change thread with
    | .error error => (.error error, frame)
    | .ok changed =>
      (.ok (), { frame with schedule := frame.schedule.modify id fun _ => changed })

/-- Starts a thread. It inherits the mission base of the running thread, unless it is a mission. -/
def startThread (site : Site) (frame : Frame) (pc : Nat) (isMission : Bool) :
    Except Error Nat × Frame :=
  match frame.schedule.thread? site.thread with
  | none => (.error .noThreads, frame)
  | some starter =>
    let id := frame.schedule.nextId
    let spawned := frame.schedule.spawn pc isMission
    let based :=
      if isMission then spawned
      else spawned.modify id fun thread => { thread with base? := starter.base? }
    let schedule := if site.config.switchOnNewThread then based.pass else based
    (.ok id, { frame with schedule })

/-- Puts the running thread to sleep and passes control. -/
def sleepUntil (site : Site) (frame : Frame) (time : Nat) : Frame :=
  { frame with schedule := (frame.schedule.sleep site.thread time).pass }

/-! ## 2. Variables -/

/-- Stores a value at an address; text has no place in a variable. -/
def allocate (site : Site) (frame : Frame) (address : Nat) (value : Value) :
    Except Error Unit × Frame :=
  match value.storage? with
  | none =>
    (.error (.assertionFailed site.instruction.opcode s!"cannot store {value.typeName} in a variable"),
      frame)
  | some (dataType, bytes) =>
    match frame.memory.allocate address dataType bytes with
    | .error error => (.error error, frame)
    | .ok memory => (.ok (), { frame with memory })

def assign (site : Site) (frame : Frame) (place : Place) (value : Value) :
    Except Error Unit × Frame :=
  match place with
  | .global address => frame.allocate site address value
  | .slot index =>
    frame.changeThread site.thread fun thread => thread.setLocal index value frame.schedule.time

/-! ## 3. Jumps -/

/-- The address that a target stands for. A negative target counts from the running thread's
mission base. The address must lie in memory and, where jumps are validated and it lies in code,
be the start of an instruction. -/
def resolveTarget (site : Site) (frame : Frame) (target : Int32) : Except Error Nat :=
  let invalid := Error.invalidJumpTarget target.toInt site.instruction.address
  let address? :=
    if 0 ≤ target.toInt then Except.ok target.toInt.toNat
    else
      match frame.schedule.thread? site.thread with
      | none => .error .noThreads
      | some thread =>
        match thread.base? with
        | none => .error invalid
        | some base => .ok (base + target.toInt.natAbs)
  match address? with
  | .error error => .error error
  | .ok address =>
    if frame.memory.size ≤ address then .error invalid
    else if site.config.validateJumps ∧ site.layout.mainCode.start ≤ address ∧
        site.code.startsAt address = false then
      .error invalid
    else .ok address

/-- Sets where the running thread goes on. -/
def setPc (site : Site) (frame : Frame) (address : Nat) : Except Error Unit × Frame :=
  match frame.changeThread site.thread fun thread => .ok { thread with pc := address } with
  | (.error error, frame) => (.error error, frame)
  | (.ok (), frame) => (.ok (), { frame with jumped := true })

def jump (site : Site) (frame : Frame) (target : Int32) : Except Error Unit × Frame :=
  match frame.resolveTarget site target with
  | .error error => (.error error, frame)
  | .ok address => frame.setPc site address

/-- Jumps, and remembers the next instruction as the place to return to. -/
def call (site : Site) (frame : Frame) (target : Int32) : Except Error Unit × Frame :=
  match frame.resolveTarget site target with
  | .error error => (.error error, frame)
  | .ok address =>
    match frame.changeThread site.thread fun thread => thread.pushReturn site.instruction.next with
    | (.error error, frame) => (.error error, frame)
    | (.ok (), frame) => frame.setPc site address

/-- Goes on where the innermost call returns to. -/
def ret (site : Site) (frame : Frame) : Except Error Unit × Frame :=
  match frame.schedule.thread? site.thread with
  | none => (.error .noThreads, frame)
  | some thread =>
    match thread.popReturn with
    | .error error => (.error error, frame)
    | .ok (address, popped) =>
      { frame with schedule := frame.schedule.modify site.thread fun _ => popped }.setPc site address

/-! ## 4. Conditions -/

def openConditions (frame : Frame) (capacity : Nat) (combine : Combine) :
    Except Error Unit × Frame :=
  match Conditions.start capacity combine with
  | .error error => (.error error, frame)
  | .ok conditions => (.ok (), { frame with conditions })

/-- Records a condition, inverted when the instruction is negated. -/
def pushCondition (site : Site) (frame : Frame) (value : Bool) : Except Error Unit × Frame :=
  match frame.conditions.push value site.instruction.negated with
  | .error error => (.error error, frame)
  | .ok conditions => (.ok (), { frame with conditions })

def resolveConditions (frame : Frame) : Except Error Bool × Frame :=
  let (result, conditions) := frame.conditions.resolve
  (result, { frame with conditions })

end Frame

/-- Carries out an operation: its answer or error, and the frame after it. -/
def Operation.perform (site : Site) (frame : Frame) :
    (operation : Operation) → Except Error operation.Answer × Frame
  | .view => (.ok frame, frame)
  | .remark text => (.ok (), { frame with remarks := text :: frame.remarks })
  | .allocate address value => frame.allocate site address value
  | .assign place value => frame.assign site place value
  | .startThread pc isMission => frame.startThread site pc isMission
  | .setThreadLocal id index value =>
    frame.changeThread id fun thread => thread.setLocal index value frame.schedule.time
  | .setThreadName name =>
    frame.changeThread site.thread fun thread => .ok { thread with name? := some name }
  | .sleepUntil time => (.ok (), frame.sleepUntil site time)
  | .endThread => (.ok (), frame.sleepUntil site endOfTime)
  | .openConditions capacity combine => frame.openConditions capacity combine
  | .pushCondition value => frame.pushCondition site value
  | .resolveConditions => frame.resolveConditions
  | .resolveTarget target => (frame.resolveTarget site target, frame)
  | .jump target => frame.jump site target
  | .setPc address => frame.setPc site address
  | .call target => frame.call site target
  | .ret => frame.ret site

end MissionScript
