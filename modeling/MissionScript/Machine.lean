import MissionScript.Machine.Behaviour

/-!
# The machine

A machine is a loaded script with its threads. Each tick carries out one instruction of the
running thread: the instruction is decoded, its arguments are resolved, its behaviour runs, the
thread goes on with the next instruction unless the behaviour said otherwise, and the clock
advances by one.

A tick that fails leaves the machine as it was. Decoding and resolving change nothing. While a
behaviour runs, memory keeps a journal from which its writes are undone, and threads and
conditions go back to what they were.
-/

namespace MissionScript

structure Machine where
  registry : Registry Handler
  layout : Layout
  code : CodeMap
  config : Config
  memory : Memory
  schedule : Schedule
  conditions : Conditions
  /-- The number of ticks that have succeeded. -/
  ticks : Nat

/-- What one tick has carried out. -/
structure TickRecord where
  tick : Nat
  thread : Nat
  address : Nat
  opcode : Opcode
  negated : Bool
  byteLength : Nat
  jumped : Bool
deriving DecidableEq, Repr

/-- An instruction that is ready to run. -/
structure Step where
  site : Site
  args : Arguments
  handler? : Option Handler

namespace Step

/-- Runs the instruction; an opcode without behaviour does nothing. -/
def run (step : Step) (frame : Frame) : Except Error Unit × Frame :=
  match step.handler? with
  | none => (.ok (), frame)
  | some handler => (handler step.site step.args).run step.site frame

/-- The trace line of the instruction, after the given number of ticks. -/
def trace (step : Step) (ticks : Nat) : String :=
  let instruction := step.site.instruction
  s!"[{ticks}] thread {step.site.thread} @ {Text.address8 instruction.address}: " ++
    instruction.render step.site.definition

/-- What is said when an opcode without behaviour runs for the first time. -/
def noBehaviour (step : Step) : String :=
  s!"opcode {step.site.definition.opcode} ({step.site.definition.symbol}) has no behavior, " ++
    "executing as no-op"

end Step

/-- What comes of a tick. -/
structure Outcome where
  machine : Machine
  result : Except Error TickRecord
  /-- The instruction that ran, if it came to running one. -/
  step? : Option Step
  /-- What the instruction noted, in order. -/
  remarks : List String

namespace Machine

/-! ## 1. Loading -/

/-- Loads a script: finds its layout, maps its code and starts the main thread at address zero. -/
def load (bytes : Array UInt8) (registry : Registry Handler) (config : Config) :
    Except Error Machine := do
  let memory := Memory.ofBytes bytes
  let layout ← Layout.detect registry memory config.variant
  let code ← CodeMap.build registry memory layout.mainCode.start (some layout)
  pure {
    registry, layout, code, config, memory
    schedule := (Schedule.empty.spawn 0 false).pass
    conditions := .closed
    ticks := 0 }

/-- What is said about a script that has been loaded. -/
def loadedMessage (machine : Machine) : String :=
  s!"loaded {machine.config.variant.name} script: {machine.memory.size} bytes, " ++
    s!"{machine.code.size} instructions, {machine.layout.modelNames.length} models, " ++
    s!"{machine.layout.missions.length} missions"

/-! ## 2. Running -/

def decode (machine : Machine) (address : Nat) : Except Error Instruction :=
  machine.registry.decode machine.memory address

/-- The next instruction of the running thread, with its arguments resolved. -/
def prepare (machine : Machine) : Except Error Step := do
  let id ← machine.schedule.runnable
  let some thread := machine.schedule.thread? id | throw .noThreads
  let instruction ← machine.decode thread.pc
  let some entry := machine.registry.entry? instruction.opcode
    | throw (.unknownOpcode instruction.opcode thread.pc)
  let args ← Arguments.resolve entry.definition instruction machine.memory thread
    machine.schedule.time
  pure {
    site := {
      layout := machine.layout, code := machine.code, config := machine.config
      thread := id, instruction, definition := entry.definition }
    args
    handler? := entry.handler? }

/-- The frame in which an instruction starts, with a new journal. -/
def frame (machine : Machine) : Frame where
  memory := machine.memory.beginJournal
  schedule := machine.schedule
  conditions := machine.conditions
  jumped := false
  remarks := []

/-- The machine after an instruction has failed: its writes are undone, and threads and conditions
are those from before. -/
def undo (machine : Machine) (after : Frame) : Machine :=
  { machine with memory := after.memory.rollback }

/-- The machine after an instruction has succeeded. -/
def accept (machine : Machine) (step : Step) (after : Frame) : Machine :=
  let schedule :=
    if after.jumped then after.schedule
    else after.schedule.modify step.site.thread fun thread =>
      { thread with pc := step.site.instruction.next }
  { machine with
    memory := after.memory.commit
    schedule := schedule.advance
    conditions := after.conditions
    ticks := machine.ticks + 1 }

/-- What a successful tick has carried out. -/
def record (machine : Machine) (step : Step) (after : Frame) : TickRecord where
  tick := machine.ticks + 1
  thread := step.site.thread
  address := step.site.instruction.address
  opcode := step.site.instruction.opcode
  negated := step.site.instruction.negated
  byteLength := step.site.instruction.byteLength
  jumped := after.jumped

/-- Carries out one instruction. The list of dirty spans starts anew in every tick. -/
def tick (machine : Machine) : Outcome :=
  let machine := { machine with memory := machine.memory.clearDirty }
  match machine.prepare with
  | .error error => ⟨machine, .error error, none, []⟩
  | .ok step =>
    let (result, after) := step.run machine.frame
    let remarks := after.remarks.reverse
    match result with
    | .error error => ⟨machine.undo after, .error error, some step, remarks⟩
    | .ok () => ⟨machine.accept step after, .ok (machine.record step after), some step, remarks⟩

/-- Runs up to the given number of ticks and stops at the first error. An observer follows the
ticks, the failing one included. -/
def runObserved {σ : Type} (observe : σ → Machine → Outcome → σ) :
    Nat → Machine → σ → Except Error Unit × Machine × σ
  | 0, machine, seen => (.ok (), machine, seen)
  | count + 1, machine, seen =>
    let outcome := machine.tick
    let seen := observe seen machine outcome
    match outcome.result with
    | .error error => (.error error, outcome.machine, seen)
    | .ok _ => runObserved observe count outcome.machine seen

/-- Runs up to the given number of ticks and stops at the first error. -/
def run (machine : Machine) (count : Nat) : Except Error Unit × Machine :=
  let (result, machine, _) := runObserved (fun _ _ _ => ()) count machine ()
  (result, machine)

/-- Moves a thread to another address, for instance to try again after a failed tick. -/
def setThreadPc (machine : Machine) (id pc : Nat) : Except Error Machine :=
  if machine.memory.size ≤ pc then .error (.outOfBounds pc 0 machine.memory.size)
  else
    match machine.schedule.thread? id with
    | none => .error .noThreads
    | some _ =>
      .ok { machine with schedule := machine.schedule.modify id fun thread => { thread with pc } }

/-! ## 3. Looking -/

def currentThread? (machine : Machine) : Option Thread := machine.schedule.currentThread?

/-- The line of the instruction at an address, when one can be read there. -/
def renderAt (machine : Machine) (address : Nat) (opcode : Opcode) : String :=
  match machine.decode address, machine.registry.definition? opcode with
  | .ok instruction, some definition => instruction.render definition
  | _, _ => ""

end Machine

end MissionScript
