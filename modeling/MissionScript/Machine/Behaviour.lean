import MissionScript.Machine.Program

/-!
# Behaviour of the built-in instructions

Each built-in instruction is a short program over the operations. Where an argument is used as a
number, a floating point value is cut down to its integer part and text is refused.
-/

namespace MissionScript

namespace Behaviour

/-- The integer view of a resolved argument. -/
def intValue (site : Site) (argument : ArgValue) : Except Error Int32 :=
  match argument.value with
  | .int value => .ok value
  | .float value => .ok value.toInt32
  | .text _ => .error (.assertionFailed site.instruction.opcode "string used as a number")

/-! ## 1. Threads -/

/-- Sleeps for a number of ticks; a negative number counts as none. -/
def wait : Handler := fun _ args => do
  let time ← .lift (args.int "time")
  let frame ← .view
  .sleepUntil (frame.schedule.time + time.toInt.toNat)

def terminateThisScript : Handler := fun _ _ => .endThread

def startNewScript : Handler := fun _ args => do
  let label ← .lift (args.int "label")
  let pc ← .resolveTarget label
  let _ ← .startThread pc false

/-- Sets the local variables of a thread from an index on. -/
def setLocals (id : Nat) : Nat → List ArgValue → Program Unit
  | _, [] => pure ()
  | index, argument :: rest => do
    .setThreadLocal id index argument.value
    setLocals id (index + 1) rest

/-- The first argument is the label; the others become the new thread's local variables. -/
def startNewScriptWithArgs : Handler := fun site args =>
  match args.variadic with
  | label :: values@(_ :: _) => do
    .ensure site (values.length ≤ localSlots) "more thread vars than local slots"
    let target ← .lift (intValue site label)
    let pc ← .resolveTarget target
    let id ← .startThread pc false
    setLocals id 0 values
  | _ => .fail (.assertionFailed site.instruction.opcode "unassigned thread vars")

def scriptName : Handler := fun _ args => do
  let name ← .lift (args.text "name")
  .setThreadName name

/-- The start of the mission with a number. -/
def missionStart? (site : Site) (id : Int32) : Option Nat :=
  if id.toInt < 0 then none else (site.layout.mission? id.toInt.toNat).map Mission.first

def startMission : Handler := fun site args => do
  let id ← .lift (args.int "mission")
  match missionStart? site id with
  | none => .fail (.assertionFailed site.instruction.opcode s!"unknown mission {id.toInt}")
  | some start =>
    let _ ← .startThread start true

/-! ## 2. Jumps and calls -/

def goto : Handler := fun _ args => do
  let label ← .lift (args.int "label")
  .jump label

def gotoIfFalse : Handler := fun _ args => do
  let holds ← .resolveConditions
  if holds then pure ()
  else
    let label ← .lift (args.int "label")
    .jump label

def gosub : Handler := fun _ args => do
  let label ← .lift (args.int "label")
  .call label

def returnFromGosub : Handler := fun _ _ => .ret

/-! ## 3. Conditions -/

/-- The number of conditions and their combination in each mode. -/
def blockShape? (mode : Int32) : Option (Nat × Combine) :=
  let mode := mode.toInt
  if 0 ≤ mode ∧ mode ≤ 7 then some (mode.toNat + 1, .all)
  else if 21 ≤ mode ∧ mode ≤ 27 then some (mode.toNat - 19, .any)
  else none

def andor : Handler := fun site args => do
  let mode ← .lift (args.int "mode")
  match blockShape? mode with
  | none => .fail (.assertionFailed site.instruction.opcode s!"invalid andor mode {mode.toInt}")
  | some (count, combine) => .openConditions count combine

/-- Records how a variable compares with a number. -/
def compare (holds : Int32 → Int32 → Bool) : Handler := fun site args => do
  let argument ← .lift (args.get "var")
  let current ← .lift (intValue site argument)
  let value ← .lift (args.int "value")
  .pushCondition (holds current value)

/-! ## 4. Variables -/

def setVariable : Handler := fun _ args => do
  let place ← .lift (args.place "var")
  let argument ← .lift (args.get "value")
  .assign place argument.value

/-- Adds modulo 2^32. -/
def addToVariable : Handler := fun site args => do
  let place ← .lift (args.place "var")
  let current ← .lift (args.get "var")
  let current ← .lift (intValue site current)
  let value ← .lift (args.get "value")
  let value ← .lift (intValue site value)
  .assign place (.int (current + value))

end Behaviour

namespace Builtin

/-- The behaviour of each built-in instruction. -/
def handler : Builtin → Handler
  | .wait => Behaviour.wait
  | .terminateThisScript => Behaviour.terminateThisScript
  | .startNewScriptWithArgs => Behaviour.startNewScriptWithArgs
  | .startNewScript => Behaviour.startNewScript
  | .scriptName => Behaviour.scriptName
  | .startMission => Behaviour.startMission
  | .goto => Behaviour.goto
  | .gotoIfFalse => Behaviour.gotoIfFalse
  | .gosub => Behaviour.gosub
  | .returnFromGosub => Behaviour.returnFromGosub
  | .andor => Behaviour.andor
  | .isIntVarGreaterThanNumber => Behaviour.compare fun current value => value < current
  | .isIntVarEqualToNumber => Behaviour.compare fun current value => current = value
  | .setVarInt | .setVarFloat | .setLocalInt | .setLocalFloat => Behaviour.setVariable
  | .addValToIntVar => Behaviour.addToVariable

def binding (builtin : Builtin) : Binding Handler := ⟨builtin.definition, builtin.handler⟩

/-- The bindings of all built-in instructions. -/
def bindings : List (Binding Handler) := all.map binding

end Builtin

/-- The registry of the built-in instructions alone. -/
def Registry.builtin : Except Error (Registry Handler) := do
  let draft ← Registry.Draft.empty.bindAll Builtin.bindings
  draft.build

end MissionScript
