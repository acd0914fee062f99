import MissionScript.Definition

/-!
# Built-in instructions

The instructions that the machine carries out itself: thread control, jumps and calls, condition
blocks and plain stores to variables. Each has a fixed opcode, a name, a flow class and named,
typed parameters. Everything else a script can hold comes from a catalogue.
-/

namespace MissionScript

/-- How control leaves an instruction, a property of its opcode alone. -/
inductive Flow where
  | plain
  | unconditionalJump
  | conditionalJump
  | terminator
deriving DecidableEq, Repr

/-- Whether the first argument names a code address. -/
def Flow.hasTarget : Flow → Bool
  | .unconditionalJump | .conditionalJump => true
  | .plain | .terminator => false

inductive Builtin where
  | wait
  | terminateThisScript
  | startNewScriptWithArgs
  | startNewScript
  | scriptName
  | startMission
  | goto
  | gotoIfFalse
  | gosub
  | returnFromGosub
  | andor
  | isIntVarGreaterThanNumber
  | isIntVarEqualToNumber
  | setVarInt
  | setVarFloat
  | setLocalInt
  | setLocalFloat
  | addValToIntVar
deriving DecidableEq, Repr

namespace Builtin

def all : List Builtin := [
  .wait, .terminateThisScript, .startNewScriptWithArgs, .startNewScript, .scriptName,
  .startMission, .goto, .gotoIfFalse, .gosub, .returnFromGosub, .andor, .isIntVarGreaterThanNumber,
  .isIntVarEqualToNumber, .setVarInt, .setVarFloat, .setLocalInt, .setLocalFloat, .addValToIntVar]

def opcode : Builtin → Opcode
  | .wait => ⟨0x0001⟩
  | .terminateThisScript => ⟨0x004E⟩
  | .startNewScriptWithArgs => ⟨0x004F⟩
  | .startNewScript => ⟨0x00D7⟩
  | .scriptName => ⟨0x03A4⟩
  | .startMission => ⟨0x0417⟩
  | .goto => ⟨0x0002⟩
  | .gotoIfFalse => ⟨0x004D⟩
  | .gosub => ⟨0x0050⟩
  | .returnFromGosub => ⟨0x0051⟩
  | .andor => ⟨0x00D6⟩
  | .isIntVarGreaterThanNumber => ⟨0x0018⟩
  | .isIntVarEqualToNumber => ⟨0x0038⟩
  | .setVarInt => ⟨0x0004⟩
  | .setVarFloat => ⟨0x0005⟩
  | .setLocalInt => ⟨0x0006⟩
  | .setLocalFloat => ⟨0x0007⟩
  | .addValToIntVar => ⟨0x0008⟩

def symbol : Builtin → String
  | .wait => "wait"
  | .terminateThisScript => "terminate_this_script"
  | .startNewScriptWithArgs => "start_new_script_with_args"
  | .startNewScript => "start_new_script"
  | .scriptName => "script_name"
  | .startMission => "start_mission"
  | .goto => "goto"
  | .gotoIfFalse => "goto_if_false"
  | .gosub => "gosub"
  | .returnFromGosub => "return"
  | .andor => "andor"
  | .isIntVarGreaterThanNumber => "is_int_var_greater_than_number"
  | .isIntVarEqualToNumber => "is_int_var_equal_to_number"
  | .setVarInt => "set_var_int"
  | .setVarFloat => "set_var_float"
  | .setLocalInt => "set_lvar_int"
  | .setLocalFloat => "set_lvar_float"
  | .addValToIntVar => "add_val_to_int_var"

/-- Starting a script counts as a conditional jump: control goes on after it as well. -/
def flow : Builtin → Flow
  | .goto => .unconditionalJump
  | .gotoIfFalse | .startNewScript | .startNewScriptWithArgs => .conditionalJump
  | .terminateThisScript => .terminator
  | _ => .plain

def params : Builtin → List Param
  | .wait => [⟨"time", .single .intOrVar⟩]
  | .terminateThisScript | .returnFromGosub => []
  | .startNewScriptWithArgs => [⟨"args", .variadic .any⟩]
  | .startNewScript | .goto | .gotoIfFalse | .gosub => [⟨"label", .single .intOrVar⟩]
  | .scriptName => [⟨"name", .single .string⟩]
  | .startMission => [⟨"mission", .single .intOrVar⟩]
  | .andor => [⟨"mode", .single .int⟩]
  | .isIntVarGreaterThanNumber | .isIntVarEqualToNumber | .setVarInt | .setLocalInt =>
    [⟨"var", .single .var⟩, ⟨"value", .single .int⟩]
  | .setVarFloat | .setLocalFloat => [⟨"var", .single .var⟩, ⟨"value", .single .float⟩]
  | .addValToIntVar => [⟨"var", .single .var⟩, ⟨"value", .single .intOrVar⟩]

def definition (builtin : Builtin) : Definition :=
  { opcode := builtin.opcode, symbol := builtin.symbol, params := builtin.params }

def ofOpcode? (opcode : Opcode) : Option Builtin :=
  all.find? fun builtin => builtin.opcode = opcode

end Builtin

/-- The flow class of an opcode; what is not built in is plain. -/
def Flow.ofOpcode (opcode : Opcode) : Flow :=
  match Builtin.ofOpcode? opcode with
  | some builtin => builtin.flow
  | none => .plain

end MissionScript
