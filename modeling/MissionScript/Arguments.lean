import MissionScript.Instruction
import MissionScript.Thread

/-!
# Resolved arguments

Before an instruction runs, its arguments are checked against the parameters' constraints and
variables are replaced by what they hold. A global variable is a floating point number if a typed
cell that starts at its address says so, and an integer otherwise. Where a value came from is kept,
so that the instruction can write back to it.
-/

namespace MissionScript

/-- The place of a variable. -/
inductive Place where
  | global (address : Nat)
  | slot (index : Nat)
deriving DecidableEq, Repr, Inhabited

/-- A resolved argument. -/
structure ArgValue where
  dataType : DataType
  value : Value
  place? : Option Place
deriving DecidableEq, Repr, Inhabited

/-- The resolved arguments of one instruction. -/
structure Arguments where
  opcode : Opcode
  /-- The arguments of single parameters, by parameter name. -/
  named : List (String × ArgValue)
  /-- The arguments of variadic parameters, without end markers. -/
  variadic : List ArgValue
deriving DecidableEq, Repr

namespace Arguments

/-! ## 1. Resolving -/

/-- What an argument's value may depend on. -/
structure Source where
  opcode : Opcode
  memory : Memory
  thread : Thread
  now : Nat

/-- The value of a global variable. -/
def readGlobal (memory : Memory) (address : Nat) : Except Error Value :=
  match memory.cell? address with
  | some ⟨.float32, _⟩ => (memory.readSingle address).map .float
  | _ => (memory.readInt32 address).map .int

/-- Checks one argument, the one with the given index, and finds its value. -/
def resolveOne (source : Source) (constraint : Constraint) (index : Nat) (argument : Argument) :
    Except Error ArgValue :=
  let dataType := argument.dataType
  if !constraint.accepts dataType then
    .error (.typeMismatch source.opcode index constraint.name dataType.name)
  else
    match argument.operand with
    | .int value => .ok ⟨dataType, .int value, none⟩
    | .float value => .ok ⟨dataType, .float value, none⟩
    | .text value => .ok ⟨dataType, .text value, none⟩
    | .globalVar address =>
      (readGlobal source.memory address).map fun value => ⟨dataType, value, some (.global address)⟩
    | .localVar slot =>
      (source.thread.getLocal slot source.now).map fun value => ⟨dataType, value, some (.slot slot)⟩
    | .endMarker =>
      .error (.typeMismatch source.opcode index constraint.name DataType.endMarker.name)

/-- Checks arguments under one constraint, the first having the given index. -/
def resolveEach (source : Source) (constraint : Constraint) :
    Nat → List Argument → Except Error (List ArgValue)
  | _, [] => .ok []
  | index, argument :: rest =>
    match resolveOne source constraint index argument with
    | .error error => .error error
    | .ok value => (resolveEach source constraint (index + 1) rest).map (value :: ·)

/-- Hands arguments to parameters in order. A variadic parameter takes all arguments before the
next end marker, and the marker. -/
def resolveParams (source : Source) :
    List Param → Nat → List Argument → Except Error (List (String × ArgValue) × List ArgValue)
  | [], _, _ => .ok ([], [])
  | param :: params, index, args =>
    match param.kind with
    | .single constraint =>
      match args with
      | [] => .error (.unknownArgument source.opcode param.name)
      | argument :: rest =>
        match resolveOne source constraint index argument with
        | .error error => .error error
        | .ok value =>
          (resolveParams source params (index + 1) rest).map fun (named, variadic) =>
            ((param.name, value) :: named, variadic)
    | .variadic constraint =>
      let taken := args.takeWhile fun argument => !argument.isEnd
      let rest := args.dropWhile fun argument => !argument.isEnd
      match resolveEach source constraint index taken with
      | .error error => .error error
      | .ok values =>
        (resolveParams source params (index + taken.length + min 1 rest.length) rest.tail).map
          fun (named, variadic) => (named, values ++ variadic)

/-- Resolves the arguments of an instruction, for a thread at a time. -/
def resolve (definition : Definition) (instruction : Instruction) (memory : Memory)
    (thread : Thread) (now : Nat) : Except Error Arguments :=
  (resolveParams ⟨definition.opcode, memory, thread, now⟩ definition.params 0 instruction.args).map
    fun (named, variadic) => ⟨definition.opcode, named, variadic⟩

/-! ## 2. Access by name -/

def get (args : Arguments) (name : String) : Except Error ArgValue :=
  match args.named.find? fun entry => entry.1 == name with
  | some entry => .ok entry.2
  | none => .error (.unknownArgument args.opcode name)

/-- The error for a named argument that is not what was asked for. -/
def mismatch (args : Arguments) (name expected : String) (actual : Value) : Error :=
  let index := (args.named.findIdx? fun entry => entry.1 == name).getD 0
  .typeMismatch args.opcode index expected actual.typeName

def int (args : Arguments) (name : String) : Except Error Int32 := do
  match (← args.get name).value with
  | .int value => pure value
  | other => throw (args.mismatch name "int" other)

def float (args : Arguments) (name : String) : Except Error Single := do
  match (← args.get name).value with
  | .float value => pure value
  | other => throw (args.mismatch name "float" other)

def text (args : Arguments) (name : String) : Except Error String := do
  match (← args.get name).value with
  | .text value => pure value
  | other => throw (args.mismatch name "string" other)

/-- The variable that an argument stands for. -/
def place (args : Arguments) (name : String) : Except Error Place := do
  let argument ← args.get name
  match argument.place? with
  | some found => pure found
  | none => throw (args.mismatch name "var" argument.value)

def dataType (args : Arguments) (name : String) : Except Error DataType := do
  pure (← args.get name).dataType

end Arguments

end MissionScript
