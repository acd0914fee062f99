import MissionScript.Memory
import MissionScript.Registry
import MissionScript.Text.Utf8

/-!
# Instructions

An instruction is an opcode word followed by its arguments, each a tag byte with a payload. The
operand of an argument is what the payload says on its face: a literal, or the place of a
variable whose value is found only when the instruction runs.
-/

namespace MissionScript

/-- One encoded argument. -/
structure Argument where
  dataType : DataType
  payload : List UInt8
deriving DecidableEq, Repr, Inhabited

/-- What an argument says on its face. -/
inductive Operand where
  | endMarker
  | int (value : Int32)
  | float (value : Single)
  | text (value : String)
  /-- The address of a global variable. -/
  | globalVar (address : Nat)
  /-- The index of a local variable. -/
  | localVar (index : Nat)
deriving DecidableEq, Repr, Inhabited

namespace Operand

def int? : Operand → Option Int32
  | .int value => some value
  | _ => none

/-- The operand as it stands in a listing. -/
def render : Operand → String
  | .endMarker => "end"
  | .int value => toString value.toInt
  | .float value => value.text
  | .text value => Text.quote value
  | .globalVar address => s!"${address}"
  | .localVar index => s!"{index}@"

end Operand

namespace Argument

/-- The bytes of the argument: the tag, then the payload. -/
def bytes (argument : Argument) : List UInt8 := argument.dataType.tag :: argument.payload

def byteLength (argument : Argument) : Nat := 1 + argument.payload.length

def isEnd (argument : Argument) : Bool := argument.dataType == .endMarker

/-- Integers are widened to 32 bits and text ends at its first zero byte. -/
def operand (argument : Argument) : Operand :=
  let payload := argument.payload
  match argument.dataType with
  | .endMarker => .endMarker
  | .int8 | .int16 | .int32 => .int (signExtend payload)
  | .float32 => .float ⟨UInt32.ofNat (littleEndian payload)⟩
  | .globalVar => .globalVar (littleEndian payload)
  | .localVar => .localVar (littleEndian payload)
  | .string8 => .text (Text.decodeTerminated payload)
  | .varString => .text (Text.decodeTerminated (payload.drop 1))
  | .inlineString first => .text (Text.decodeTerminated (first :: payload))

end Argument

/-- The number of bytes that a list of arguments takes. -/
def argumentsLength : List Argument → Nat
  | [] => 0
  | argument :: rest => argument.byteLength + argumentsLength rest

structure Instruction where
  address : Nat
  opcode : Opcode
  negated : Bool
  args : List Argument
deriving DecidableEq, Repr, Inhabited

namespace Instruction

/-- The bytes of the instruction: the opcode word, then the arguments. -/
def bytes (instruction : Instruction) : List UInt8 :=
  instruction.opcode.bytes instruction.negated ++ instruction.args.flatMap Argument.bytes

def byteLength (instruction : Instruction) : Nat :=
  Opcode.width + argumentsLength instruction.args

/-- The address right after the instruction. -/
def next (instruction : Instruction) : Nat := instruction.address + instruction.byteLength

/-- The first argument as an integer literal. -/
def immediate? (instruction : Instruction) : Option Int32 :=
  instruction.args.head?.bind fun argument => argument.operand.int?

/-- The line of the instruction in a listing; end markers are not shown. -/
def render (instruction : Instruction) (definition : Definition) : String :=
  let shown := instruction.args.filter fun argument => !argument.isEnd
  s!"{definition.opcode}: " ++ (if instruction.negated then "not " else "") ++ definition.symbol ++
    String.join (shown.map fun argument => " " ++ argument.operand.render)

end Instruction

/-! ## Decoding -/

/-- Reads the argument at an address. An end marker is an argument only where one may stand. -/
def decodeArgument (memory : Memory) (address : Nat) (mayEnd : Bool) : Except Error Argument :=
  match memory.readByte address with
  | .error error => .error error
  | .ok tag =>
    match DataType.ofTag? tag with
    | none => .error (.unknownDataType tag address)
    | some dataType =>
      if dataType = .endMarker ∧ mayEnd = false then .error (.unknownDataType tag address)
      else
        match dataType.width? with
        | some width => (memory.read (address + 1) width).map (Argument.mk dataType)
        | none =>
          match memory.readByte (address + 1) with
          | .error error => .error error
          | .ok length => (memory.read (address + 1) (1 + length.toNat)).map (Argument.mk dataType)

/-- Reads arguments up to and including an end marker. Every argument takes at least one byte, so
the bytes left bound their number; without any left, there is no tag to read. -/
def decodeVariadic (memory : Memory) : Nat → Nat → Except Error (List Argument)
  | 0, address => .error (.outOfBounds address 1 memory.size)
  | left + 1, address =>
    match decodeArgument memory address true with
    | .error error => .error error
    | .ok argument =>
      if argument.isEnd then .ok [argument]
      else (decodeVariadic memory left (address + argument.byteLength)).map (argument :: ·)

/-- Reads the arguments of a list of parameters from an address on. -/
def decodeParams (memory : Memory) : List Param → Nat → Except Error (List Argument)
  | [], _ => .ok []
  | param :: rest, address =>
    match param.kind with
    | .single _ =>
      match decodeArgument memory address false with
      | .error error => .error error
      | .ok argument =>
        (decodeParams memory rest (address + argument.byteLength)).map (argument :: ·)
    | .variadic _ =>
      match decodeVariadic memory (memory.size - address) address with
      | .error error => .error error
      | .ok args => (decodeParams memory rest (address + argumentsLength args)).map (args ++ ·)

/-- Reads the instruction at an address. -/
def Registry.decode {H : Type} (registry : Registry H) (memory : Memory) (address : Nat) :
    Except Error Instruction :=
  match memory.readUInt16 address with
  | .error error => .error error
  | .ok raw =>
    match registry.lookup? raw with
    | none => .error (.unknownOpcode (Opcode.split raw).1 address)
    | some (definition, negated) =>
      (decodeParams memory definition.params (address + Opcode.width)).map fun args =>
        { address, opcode := definition.opcode, negated, args }

end MissionScript
