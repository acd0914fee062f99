import MissionScript.Definition

/-!
# Errors

The causes for which reading a script, building a registry or running an instruction fails.
`Error.message` holds the wording of all of them.
-/

namespace MissionScript

/-- How a condition block can be misused. -/
inductive ConditionMisuse where
  | badCount
  | noBlock
  | tooMany
  | notOpen
  | tooFew
deriving DecidableEq, Repr

def ConditionMisuse.message : ConditionMisuse → String
  | .badCount => "invalid condition count"
  | .noBlock => "condition outside an if block"
  | .tooMany => "too many conditions"
  | .notOpen => "no open if block"
  | .tooFew => "too few conditions"

inductive Error where
  /-- An access leaves memory. -/
  | outOfBounds (address length size : Nat)
  | unknownOpcode (opcode : Opcode) (address : Nat)
  | unknownDataType (tag : UInt8) (address : Nat)
  | typeMismatch (opcode : Opcode) (index : Nat) (expected actual : String)
  | invalidStructure (reason : String)
  | conditionMisuse (misuse : ConditionMisuse)
  /-- A demand of the instruction itself is not met. -/
  | assertionFailed (opcode : Opcode) (message : String)
  | duplicateOpcode (opcode : Opcode)
  | arityConflict (opcode : Opcode) (declared catalogue : Arity)
  /-- A line of a catalogue has no argument count where one should stand. -/
  | invalidCount (line : Nat) (text : String)
  /-- The name on a line of symbols is looked for from inside a character. -/
  | splitCharacter (line : Nat)
  | invalidLocalSlot (index available : Nat)
  | callStackOverflow (depth : Nat)
  | callStackUnderflow
  | invalidJumpTarget (target : Int) (source : Nat)
  | unknownArgument (opcode : Opcode) (name : String)
  | noThreads
  | allThreadsTerminated
  | unreadableFile (reason : String)
deriving DecidableEq, Repr

def Error.message : Error → String
  | .outOfBounds address length size =>
    s!"out of bounds access at {address} (length {length}, memory size {size})"
  | .unknownOpcode opcode address => s!"unknown opcode {opcode} at {address}"
  | .unknownDataType tag address =>
    "unknown data type 0x" ++ String.ofList (Text.byteHex tag) ++ s!" at {address}"
  | .typeMismatch opcode index expected actual =>
    s!"opcode {opcode} expected argument {index} to be of type {expected} but got {actual}"
  | .invalidStructure reason => s!"invalid script structure: {reason}"
  | .conditionMisuse misuse => s!"branch condition misuse: {misuse.message}"
  | .assertionFailed opcode message => s!"assertion failed in {opcode}: {message}"
  | .duplicateOpcode opcode => s!"duplicate opcode {opcode}"
  | .arityConflict opcode declared catalogue =>
    s!"opcode {opcode} declared with {declared.text} arguments but catalogue has {catalogue.text}"
  | .invalidCount line text => s!"line {line}: invalid argument count '{text}'"
  | .splitCharacter line => s!"line {line}: name looked for inside a character"
  | .invalidLocalSlot index available =>
    s!"local slot {index} out of bounds (available: {available})"
  | .callStackOverflow depth => s!"call stack overflow (depth {depth})"
  | .callStackUnderflow => "return without call"
  | .invalidJumpTarget target source => s!"invalid jump target {target} from {source}"
  | .unknownArgument opcode name => s!"opcode {opcode} has no argument named {name}"
  | .noThreads => "no threads to schedule"
  | .allThreadsTerminated => "all threads terminated"
  | .unreadableFile reason => s!"io error: {reason}"

end MissionScript
