import MissionScript.Console.Log
import MissionScript.Layout

/-!
# Command lines

Both tools take the name of a script first and options after it. The runner knows a few options
more than the disassembler.
-/

namespace MissionScript

inductive Tool where
  | runner
  | disassembler
deriving DecidableEq, Repr

structure Options where
  script : String
  opcodes? : Option String := none
  symbols? : Option String := none
  variant : Variant := .viceCity
  ticks : Nat := 1000
  stepwise : Bool := false
  trace : Bool := false
  dump : Bool := false
deriving DecidableEq, Repr

/-- Why a command line is not accepted. -/
inductive Rejection where
  | missingValue (option : String)
  | unknownGame (name : String)
  | badTicks (text : String)
  | unexpected (argument : String)
deriving DecidableEq, Repr

namespace Options

/-- The options that are followed by a value. -/
def takesValue : Tool → String → Bool
  | tool, option =>
    option = "--opcodes" || option = "--symbols" || option = "--game" ||
      (option = "--ticks" && tool = .runner)

/-- Sets an option that has a value. -/
def setValue (options : Options) (option value : String) : Except Rejection Options :=
  if option = "--opcodes" then .ok { options with opcodes? := some value }
  else if option = "--symbols" then .ok { options with symbols? := some value }
  else if option = "--game" then
    match Variant.ofName? value with
    | some variant => .ok { options with variant }
    | none => .error (.unknownGame value)
  else
    match Text.readUnsigned? 0x10000000000000000 value.toList with
    | some ticks => .ok { options with ticks }
    | none => .error (.badTicks value)

/-- Sets an option that stands alone; the disassembler has none. -/
def setFlag (tool : Tool) (options : Options) (option : String) : Except Rejection Options :=
  if tool = .disassembler then .error (.unexpected option)
  else if option = "--step" then .ok { options with stepwise := true }
  else if option = "--trace" then .ok { options with trace := true }
  else if option = "--dump" then .ok { options with dump := true }
  else .error (.unexpected option)

/-- Reads the arguments after the script's name, from left to right; a later option wins. -/
def read (tool : Tool) (options : Options) : List String → Except Rejection Options
  | [] => .ok options
  | [option] =>
    if takesValue tool option then .error (.missingValue option)
    else setFlag tool options option
  | option :: value :: rest =>
    if takesValue tool option then
      match setValue options option value with
      | .error rejection => .error rejection
      | .ok options => read tool options rest
    else
      match setFlag tool options option with
      | .error rejection => .error rejection
      | .ok options => read tool options (value :: rest)

end Options

/-- The help text of a tool that was called by the name `program`. -/
def Tool.usage (program : String) : Tool → String
  | .runner => String.intercalate "\n" [
      "Script Runner",
      "",
      "USAGE:",
      s!"    {program} <script.scm> [OPTIONS]",
      "",
      "ARGS:",
      "    <script.scm>    Compiled script image to run",
      "",
      "OPTIONS:",
      "    --opcodes <file>    Opcode catalogue (built-in opcodes only when omitted)",
      "    --symbols <file>    Symbol header naming catalogue opcodes",
      "    --game <vc|sa>      Script format family (defaults to vc)",
      "    --ticks <n>         Number of ticks to run (defaults to 1000)",
      "    --step              Run one tick per line read from stdin (q quits)",
      "    --trace             Log every executed instruction",
      "    --dump              Dump memory around the current PC when done",
      "    -h, --help          Print this help message",
      "",
      "EXAMPLES:",
      "    # Run the first 50000 ticks",
      s!"    {program} main.scm --opcodes VICESCM.ini --ticks 50000",
      "",
      "    # Step through a San Andreas script with named opcodes",
      s!"    {program} main.scm --opcodes SASCM.ini --symbols opcodes.h --game sa --step --trace",
      ""]
  | .disassembler => String.intercalate "\n" [
      "Script Disassembler",
      "",
      "USAGE:",
      s!"    {program} <script.scm> [OPTIONS]",
      "",
      "ARGS:",
      "    <script.scm>    Compiled script image to list",
      "",
      "OPTIONS:",
      "    --opcodes <file>    Opcode catalogue (built-in opcodes only when omitted)",
      "    --symbols <file>    Symbol header naming catalogue opcodes",
      "    --game <vc|sa>      Script format family (defaults to vc)",
      "    -h, --help          Print this help message",
      "",
      "EXAMPLES:",
      s!"    {program} main.scm --opcodes VICESCM.ini > main.txt",
      ""]

/-- What is said about a command line that is not accepted. -/
def Rejection.log (usage : String) : Rejection → List LogLine
  | .missingValue option => [⟨.error, s!"{option} requires an argument"⟩]
  | .unknownGame name => [⟨.error, Variant.unknownMessage name⟩]
  | .badTicks text => [⟨.error, s!"Invalid tick count: '{text}' is not a valid number"⟩]
  | .unexpected argument => [⟨.error, s!"Unexpected argument: {argument}\n"⟩, ⟨.info, usage⟩]

end MissionScript
