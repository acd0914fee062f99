import MissionScript.Console.Files
import MissionScript.Console.Options
import MissionScript.Inspect.HexDump
import MissionScript.Inspect.Listing

/-!
# The two tools

The runner loads a script and runs it, for a number of ticks or one tick per line of input. The
disassembler prints the listing of a script. Both are functions from command line, files and input
to a `Report`.
-/

namespace MissionScript

/-- What a tool leaves behind. -/
structure Report where
  exit : UInt32
  output : String
  log : List LogLine
deriving DecidableEq, Repr

/-- The log as text. -/
def Report.logText (report : Report) : String := String.join (report.log.map LogLine.render)

/-- A report about a failure, without output. -/
def Report.failure (text : String) : Report := ⟨1, "", [⟨.error, text⟩]⟩

namespace Console

/-! ## 1. Loading -/

/-- The registry that the options ask for. A symbol header without a catalogue is not read. -/
def registryFor (files : Files) (options : Options) : Except Error (Registry Handler) :=
  match options.opcodes? with
  | some catalogue => Registry.ofFiles files catalogue options.symbols?
  | none => Registry.builtin

/-- Loads the script that the options name, or reports why not. -/
def load (files : Files) (options : Options) : Except Report Machine := do
  let registry ← (registryFor files options).mapError fun error =>
    .failure s!"Failed to load opcodes: {error.message}"
  let bytes ← (files options.script).mapError fun reason =>
    .failure s!"Failed to read script {options.script}: {reason}"
  (Machine.load bytes registry { variant := options.variant }).mapError fun error =>
    .failure s!"Failed to load script: {error.message}"

/-! ## 2. Running -/

/-- A run in progress. Output and log are held the latest first. -/
structure Session where
  trace : Bool
  /-- The opcodes without behaviour that have been warned about. -/
  warned : List Opcode := []
  output : List String := []
  log : List LogLine := []

namespace Session

def say (session : Session) (level : Level) (text : String) : Session :=
  { session with log := ⟨level, text⟩ :: session.log }

def print (session : Session) (text : String) : Session :=
  { session with output := text :: session.output }

/-- Follows a tick: a trace line if wanted, and a warning when an opcode without behaviour runs for
the first time. -/
def observe (session : Session) (before : Machine) (outcome : Outcome) : Session :=
  match outcome.step? with
  | none => session
  | some step =>
    let traced := if session.trace then session.say .trace (step.trace before.ticks) else session
    let opcode := step.site.instruction.opcode
    if step.handler?.isNone && !session.warned.contains opcode then
      { traced.say .warn step.noBehaviour with warned := opcode :: session.warned }
    else traced

def report (session : Session) (exit : UInt32) : Report :=
  ⟨exit, String.join session.output.reverse, session.log.reverse⟩

end Session

/-- The lines of the input, which end at line feeds. -/
def inputLinesFrom (current : List UInt8) : List UInt8 → List (List UInt8)
  | [] => if current.isEmpty then [] else [current.reverse]
  | byte :: rest =>
    if byte = 0x0A then current.reverse :: inputLinesFrom [] rest
    else inputLinesFrom (byte :: current) rest

/-- Whether a line of input asks for a tick: it is text, and not the letter that quits. -/
def asksForTick (line : List UInt8) : Bool :=
  match Text.decodeStrict? line with
  | some text => Text.trim text.toList != ['q']
  | none => false

/-- The output line of a tick in a stepwise run. -/
def stepLine (machine : Machine) (record : TickRecord) : String :=
  s!"[{record.tick}] thread {record.thread} @ {Text.address8 record.address}: " ++
    machine.renderAt record.address record.opcode ++ "\n"

/-- One tick per line of input, up to a line that asks for none. -/
def runStepwise : List (List UInt8) → Machine → Session → Except Error Unit × Machine × Session
  | [], machine, session => (.ok (), machine, session)
  | line :: rest, machine, session =>
    if asksForTick line then
      let outcome := machine.tick
      let session := session.observe machine outcome
      match outcome.result with
      | .error error => (.error error, outcome.machine, session)
      | .ok record =>
        runStepwise rest outcome.machine (session.print (stepLine outcome.machine record))
    else (.ok (), machine, session)

/-- How many bytes are shown on each side of the running thread's place. -/
def dumpRadius : Nat := 64

/-- A dump of memory around the running thread's place, if a thread runs. -/
def dumpAround (machine : Machine) : String :=
  match machine.currentThread? with
  | none => ""
  | some thread =>
    HexDump.render HexDump.plain machine.memory ⟨thread.pc - dumpRadius, thread.pc + dumpRadius⟩
      (machine.decode thread.pc).toOption

/-- What is said at the end of a run. -/
def summary (machine : Machine) : String :=
  s!"Ran {machine.ticks} ticks, {machine.schedule.threads.length} threads, " ++
    s!"memory digest {Text.bytesHex machine.memory.digest}"

/-- The end of a run that came to its end. -/
def conclude (options : Options) (machine : Machine) (session : Session) : Report :=
  let session := session.say .info (summary machine)
  (if options.dump then session.print (dumpAround machine) else session).report 0

/-- Runs a script. That all threads have ended is a good end. -/
def runScript (files : Files) (options : Options) (input : List UInt8) : Report :=
  match load files options with
  | .error report => report
  | .ok machine =>
    let session := ({ trace := options.trace } : Session).say .info machine.loadedMessage
    let (result, machine, session) :=
      if options.stepwise then runStepwise (inputLinesFrom [] input) machine session
      else machine.runObserved Session.observe options.ticks session
    match result with
    | .ok () => conclude options machine session
    | .error .allThreadsTerminated =>
      conclude options machine (session.say .info "All threads terminated")
    | .error error =>
      ((session.say .error s!"Tick {machine.ticks} failed: {error.message}").print
        (dumpAround machine)).report 1

/-! ## 3. Listing -/

/-- Prints the listing of a script. -/
def disassemble (files : Files) (options : Options) : Report :=
  match load files options with
  | .error report => report
  | .ok machine =>
    let loaded : LogLine := ⟨.info, machine.loadedMessage⟩
    match Listing.render machine with
    | .ok text => ⟨0, text, [loaded]⟩
    | .error error => ⟨1, "", [loaded, ⟨.error, s!"Disassembly failed: {error.message}"⟩]⟩

/-- What a tool reads from outside. -/
structure Needs where
  files : List String
  input : Bool
deriving DecidableEq, Repr

/-- What a tool will read when it is called with some arguments. -/
def needs (tool : Tool) (args : List String) : Needs :=
  match args with
  | [] => ⟨[], false⟩
  | script :: rest =>
    match Options.read tool { script } rest with
    | .error _ => ⟨[], false⟩
    | .ok options =>
      ⟨script :: options.opcodes?.toList ++ options.symbols?.toList, options.stepwise⟩

/-- Runs a tool that was called by the name `program` with some arguments. -/
def runTool (tool : Tool) (program : String) (args : List String) (files : Files)
    (input : List UInt8) : Report :=
  let usage := tool.usage program
  match args with
  | [] => ⟨1, "", [⟨.info, usage⟩]⟩
  | script :: rest =>
    if script = "--help" || script = "-h" then ⟨0, "", [⟨.info, usage⟩]⟩
    else
      match Options.read tool { script } rest with
      | .error rejection => ⟨1, "", rejection.log usage⟩
      | .ok options =>
        match tool with
        | .runner => runScript files options input
        | .disassembler => disassemble files options

end Console

end MissionScript
