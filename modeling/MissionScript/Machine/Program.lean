import MissionScript.Machine.Frame

/-!
# Programs

The behaviour of an instruction is a program over operations: it asks for one operation after the
other, sees each answer or error, and chooses how to go on. It may go on after an operation has
failed. Since a program is nothing but its operations, whatever holds of every operation holds of
every behaviour.
-/

namespace MissionScript

inductive Program (α : Type) where
  /-- Ends with a result or an error. -/
  | finish (result : Except Error α)
  /-- Asks for an operation and goes on with what comes of it. -/
  | ask (operation : Operation) (next : Except Error operation.Answer → Program α)

namespace Program

variable {α β : Type}

def bind (program : Program α) (next : α → Program β) : Program β :=
  match program with
  | .finish (.ok value) => next value
  | .finish (.error error) => .finish (.error error)
  | .ask operation rest => .ask operation fun answer => (rest answer).bind next

instance : Monad Program where
  pure value := .finish (.ok value)
  bind := bind

/-- Gives up with an error. -/
def fail (error : Error) : Program α := .finish (.error error)

/-- Goes on with a result that is known already. -/
def lift (result : Except Error α) : Program α := .finish result

/-- Asks for an operation and gives up if it fails. -/
def perform (operation : Operation) : Program operation.Answer := .ask operation .finish

/-- Does not give up when the program fails, but goes on with its result or error. -/
def caught : Program α → Program (Except Error α)
  | .finish result => .finish (.ok result)
  | .ask operation next => .ask operation fun answer => (next answer).caught

/-- Carries out a program: its result and the frame after it. -/
def run (site : Site) : Program α → Frame → Except Error α × Frame
  | .finish result, frame => (result, frame)
  | .ask operation next, frame =>
    let (answer, after) := operation.perform site frame
    (next answer).run site after

/-- What follows a program runs in the frame that the program leaves, unless the program fails. -/
theorem run_bind (site : Site) (program : Program α) (next : α → Program β) (frame : Frame) :
    (program.bind next).run site frame =
      match program.run site frame with
      | (.ok value, after) => (next value).run site after
      | (.error error, after) => (.error error, after) := by
  induction program generalizing frame with
  | finish result => cases result <;> rfl
  | ask operation rest ih => simp [bind, run, ih]

/-! ## Operations as programs -/

def view : Program Frame := perform .view

def remark (text : String) : Program Unit := perform (.remark text)

def allocate (address : Nat) (value : Value) : Program Unit := perform (.allocate address value)

def assign (place : Place) (value : Value) : Program Unit := perform (.assign place value)

def startThread (pc : Nat) (isMission : Bool) : Program Nat := perform (.startThread pc isMission)

def setThreadLocal (id index : Nat) (value : Value) : Program Unit :=
  perform (.setThreadLocal id index value)

def setThreadName (name : String) : Program Unit := perform (.setThreadName name)

def sleepUntil (time : Nat) : Program Unit := perform (.sleepUntil time)

def endThread : Program Unit := perform .endThread

def openConditions (capacity : Nat) (combine : Combine) : Program Unit :=
  perform (.openConditions capacity combine)

def pushCondition (value : Bool) : Program Unit := perform (.pushCondition value)

def resolveConditions : Program Bool := perform .resolveConditions

def resolveTarget (target : Int32) : Program Nat := perform (.resolveTarget target)

def jump (target : Int32) : Program Unit := perform (.jump target)

def setPc (address : Nat) : Program Unit := perform (.setPc address)

def call (target : Int32) : Program Unit := perform (.call target)

def ret : Program Unit := perform .ret

/-- Gives up unless a demand of the instruction is met. -/
def ensure (site : Site) (condition : Bool) (message : String) : Program Unit :=
  if condition then pure () else fail (.assertionFailed site.instruction.opcode message)

end Program

/-- The behaviour of an opcode: a program for every instruction and its resolved arguments. -/
abbrev Handler := Site → Arguments → Program Unit

end MissionScript
