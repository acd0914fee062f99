import MissionScript.Error
import MissionScript.Table
import MissionScript.Value

/-!
# Threads

A thread is one point of control in a running script, with its own local variables, timers and
call stack. Threads are never removed: a thread that has ended sleeps for ever.

A timer reads the virtual time that has passed since its base. Bases are signed 64-bit numbers and
arithmetic on them wraps round at that width.
-/

namespace MissionScript

/-- When a thread wants to run again. -/
inductive Wake where
  /-- It runs, or has never slept. -/
  | awake
  | at (time : Nat)
  | never
deriving DecidableEq, Repr, Inhabited

/-- The time that stands for never, the greatest 64-bit number. -/
def endOfTime : Nat := 0xFFFFFFFFFFFFFFFF

/-- Sleep until a time; the end of time never comes. -/
def Wake.until (time : Nat) : Wake := if time < endOfTime then .at time else .never

/-- The signed 64-bit number that agrees with an integer modulo 2^64. -/
def signed64 (value : Int) : Int := value.bmod 0x10000000000000000

/-- The 32-bit number nearest to an integer. -/
def clampInt32 (value : Int) : Int32 := Int32.ofInt (max (-0x80000000) (min 0x7FFFFFFF value))

/-- The number of ordinary local variables of a thread. -/
def localSlots : Nat := 32

/-- The number of timers of a thread; their indices follow those of the local variables. -/
def timerSlots : Nat := 2

/-- How deep calls may be nested. -/
def callDepth : Nat := 8

structure Thread where
  id : Nat
  pc : Nat
  /-- The local variables that have been set. -/
  locals : Table Value
  /-- The time at which each timer reads zero. -/
  timers : Vector Int timerSlots
  /-- Room for the return addresses of nested calls. What stands above `depth` is left over from calls
  that have returned. -/
  stack : Vector Nat callDepth
  /-- How many calls are open. -/
  depth : Nat
  wake : Wake
  isMission : Bool
  /-- The start of the mission that negative jump targets count from. -/
  base? : Option Nat
  name? : Option String
deriving DecidableEq, Repr

/-- The elapsed time that a value sets a timer to; text sets none. -/
def Value.elapsed? : Value → Option Int
  | .int value => some value.toInt
  | .float value => some (value.truncate 0x8000000000000000)
  | .text _ => none

namespace Thread

/-- A thread born at a time, with both timers at zero. -/
def ofStart (id pc now : Nat) : Thread where
  id
  pc
  locals := .empty
  timers := Vector.replicate timerSlots (signed64 now)
  stack := Vector.replicate callDepth 0
  depth := 0
  wake := .awake
  isMission := false
  base? := none
  name? := none

/-- A mission's thread counts negative targets from its own start. -/
def ofMission (id pc now : Nat) : Thread :=
  { ofStart id pc now with isMission := true, base? := some pc }

def isTerminated (thread : Thread) : Bool := thread.wake == .never

/-- The return address at a level of the stack. -/
def returnAt (thread : Thread) (level : Nat) : Nat := thread.stack[level]?.getD 0

/-- The return addresses, the outermost call first. -/
def callStack (thread : Thread) : List Nat := (List.range thread.depth).map thread.returnAt

/-- Where to return to, the innermost call first. -/
def returns (thread : Thread) : List Nat := thread.callStack.reverse

def slotError (index : Nat) : Error := .invalidLocalSlot index (localSlots + timerSlots)

/-- The value of a local variable or timer. A variable that was never set is zero. -/
def getLocal (thread : Thread) (index now : Nat) : Except Error Value :=
  if index < localSlots then .ok ((thread.locals.get? index).getD (.int 0))
  else
    match thread.timers[index - localSlots]? with
    | some base => .ok (.int (clampInt32 (signed64 (now - base))))
    | none => .error (slotError index)

/-- Sets a local variable, or makes a timer read the given value now. -/
def setLocal (thread : Thread) (index : Nat) (value : Value) (now : Nat) : Except Error Thread :=
  if index < localSlots then .ok { thread with locals := thread.locals.insert index value }
  else if index < localSlots + timerSlots then
    match value.elapsed? with
    | some elapsed =>
      .ok { thread with
        timers := thread.timers.setIfInBounds (index - localSlots) (signed64 (now - elapsed)) }
    | none => .error (slotError index)
  else .error (slotError index)

/-- The thread after a call that returns to the address. -/
def called (thread : Thread) (address : Nat) : Thread :=
  { thread with
    stack := thread.stack.setIfInBounds thread.depth address
    depth := thread.depth + 1 }

/-- The thread after its innermost call. -/
def returned (thread : Thread) : Thread := { thread with depth := thread.depth - 1 }

/-- Remembers where a call returns to. -/
def pushReturn (thread : Thread) (address : Nat) : Except Error Thread :=
  if callDepth ≤ thread.depth then .error (.callStackOverflow callDepth)
  else .ok (thread.called address)

/-- Takes the innermost return address. -/
def popReturn (thread : Thread) : Except Error (Nat × Thread) :=
  if thread.depth = 0 then .error .callStackUnderflow
  else .ok (thread.returnAt (thread.depth - 1), thread.returned)

end Thread

end MissionScript
