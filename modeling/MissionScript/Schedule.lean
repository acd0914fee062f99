import MissionScript.Thread

/-!
# Schedules

A schedule holds all threads, the virtual clock and which thread runs. Threads keep control until
they sleep or start another thread. Control then passes to the thread that has been due the
longest: a thread that has not slept counts as due the longest of all, and of two threads that
have been due equally long the one with the lower number runs.
-/

namespace MissionScript

/-- How long a thread has been due. It exceeds every true span of time for one that is awake. -/
def Wake.overdue (now : Nat) : Wake → Int
  | .awake => 0x7FFFFFFFFFFFFFFFFFFFFFFFFFFFFFFF
  | .at time => now - time
  | .never => now - endOfTime

structure Schedule where
  threads : List Thread
  current? : Option Nat
  time : Nat
deriving DecidableEq, Repr

namespace Schedule

/-- No threads, at time zero. -/
def empty : Schedule := ⟨[], none, 0⟩

def thread? (schedule : Schedule) (id : Nat) : Option Thread := schedule.threads[id]?

/-- Changes one thread, if it exists. -/
def modify (schedule : Schedule) (id : Nat) (change : Thread → Thread) : Schedule :=
  { schedule with threads := schedule.threads.modify id change }

/-- The thread that runs. -/
def currentThread? (schedule : Schedule) : Option Thread := schedule.current?.bind schedule.thread?

/-- The number of the next thread to be started. -/
def nextId (schedule : Schedule) : Nat := schedule.threads.length

/-- Adds a thread at the end. -/
def spawn (schedule : Schedule) (pc : Nat) (isMission : Bool) : Schedule :=
  let id := schedule.nextId
  let thread :=
    if isMission then Thread.ofMission id pc schedule.time else Thread.ofStart id pc schedule.time
  { schedule with threads := schedule.threads ++ [thread] }

/-- Sets when a thread wakes, without passing control. -/
def sleep (schedule : Schedule) (id time : Nat) : Schedule :=
  schedule.modify id fun thread => { thread with wake := .until time }

/-- A running thread that gives up control without a wish of its own is due at once. -/
def settle (schedule : Schedule) : Schedule :=
  match schedule.current? with
  | none => schedule
  | some id => schedule.modify id fun thread =>
      if thread.wake = .awake then { thread with wake := .until schedule.time } else thread

/-- Prefers a thread to the best one so far if it has been due longer. -/
def prefer (now : Nat) (best? : Option (Nat × Int)) (thread : Thread) : Option (Nat × Int) :=
  let overdue := thread.wake.overdue now
  match best? with
  | none => some (thread.id, overdue)
  | some best => if best.2 < overdue then some (thread.id, overdue) else some best

/-- The number of the thread that has been due the longest, of those that have not ended. -/
def mostOverdue? (schedule : Schedule) : Option Nat :=
  let alive := schedule.threads.filter fun thread => !thread.isTerminated
  (alive.foldl (prefer schedule.time) none).map Prod.fst

/-- Hands control to the thread that has been due the longest, and wakes it. When all threads have
ended, none runs. -/
def pass (schedule : Schedule) : Schedule :=
  let settled := schedule.settle
  match settled.mostOverdue? with
  | none => { settled with current? := none }
  | some id =>
    { settled with current? := some id }.modify id fun thread => { thread with wake := .awake }

/-- The thread to run, or why there is none. -/
def runnable (schedule : Schedule) : Except Error Nat :=
  match schedule.current? with
  | some id => .ok id
  | none => if schedule.threads.isEmpty then .error .noThreads else .error .allThreadsTerminated

def advance (schedule : Schedule) : Schedule := { schedule with time := schedule.time + 1 }

end Schedule

end MissionScript
