import MissionScript.Proofs.Journal
import MissionScript.Proofs.Operations
import MissionScript.Proofs.Runs

/-!
# Failed ticks

A tick that fails changes nothing but the list of dirty spans, which is empty after it. Before the
behaviour runs nothing has changed. While it runs, whatever it does and however it goes on after
operations that failed, memory can be rolled back to where the tick started; threads, conditions and
the tick count are taken from before.

Results:
1. `Step.run_rollsBackTo`: no behaviour alters what memory rolls back to.
2. `Machine.serveAll_journal_closed`: between ticks no journal is open.
3. `failed_tick_restores`: a failed tick leaves the machine as it was.
-/

namespace MissionScript

/-- Operations make cells or leave memory alone, so none alters what memory rolls back to. -/
theorem Operation.perform_rollsBackTo {site : Site} {frame : Frame} {base : Memory}
    (operation : Operation) (rolls : frame.memory.RollsBackTo base) :
    (operation.perform site frame).2.memory.RollsBackTo base := by
  rcases operation.perform_memory site frame with kept | ⟨_, _, _, _, _, made⟩
  · rw [kept]
    exact rolls
  · exact rolls.allocate made

/-- No behaviour alters what memory rolls back to. -/
theorem Step.run_rollsBackTo (step : Step) {frame : Frame} {base : Memory}
    (rolls : frame.memory.RollsBackTo base) : (step.run frame).2.memory.RollsBackTo base := by
  apply step.run_preserves fun frame => frame.memory.RollsBackTo base
  · intro operation frame holds
    exact operation.perform_rollsBackTo holds
  · exact rolls

theorem Memory.rollback_journal? (memory : Memory) : memory.rollback.journal? = none := by
  unfold Memory.rollback
  split
  · next closed => exact closed
  · rfl

namespace Machine

/-- A failed instruction leaves memory as it was when the tick started, with its journal closed. -/
theorem undo_memory {machine : Machine} {step : Step} {result : Except Error Unit} {after : Frame}
    (ran : step.run machine.frame = (result, after)) :
    (machine.undo after).memory = machine.memory.commit := by
  have start : machine.frame.memory.RollsBackTo machine.memory.commit :=
    machine.memory.beginJournal_rollsBackTo
  have rolls := step.run_rollsBackTo start
  rw [ran] at rolls
  exact rolls.rollback_eq

/-- Where no journal was open, a failed tick does nothing but clear the list of dirty spans. -/
theorem tick_machine_of_error {machine : Machine} {error : Error}
    (closed : machine.memory.journal? = none) (failure : machine.tick.result = .error error) :
    machine.tick.machine = machine.cleared := by
  rcases tick_of_error failure with same | ⟨step, after, _, ran, undone⟩
  · exact same
  · have kept : machine.cleared.memory.commit = machine.cleared.memory := by
      unfold Memory.commit
      rw [← show machine.cleared.memory.journal? = none from closed]
    have restored : after.memory.rollback = machine.cleared.memory := (undo_memory ran).trans kept
    rw [undone, undo, restored]

/-! ## Between ticks no journal is open -/

theorem tick_journal_closed {machine : Machine} (closed : machine.memory.journal? = none) :
    machine.tick.machine.memory.journal? = none := by
  cases result : machine.tick.result with
  | ok record =>
    obtain ⟨step, after, _, _, accepted, _⟩ := tick_of_ok result
    rw [accepted]
    rfl
  | error error =>
    rcases tick_of_error result with same | ⟨step, after, _, _, undone⟩
    · rw [same]
      exact closed
    · rw [undone]
      exact after.memory.rollback_journal?

theorem serve_journal_closed {machine : Machine} (request : Request)
    (closed : machine.memory.journal? = none) :
    (machine.serve request).memory.journal? = none := by
  cases request with
  | tick => exact tick_journal_closed closed
  | setThreadPc id pc =>
    rcases machine.serve_setThreadPc id pc with same | moved
    · rw [same]
      exact closed
    · rw [moved]
      exact closed

theorem serveAll_journal_closed {bytes : Array UInt8} {registry : Registry Handler}
    {config : Config} {loaded : Machine} (load : Machine.load bytes registry config = .ok loaded)
    (requests : List Request) : (loaded.serveAll requests).memory.journal? = none := by
  apply serveAll_invariant fun machine => machine.memory.journal? = none
  · intro machine request closed
    exact serve_journal_closed request closed
  · obtain ⟨layout, code, _, _, rfl⟩ := load_eq_ok load
    rfl

end Machine

/-- A tick that fails, because no thread can run, because there is no instruction, because an
argument cannot be resolved or because the behaviour gave up after any number of operations, leaves
bytes, cells, threads, clock, conditions and tick count as they were. No journal stays open and no
span is dirty. -/
theorem failed_tick_restores {bytes : Array UInt8} {registry : Registry Handler} {config : Config}
    {loaded : Machine} (load : Machine.load bytes registry config = .ok loaded)
    (requests : List Request) {error : Error}
    (failure : (loaded.serveAll requests).tick.result = .error error) :
    let before := loaded.serveAll requests
    let after := before.tick.machine
    after.memory.bytes = before.memory.bytes ∧ after.memory.cells = before.memory.cells ∧
      after.schedule = before.schedule ∧ after.conditions = before.conditions ∧
      after.ticks = before.ticks ∧ after.memory.journal? = none ∧ after.memory.dirty = [] := by
  intro before after
  have closed : before.memory.journal? = none := Machine.serveAll_journal_closed load requests
  rcases Machine.tick_of_error failure with same | ⟨step, frame, _, ran, undone⟩
  · -- Nothing was run, so the journal is closed because it was closed before.
    have restored : after = before.cleared := same
    rw [restored]
    exact ⟨rfl, rfl, rfl, rfl, rfl, closed, rfl⟩
  · have restored : after = before.cleared.undo frame := undone
    have memory : after.memory = before.cleared.memory.commit := by
      rw [restored]
      exact Machine.undo_memory ran
    rw [memory, restored]
    exact ⟨rfl, rfl, rfl, rfl, rfl, rfl, rfl⟩

/-! ## A behaviour that changes everything and then fails -/

namespace FailedTickExample

/-- Makes overlapping cells, starts a thread, opens a block, goes on after a store that fails, ends
the thread and then gives up. -/
def scribble : Handler := fun _ _ => do
  .allocate 8 (.int 7)
  .allocate 10 (.float ⟨0x3FC00000⟩)
  .allocate 8 (.float ⟨0⟩)
  let id ← .startThread 20 true
  .setThreadLocal id 3 (.text "scribbled")
  .openConditions 2 .any
  let _ ← Program.caught (.allocate 1000 (.int 1))
  .setPc 20
  .endThread
  .fail .callStackUnderflow

/-- Jumps scribble here. -/
def registry : Registry Handler :=
  ⟨Table.empty.insert Builtin.goto.opcode.key ⟨Builtin.goto.definition, some scribble⟩⟩

/-- Three regions, each with the jump over it, and no code. -/
def script : Array UInt8 := #[
  0x02, 0x00, 0x01, 0x08, 0x00, 0x00, 0x00, 0x6D,
  0x02, 0x00, 0x01, 0x14, 0x00, 0x00, 0x00, 0x00,
  0x00, 0x00, 0x00, 0x00,
  0x02, 0x00, 0x01, 0x28, 0x00, 0x00, 0x00, 0x00,
  0x00, 0x00, 0x00, 0x00, 0x00, 0x00, 0x00, 0x00, 0x00, 0x00, 0x00, 0x00]

end FailedTickExample

open FailedTickExample in
/-- The first tick of the script runs its behaviour, fails, and leaves everything as it was. -/
theorem scribble_restored :
    ∃ loaded, Machine.load script registry {} = .ok loaded ∧
      loaded.tick.step?.isSome ∧ loaded.tick.result = .error .callStackUnderflow ∧
      loaded.tick.machine.memory.bytes = loaded.memory.bytes ∧
      loaded.tick.machine.memory.cells = loaded.memory.cells ∧
      loaded.tick.machine.schedule = loaded.schedule ∧
      loaded.tick.machine.conditions = loaded.conditions ∧
      loaded.tick.machine.ticks = loaded.ticks ∧
      loaded.tick.machine.memory.journal? = none ∧ loaded.tick.machine.memory.dirty = [] := by
  obtain ⟨loaded, load, ran, gaveUp⟩ := exists_ok_of_evaluation (Machine.load script registry {})
    (fun loaded => loaded.tick.step?.isSome = true ∧
      errorOf? loaded.tick.result = some .callStackUnderflow) (by decide +kernel)
  have failure := errorOf?_eq_some.1 gaveUp
  exact ⟨loaded, load, ran, failure, failed_tick_restores load [] failure⟩

end MissionScript
