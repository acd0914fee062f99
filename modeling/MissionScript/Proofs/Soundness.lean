import MissionScript.Proofs.Changes
import MissionScript.Proofs.FailedTick

/-!
# Sound machines

Threads refer to each other by number, cells and dirty spans refer to addresses, and none of these
references is checked when it is followed. This module shows that none has to be: whatever
behaviours do, between two ticks a machine is sound (`Machine.Sound`).

1. `Schedule.Sound`: every thread stands under its own number, and the thread that runs exists and is
   awake. Passing control makes a schedule sound again whatever was asleep before
   (`Schedule.Formed.pass`), which is why a behaviour may pass control in its middle.
2. `Conditions.Sound`: an open block has one to eight slots, and the filled ones come first.
3. `Memory.Sound`: memory keeps its size, and cells and dirty spans lie inside it.
4. `Machine.Sound.serveAll`: the three hold after every run of ticks and moves of threads, with the journal
   closed and the clock showing the number of ticks that have succeeded.
5. `Machine.Sound.serve_schedule`: what the operations keep of a sound schedule, a request keeps.
-/

namespace MissionScript

/-! ## 1. Schedules -/

namespace Schedule

/-- There is a thread; every thread stands under its own number, and none has calls nested too
deeply. -/
structure Formed (schedule : Schedule) : Prop where
  nonempty : schedule.threads ≠ []
  numbered : schedule.Numbered
  shallow : ∀ thread ∈ schedule.threads, thread.returns.length ≤ callDepth

/-- Moreover, the thread that runs exists and is awake. -/
structure Sound (schedule : Schedule) : Prop extends Formed schedule where
  current : ∀ id, schedule.current? = some id →
    ∃ thread, schedule.thread? id = some thread ∧ thread.wake = .awake

variable {schedule after : Schedule}

theorem Formed.shallow_of_found (formed : schedule.Formed) {id : Nat} {thread : Thread}
    (found : schedule.thread? id = some thread) : thread.returns.length ≤ callDepth :=
  formed.shallow thread (List.mem_of_getElem? found)

/-- It is enough that each thread comes from the one with its number, and that number and depth of
calls are kept on the way. -/
theorem Formed.of_threads (formed : schedule.Formed)
    (length : after.threads.length = schedule.threads.length)
    (origin : ∀ id changed, after.thread? id = some changed →
      ∃ thread, schedule.thread? id = some thread ∧ changed.id = thread.id ∧
        (thread.returns.length ≤ callDepth → changed.returns.length ≤ callDepth)) :
    after.Formed where
  nonempty := by
    rw [← List.length_pos_iff, length]
    exact List.length_pos_iff.2 formed.nonempty
  numbered := by
    intro id changed isChanged
    obtain ⟨thread, found, sameId, _⟩ := origin id changed isChanged
    rw [sameId]
    exact formed.numbered id thread found
  shallow := by
    intro changed member
    obtain ⟨id, isChanged⟩ := List.getElem?_of_mem member
    obtain ⟨thread, found, _, depth⟩ := origin id changed isChanged
    exact depth (formed.shallow_of_found found)

theorem Formed.modify (formed : schedule.Formed) (id : Nat) {change : Thread → Thread}
    (kept : ∀ thread, schedule.thread? id = some thread → (change thread).id = thread.id ∧
      (thread.returns.length ≤ callDepth → (change thread).returns.length ≤ callDepth)) :
    (schedule.modify id change).Formed := by
  refine formed.of_threads (List.length_modify _ _ _) ?_
  intro other changed isChanged
  rw [thread?_modify] at isChanged
  obtain ⟨thread, found, rfl⟩ := Option.map_eq_some_iff.1 isChanged
  refine ⟨thread, found, ?_⟩
  split
  · next same =>
    subst same
    exact kept thread found
  · exact ⟨rfl, fun shallow => shallow⟩

theorem Formed.sleep (formed : schedule.Formed) (id time : Nat) : (schedule.sleep id time).Formed :=
  formed.modify id fun _ _ => ⟨rfl, fun shallow => shallow⟩

theorem Formed.append (formed : schedule.Formed) {thread : Thread}
    (id : thread.id = schedule.nextId) (fresh : thread.returns = []) :
    Formed { schedule with threads := schedule.threads ++ [thread] } where
  nonempty := List.append_ne_nil_of_right_ne_nil _ (List.cons_ne_nil _ _)
  numbered := by
    intro other found isFound
    rw [thread?_append] at isFound
    split at isFound
    · next isNext =>
      cases isFound
      rw [id, isNext]
    · exact formed.numbered other found isFound
  shallow := by
    intro other member
    rcases List.mem_append.1 member with old | new
    · exact formed.shallow other old
    · rw [List.mem_singleton.1 new, fresh]
      exact Nat.zero_le _

/-- Passing control needs no thread to be awake, and leaves awake the thread that runs. -/
theorem Formed.pass (formed : schedule.Formed) : schedule.pass.Sound where
  toFormed := by
    refine formed.of_threads schedule.length_pass ?_
    intro id changed isChanged
    obtain ⟨thread, wake, found, rfl⟩ := exists_of_thread?_pass isChanged
    exact ⟨thread, found, rfl, fun shallow => shallow⟩
  current := by
    intro id chosen
    rw [current?_pass] at chosen
    obtain ⟨thread, found, _⟩ := mostOverdue?_found formed.numbered.settle chosen
    refine ⟨{ thread with wake := .awake }, ?_, rfl⟩
    rw [thread?_pass, found, Option.map_some, if_pos chosen]

theorem Sound.modify (sound : schedule.Sound) (id : Nat) {change : Thread → Thread}
    (edits : ∀ thread, schedule.thread? id = some thread → thread.Edited (change thread)) :
    (schedule.modify id change).Sound where
  toFormed := sound.toFormed.modify id fun thread found =>
    ⟨(edits thread found).id, (edits thread found).depth⟩
  current := by
    intro running isCurrent
    obtain ⟨thread, found, awake⟩ := sound.current running isCurrent
    rw [thread?_modify, found, Option.map_some]
    refine ⟨_, rfl, ?_⟩
    split
    · next same =>
      subst same
      rw [(edits thread found).wake, awake]
    · exact awake

theorem Sound.move {site : Site} (sound : schedule.Sound)
    (move : schedule.Move site after) : after.Sound := by
  cases move with
  | edit found isEdit =>
    refine sound.modify _ fun thread again => ?_
    cases found.symm.trans again
    exact isEdit
  | @start thread _ isNext awake fresh =>
    refine ⟨sound.toFormed.append isNext fresh, ?_⟩
    intro id isCurrent
    obtain ⟨current, found, isAwake⟩ := sound.current id isCurrent
    -- The thread that runs is an old one, and old threads keep their places.
    have exists_old : id < schedule.nextId := (List.getElem?_eq_some_iff.1 found).1
    refine ⟨current, ?_, isAwake⟩
    rw [thread?_append, if_neg (Nat.ne_of_lt exists_old), found]
  | startAndPass _ isNext _ fresh => exact (sound.toFormed.append isNext fresh).pass
  | sleep time => exact (sound.toFormed.sleep site.thread time).pass

/-- No operation advances the clock. -/
theorem Move.time {site : Site} (move : schedule.Move site after) :
    after.time = schedule.time := by
  cases move with
  | edit | start => rfl
  | startAndPass => exact time_pass _
  | sleep time => exact time_pass _

end Schedule

/-! ## 2. Condition blocks -/

/-- A block has one to eight slots, and the filled ones come first. -/
structure Block.Sound (block : Block) : Prop where
  slots_pos : 0 < block.slots.length
  slots_le : block.slots.length ≤ maxConditions
  filled : ∃ values empty, block.slots = List.map some values ++ List.replicate empty none

/-- No block is open, or the open one is sound. -/
def Conditions.Sound (conditions : Conditions) : Prop :=
  ∀ block, conditions.block? = some block → block.Sound

/-- The first empty slot is the one behind the filled ones. -/
theorem fillFirst?_filled {value : Bool} {values : List Bool} {empty : Nat}
    {slots : List (Option Bool)}
    (found : fillFirst? value (values.map some ++ List.replicate empty none) = some slots) :
    ∃ left, empty = left + 1 ∧
      slots = (values ++ [value]).map some ++ List.replicate left none := by
  induction values generalizing slots with
  | nil =>
    cases empty with
    | zero => cases found
    | succ left =>
      cases found
      exact ⟨left, rfl, rfl⟩
  | cons first rest ih =>
    obtain ⟨tail, filledTail, rfl⟩ := Option.map_eq_some_iff.1 found
    obtain ⟨left, isLeft, rfl⟩ := ih filledTail
    exact ⟨left, isLeft, rfl⟩

theorem Conditions.Sound.move {before after : Conditions} (sound : before.Sound)
    (move : before.Move after) : after.Sound := by
  cases move with
  | start started =>
    unfold Conditions.start at started
    split at started
    · cases started
    · next capacity =>
      cases started
      intro block isOpen
      cases isOpen
      refine ⟨?_, ?_, [], _, rfl⟩
      · rw [List.length_replicate]
        omega
      · rw [List.length_replicate]
        omega
  | push pushed =>
    unfold Conditions.push at pushed
    split at pushed
    · cases pushed
    · next block isOpen =>
      split at pushed
      · cases pushed
      · next slots fills =>
        cases pushed
        intro other same
        cases same
        obtain ⟨positive, bound, values, empty, isFilled⟩ := sound block isOpen
        have sameLength := length_of_fillFirst? fills
        rw [isFilled] at fills
        obtain ⟨left, _, rfl⟩ := fillFirst?_filled fills
        exact ⟨sameLength ▸ positive, sameLength ▸ bound, _, left, rfl⟩
  | close =>
    intro block isOpen
    cases isOpen

/-! ## 3. Memory -/

/-- Memory has the given size, every cell takes four bytes of it, and every dirty span is a part of it
that is not empty. -/
structure Memory.Sound (size : Nat) (memory : Memory) : Prop where
  size_eq : memory.size = size
  cells : ∀ address cell, memory.cell? address = some cell →
    cell.width = 4 ∧ address + cell.width ≤ memory.size
  dirty : ∀ span ∈ memory.dirty, span.start < span.stop ∧ span.stop ≤ memory.size

theorem Memory.Sound.allocate {size address : Nat} {memory allocated : Memory} {dataType : DataType}
    {data : List UInt8} (sound : memory.Sound size) (four : data.length = cellWidth)
    (made : memory.allocate address dataType data = .ok allocated) : allocated.Sound size := by
  have sameSize := allocate_size made
  obtain ⟨written, wrote, rfl⟩ := allocate_eq_ok made
  obtain ⟨fits, _, cells, dirty, _⟩ := write_eq_ok wrote
  have width : cellWidth = 4 := rfl
  refine ⟨sameSize.trans sound.size_eq, ?_, ?_⟩
  · intro other cell isCell
    rw [sameSize]
    simp only [Memory.cell?, Table.get?_insert] at isCell
    split at isCell
    · next same =>
      cases isCell
      refine ⟨rfl, ?_⟩
      show other + 4 ≤ memory.size
      omega
    · rw [cells] at isCell
      exact sound.cells other cell isCell
  · intro span member
    rw [sameSize]
    have listed : span ∈ memory.dirty ++ [⟨address, address + data.length⟩] := by
      have inWritten : span ∈ written.dirty := member
      rw [dirty] at inWritten
      split at inWritten
      · exact List.mem_append_left _ inWritten
      · exact inWritten
    rcases List.mem_append.1 listed with old | new
    · exact sound.dirty span old
    · rw [List.mem_singleton.1 new]
      exact ⟨by simp only; omega, fits⟩

/-! ## 4. Machines -/

/-- All parts of a frame are sound, and the clock stands at the given time. -/
structure Frame.Sound (size time : Nat) (frame : Frame) : Prop where
  schedule : frame.schedule.Sound
  conditions : frame.conditions.Sound
  memory : frame.memory.Sound size
  time_eq : frame.schedule.time = time

theorem Frame.Sound.change {size time : Nat} {site : Site} {before after : Frame}
    (sound : before.Sound size time) (change : before.Change site after) :
    after.Sound size time := by
  obtain ⟨schedule, conditions, memory, isTime⟩ := sound
  cases change with
  | nothing | remark => exact ⟨schedule, conditions, memory, isTime⟩
  | threads _ move => exact ⟨schedule.move move, conditions, memory, move.time.trans isTime⟩
  | store four made => exact ⟨schedule, conditions, memory.allocate four made, isTime⟩
  | conditions move => exact ⟨schedule, conditions.move move, memory, isTime⟩

/-- What an operation does to the schedule is one of its moves, or nothing. -/
theorem Frame.Change.schedule {site : Site} {before after : Frame}
    (change : before.Change site after) :
    after.schedule = before.schedule ∨ before.schedule.Move site after.schedule := by
  cases change with
  | nothing | store | conditions | remark => exact Or.inl rfl
  | threads _ move => exact Or.inr move

namespace Machine

/-- What holds of a machine between two ticks, `size` being the length of the script. -/
structure Sound (size : Nat) (machine : Machine) : Prop where
  schedule : machine.schedule.Sound
  conditions : machine.conditions.Sound
  memory : machine.memory.Sound size
  journal : machine.memory.journal? = none
  clock : machine.ticks = machine.schedule.time

variable {machine : Machine} {size : Nat}

theorem Sound.cleared (sound : machine.Sound size) : machine.cleared.Sound size where
  schedule := sound.schedule
  conditions := sound.conditions
  memory := ⟨sound.memory.size_eq, sound.memory.cells, fun span member => by cases member⟩
  journal := sound.journal
  clock := sound.clock

/-- An instruction starts in a sound frame. -/
theorem Sound.frame (sound : machine.Sound size) :
    machine.frame.Sound size machine.schedule.time :=
  ⟨sound.schedule, sound.conditions,
    ⟨sound.memory.size_eq, sound.memory.cells, sound.memory.dirty⟩, rfl⟩

/-- An instruction that starts in a sound machine leaves a sound frame, whether it succeeds or not. -/
theorem Sound.run (sound : machine.Sound size) {step : Step} {result : Except Error Unit}
    {after : Frame} (ran : step.run machine.frame = (result, after)) :
    after.Sound size machine.schedule.time := by
  have kept : (step.run machine.frame).2.Sound size machine.schedule.time := by
    apply step.run_preserves (Frame.Sound size machine.schedule.time)
    · intro operation frame holds
      exact holds.change (operation.perform_change step.site frame)
    · exact sound.frame
  rw [ran] at kept
  exact kept

/-- After a successful instruction the thread goes on, the clock advances and the journal is
closed. -/
theorem Sound.accept (sound : machine.Sound size) (step : Step) {after : Frame}
    (ended : after.Sound size machine.schedule.time) : (machine.accept step after).Sound size := by
  have moved : (if after.jumped then after.schedule
      else after.schedule.modify step.site.thread fun thread =>
        { thread with pc := step.site.instruction.next }).Sound := by
    split
    · exact ended.schedule
    · exact ended.schedule.modify _ fun thread _ => ⟨rfl, rfl, fun shallow => shallow⟩
  refine ⟨⟨⟨moved.nonempty, moved.numbered, moved.shallow⟩, moved.current⟩, ended.conditions,
    ⟨ended.memory.size_eq, ended.memory.cells, ended.memory.dirty⟩, rfl, ?_⟩
  have sameTime : (if after.jumped then after.schedule
      else after.schedule.modify step.site.thread fun thread =>
        { thread with pc := step.site.instruction.next }).time = machine.schedule.time := by
    split
    · exact ended.time_eq
    · exact ended.time_eq
  show machine.ticks + 1 = _ + 1
  rw [sameTime, sound.clock]

theorem Sound.tick (sound : machine.Sound size) : machine.tick.machine.Sound size := by
  cases result : machine.tick.result with
  | error error =>
    rw [tick_machine_of_error sound.journal result]
    exact sound.cleared
  | ok record =>
    obtain ⟨step, after, _, ran, accepted, _⟩ := tick_of_ok result
    rw [accepted]
    exact sound.cleared.accept step (sound.cleared.run ran)

theorem Sound.serve (sound : machine.Sound size) (request : Request) :
    (machine.serve request).Sound size := by
  cases request with
  | tick => exact sound.tick
  | setThreadPc id pc =>
    rcases machine.serve_setThreadPc id pc with same | moved
    · rw [same]
      exact sound
    · rw [moved]
      exact {
        schedule := sound.schedule.modify id fun thread _ => ⟨rfl, rfl, fun shallow => shallow⟩
        conditions := sound.conditions
        memory := sound.memory
        journal := sound.journal
        clock := sound.clock }

/-- A request keeps what is kept by moving a thread to another place, by advancing the clock and by every
operation of the thread that has control. While the operations follow each other, the schedule stays sound
and the clock stands still. -/
theorem Sound.serve_schedule (sound : machine.Sound size) (property : Schedule → Prop)
    (relocated : ∀ schedule id pc, property schedule →
      property (schedule.modify id fun thread => { thread with pc }))
    (advanced : ∀ schedule, property schedule → property schedule.advance)
    (moved : ∀ (site : Site) (before after : Schedule), site.config = machine.config →
      machine.schedule.current? = some site.thread → before.Sound →
      before.time = machine.schedule.time → before.Move site after → property before → property after)
    (holds : property machine.schedule) (request : Request) :
    property (machine.serve request).schedule := by
  cases request with
  | setThreadPc id pc =>
    rcases machine.serve_setThreadPc id pc with same | elsewhere
    · rw [same]
      exact holds
    · rw [elsewhere]
      exact relocated _ id pc holds
  | tick =>
    cases result : machine.tick.result with
    | error error =>
      rw [Machine.serve, tick_schedule_of_error result]
      exact holds
    | ok record =>
      obtain ⟨step, after, prepared, ran, accepted, _⟩ := tick_of_ok result
      obtain ⟨thread, entry, ready⟩ := prepare_ready prepared
      have kept : (step.run machine.cleared.frame).2.Sound size machine.schedule.time ∧
          property (step.run machine.cleared.frame).2.schedule := by
        apply step.run_preserves fun frame =>
          frame.Sound size machine.schedule.time ∧ property frame.schedule
        · rintro operation frame ⟨isSound, stillHolds⟩
          have change := operation.perform_change step.site frame
          refine ⟨isSound.change change, ?_⟩
          rcases change.schedule with same | move
          · rw [same]
            exact stillHolds
          · exact moved step.site _ _ ready.config ready.current isSound.schedule isSound.time_eq move
              stillHolds
        · exact ⟨sound.cleared.frame, holds⟩
      rw [ran] at kept
      rw [Machine.serve, accepted]
      refine advanced _ ?_
      split
      · exact kept.2
      · exact relocated _ _ _ kept.2

theorem Sound.serveAll (sound : machine.Sound size) (requests : List Request) :
    (machine.serveAll requests).Sound size :=
  serveAll_invariant (Sound size) (fun _ request holds => holds.serve request) sound requests

/-- A machine that has just been loaded has one thread, and control has passed to it. -/
theorem load_sound {bytes : Array UInt8} {registry : Registry Handler} {config : Config}
    (load : Machine.load bytes registry config = .ok machine) : machine.Sound bytes.size := by
  obtain ⟨layout, code, _, _, rfl⟩ := load_eq_ok load
  have main : (Schedule.empty.spawn 0 false).Formed := by
    refine ⟨List.cons_ne_nil _ _, ?_, ?_⟩
    · intro id thread found
      cases id with
      | zero =>
        cases found
        rfl
      | succ id => cases found
    · intro thread member
      rw [List.mem_singleton.1 member]
      exact Nat.zero_le _
  refine ⟨main.pass, ?_, ⟨rfl, ?_, ?_⟩, rfl, ?_⟩
  · intro block isOpen
    cases isOpen
  · intro address cell isCell
    cases isCell
  · intro span member
    cases member
  · exact (Schedule.empty.spawn 0 false).time_pass.symm

end Machine

/-- Whatever the behaviours in the registry do, a machine is sound after every run: after any number
of ticks, successful or not, and of moves of threads, the threads are numbered, the one that runs is
awake, calls and conditions keep to their bounds, cells and dirty spans lie in a memory that has the
length of the script, no journal is open, and the clock shows how many ticks have succeeded. -/
theorem machine_stays_sound {bytes : Array UInt8} {registry : Registry Handler} {config : Config}
    {loaded : Machine} (load : Machine.load bytes registry config = .ok loaded)
    (requests : List Request) : (loaded.serveAll requests).Sound bytes.size :=
  (Machine.load_sound load).serveAll requests

/-! ## A behaviour that passes control in its middle -/

namespace SoundnessExample

/-- Makes overlapping cells, starts a thread, which takes over control, calls into it, begins a
condition block and ends the thread that it runs for. -/
def churn : Handler := fun _ _ => do
  .allocate 8 (.int 7)
  .allocate 10 (.float ⟨0x3FC00000⟩)
  let id ← .startThread 0 true
  .setThreadLocal id 33 (.int 5)
  .openConditions 3 .any
  .pushCondition true
  .call 8
  .endThread

/-- Jumps churn here. -/
def registry : Registry Handler :=
  ⟨Table.empty.insert Builtin.goto.opcode.key ⟨Builtin.goto.definition, some churn⟩⟩

/-- Two ticks that succeed, and between them one that fails because the thread was moved to where no
instruction stands. -/
def requests : List Request :=
  [.tick, .setThreadPc 1 39, .tick, .setThreadPc 1 0, .tick]

/-- Two threads have ended in the middle of a call, and a third one runs. A block is open, and two cells
that overlap were written last. -/
abbrev Churned (machine : Machine) : Prop :=
  machine.schedule.current? = some 2 ∧
  machine.schedule.threads.map Thread.wake = [.never, .never, .awake] ∧
  machine.schedule.threads.map Thread.returns = [[7], [7], []] ∧
  machine.conditions.slots? = some [some true, none, none] ∧
  machine.memory.dirty = [⟨8, 12⟩, ⟨10, 14⟩] ∧ machine.ticks = 2

end SoundnessExample

open SoundnessExample in
/-- The run ends with two threads that have ended, an open block and overlapping cells, and the machine
is sound. -/
theorem churn_stays_sound :
    ∃ loaded, Machine.load FailedTickExample.script registry {} = .ok loaded ∧
      Churned (loaded.serveAll requests) ∧ (loaded.serveAll requests).Sound 40 := by
  obtain ⟨loaded, load, churned⟩ :=
    exists_ok_of_evaluation (Machine.load FailedTickExample.script registry {})
      (fun loaded => Churned (loaded.serveAll requests)) (by decide +kernel)
  exact ⟨loaded, load, churned, machine_stays_sound load requests⟩

end MissionScript
