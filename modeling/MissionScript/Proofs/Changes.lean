import MissionScript.Proofs.BuiltinEffects
import MissionScript.Proofs.Contents

/-!
# What one operation can change

A behaviour may ask for any operations in any order, so what holds after every behaviour is what
every single operation keeps. `Frame.Change` lists what a single operation can do to a frame: edit
one thread, start one, put the running thread to sleep, make one cell, or take one step in the
condition block. `Operation.perform_change` shows that there is nothing else. An invariant of
behaviours is then a case split over `Frame.Change`, with no operation to be opened again.
-/

namespace MissionScript

/-! ## 1. Changes -/

/-- An edit that is no concern of the schedule: number and waking stay as they are, and calls are
nested no deeper than they may be. -/
structure Thread.Edited (before after : Thread) : Prop where
  id : after.id = before.id
  wake : after.wake = before.wake
  depth : before.returns.length ≤ callDepth → after.returns.length ≤ callDepth

/-- What one operation can do to the threads, at the site that asks for it. -/
inductive Schedule.Move (site : Site) (before : Schedule) : Schedule → Prop where
  | edit {id : Nat} {thread edited : Thread} (found : before.thread? id = some thread)
      (isEdit : thread.Edited edited) :
      Move site before (before.modify id fun _ => edited)
  /-- A thread is added, and control stays where it is. -/
  | start {thread : Thread} (stays : site.config.switchOnNewThread = false)
      (id : thread.id = before.nextId) (awake : thread.wake = .awake)
      (fresh : thread.returns = []) :
      Move site before { before with threads := before.threads ++ [thread] }
  | startAndPass {thread : Thread} (switches : site.config.switchOnNewThread = true)
      (id : thread.id = before.nextId) (awake : thread.wake = .awake)
      (fresh : thread.returns = []) :
      Move site before (Schedule.pass { before with threads := before.threads ++ [thread] })
  | sleep (time : Nat) : Move site before (before.sleep site.thread time).pass

/-- What one operation can do to the condition block. -/
inductive Conditions.Move (before : Conditions) : Conditions → Prop where
  | start {capacity : Nat} {combine : Combine} {after : Conditions}
      (started : Conditions.start capacity combine = .ok after) : Move before after
  | push {value negated : Bool} {after : Conditions}
      (pushed : before.push value negated = .ok after) : Move before after
  | close : Move before .closed

/-- What one operation can do to the frame. -/
inductive Frame.Change (site : Site) (before : Frame) : Frame → Prop where
  | nothing : Change site before before
  | threads {schedule : Schedule} (jumped : Bool)
      (move : before.schedule.Move site schedule) :
      Change site before { before with schedule, jumped }
  | store {address : Nat} {dataType : DataType} {data : List UInt8} {memory : Memory}
      (four : data.length = cellWidth)
      (made : before.memory.allocate address dataType data = .ok memory) :
      Change site before { before with memory }
  | conditions {conditions : Conditions} (move : before.conditions.Move conditions) :
      Change site before { before with conditions }
  | remark (text : String) : Change site before { before with remarks := text :: before.remarks }

/-! ## 2. Edits -/

namespace Thread

theorem Edited.setLocal {thread changed : Thread} {index now : Nat} {value : Value}
    (success : thread.setLocal index value now = .ok changed) : thread.Edited changed := by
  obtain ⟨_, _, rfl⟩ := setLocal_eq_ok success
  exact ⟨rfl, rfl, fun shallow => shallow⟩

end Thread

/-! ## 3. Operations that fail

All operations on threads leave the frame as it was when they fail. In particular no call is half
done: the place to return to is remembered only when the jump succeeds as well. -/

namespace Frame

variable {site : Site} {frame after : Frame} {error : Error}

theorem changeThread_eq_error {id : Nat} {change : Thread → Except Error Thread}
    (failed : frame.changeThread id change = (.error error, after)) : after = frame := by
  unfold changeThread at failed
  split at failed
  · cases failed
    rfl
  · split at failed
    · cases failed
      rfl
    · cases failed

theorem startThread_eq_error {pc : Nat} {isMission : Bool}
    (failed : frame.startThread site pc isMission = (.error error, after)) : after = frame := by
  unfold startThread at failed
  split at failed
  · cases failed
    rfl
  · cases failed

theorem setPc_eq_error {address : Nat}
    (failed : frame.setPc site address = (.error error, after)) : after = frame := by
  unfold setPc at failed
  split at failed
  · next changed =>
    cases failed
    exact changeThread_eq_error changed
  · cases failed

/-- A thread that exists can be set to any place. -/
theorem setPc_ne_error {address : Nat} (thread : Thread)
    (found : frame.schedule.thread? site.thread = some thread) :
    frame.setPc site address ≠ (.error error, after) := by
  intro failed
  unfold setPc changeThread at failed
  simp only [found] at failed
  cases failed

theorem jump_eq_error {target : Int32}
    (failed : frame.jump site target = (.error error, after)) : after = frame := by
  unfold jump at failed
  split at failed
  · cases failed
    rfl
  · exact setPc_eq_error failed

theorem call_eq_error {target : Int32}
    (failed : frame.call site target = (.error error, after)) : after = frame := by
  unfold call at failed
  split at failed
  · cases failed
    rfl
  · split at failed
    · next changed =>
      cases failed
      exact changeThread_eq_error changed
    · -- Where a place to return to could be remembered there is a thread, and its place can be set.
      next changed =>
      obtain ⟨thread, pushed, found, _, rfl⟩ := changeThread_eq_ok.1 changed
      refine absurd failed (setPc_ne_error pushed ?_)
      rw [Schedule.thread?_modify_self, found]
      rfl

theorem ret_eq_error (failed : frame.ret site = (.error error, after)) : after = frame := by
  unfold ret at failed
  split at failed
  · cases failed
    rfl
  · next thread found =>
    split at failed
    · cases failed
      rfl
    · next address popped _ =>
      refine absurd failed (setPc_ne_error popped ?_)
      rw [Schedule.thread?_modify_self, found]
      rfl

/-! ## 4. Operations -/

theorem changeThread_change (id : Nat) {change : Thread → Except Error Thread}
    (edits : ∀ thread changed, change thread = .ok changed → thread.Edited changed) :
    frame.Change site (frame.changeThread id change).2 := by
  rcases outcome : frame.changeThread id change with ⟨_ | _, after⟩
  · rw [changeThread_eq_error outcome]
    exact .nothing
  · obtain ⟨thread, changed, found, isChanged, rfl⟩ := changeThread_eq_ok.1 outcome
    exact .threads frame.jumped (.edit found (edits thread changed isChanged))

theorem startThread_change (pc : Nat) (isMission : Bool) :
    frame.Change site (frame.startThread site pc isMission).2 := by
  rcases outcome : frame.startThread site pc isMission with ⟨_ | id, after⟩
  · rw [startThread_eq_error outcome]
    exact .nothing
  · obtain ⟨starter, _, _, rfl⟩ := startThread_eq_ok.1 outcome
    obtain ⟨isNext, awake, fresh⟩ := frame.startedThread_new starter pc isMission
    refine .threads frame.jumped ?_
    cases switches : site.config.switchOnNewThread with
    | true => exact .startAndPass switches isNext awake fresh
    | false => exact .start switches isNext awake fresh

theorem setPc_change (address : Nat) : frame.Change site (frame.setPc site address).2 := by
  rcases outcome : frame.setPc site address with ⟨_ | _, after⟩
  · rw [setPc_eq_error outcome]
    exact .nothing
  · obtain ⟨thread, found, rfl⟩ := setPc_eq_ok.1 outcome
    exact .threads true (.edit found ⟨rfl, rfl, fun shallow => shallow⟩)

theorem jump_change (target : Int32) : frame.Change site (frame.jump site target).2 := by
  rcases outcome : frame.jump site target with ⟨_ | _, after⟩
  · rw [jump_eq_error outcome]
    exact .nothing
  · obtain ⟨address, _, set⟩ := jump_eq_ok.1 outcome
    have changed : frame.Change site (frame.setPc site address).2 := setPc_change address
    rw [set] at changed
    exact changed

theorem call_change (target : Int32) : frame.Change site (frame.call site target).2 := by
  rcases outcome : frame.call site target with ⟨_ | _, after⟩
  · rw [call_eq_error outcome]
    exact .nothing
  · obtain ⟨address, thread, _, found, room, rfl⟩ := call_eq_ok.1 outcome
    refine .threads true (.edit found ⟨rfl, rfl, fun _ => ?_⟩)
    rw [Thread.length_returns] at room ⊢
    exact room

theorem ret_change : frame.Change site (frame.ret site).2 := by
  rcases outcome : frame.ret site with ⟨_ | _, after⟩
  · rw [ret_eq_error outcome]
    exact .nothing
  · obtain ⟨thread, address, found, returns, rfl⟩ := ret_eq_ok.1 outcome
    refine .threads true (.edit found ⟨rfl, rfl, fun shallow => ?_⟩)
    rw [returns, List.length_cons] at shallow
    exact Nat.le_of_succ_le shallow

theorem allocate_change (address : Nat) (value : Value) :
    frame.Change site (frame.allocate site address value).2 := by
  unfold allocate
  cases stored : value.storage? with
  | none => exact .nothing
  | some storage =>
    obtain ⟨dataType, data⟩ := storage
    cases made : frame.memory.allocate address dataType data with
    | error error =>
      simp only [made]
      exact .nothing
    | ok memory =>
      simp only [made]
      exact .store (Value.length_storage? stored) made

theorem openConditions_change (capacity : Nat) (combine : Combine) :
    frame.Change site (frame.openConditions capacity combine).2 := by
  unfold openConditions
  cases started : Conditions.start capacity combine with
  | error error => exact .nothing
  | ok conditions => exact .conditions (.start started)

theorem pushCondition_change (value : Bool) :
    frame.Change site (frame.pushCondition site value).2 := by
  unfold pushCondition
  cases pushed : frame.conditions.push value site.instruction.negated with
  | error error => exact .nothing
  | ok conditions => exact .conditions (.push pushed)

end Frame

/-- Every operation, whether it succeeds or fails, makes one of the listed changes. -/
theorem Operation.perform_change (site : Site) (frame : Frame) (operation : Operation) :
    frame.Change site (operation.perform site frame).2 := by
  cases operation with
  | view | resolveTarget => exact .nothing
  | remark text => exact .remark text
  | allocate address value => exact Frame.allocate_change address value
  | assign place value =>
    cases place with
    | global address => exact Frame.allocate_change address value
    | slot index => exact Frame.changeThread_change _ fun _ _ => Thread.Edited.setLocal
  | startThread pc isMission => exact Frame.startThread_change pc isMission
  | setThreadLocal id index value =>
    exact Frame.changeThread_change _ fun _ _ => Thread.Edited.setLocal
  | setThreadName name =>
    refine Frame.changeThread_change _ fun thread changed isChanged => ?_
    cases isChanged
    exact ⟨rfl, rfl, fun shallow => shallow⟩
  | sleepUntil time => exact .threads frame.jumped (.sleep time)
  | endThread => exact .threads frame.jumped (.sleep endOfTime)
  | openConditions capacity combine => exact Frame.openConditions_change capacity combine
  | pushCondition value => exact Frame.pushCondition_change value
  | resolveConditions => exact .conditions .close
  | jump target => exact Frame.jump_change target
  | setPc address => exact Frame.setPc_change address
  | call target => exact Frame.call_change target
  | ret => exact Frame.ret_change

end MissionScript
