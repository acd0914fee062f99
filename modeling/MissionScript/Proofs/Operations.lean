import MissionScript.Machine.Program
import MissionScript.Proofs.Journal

/-!
# What operations change

A behaviour acts on the frame by operations only, so a statement about every behaviour is one
about every operation. `Program.run_preserves` is that step. For memory, `Operation.perform_memory`
says once what an operation can do to it: nothing, or one new cell.
-/

namespace MissionScript

/-- What every operation preserves, every program preserves. -/
theorem Program.run_preserves {α : Type} {site : Site} (invariant : Frame → Prop)
    (step : ∀ (operation : Operation) frame,
      invariant frame → invariant (operation.perform site frame).2)
    (program : Program α) (frame : Frame) (holds : invariant frame) :
    invariant (program.run site frame).2 := by
  induction program generalizing frame with
  | finish result => exact holds
  | ask operation next ih => exact ih _ _ (step operation frame holds)

/-! ## 1. Operations that leave memory alone -/

namespace Frame

@[simp] theorem changeThread_memory (frame : Frame) (id : Nat)
    (change : Thread → Except Error Thread) :
    (frame.changeThread id change).2.memory = frame.memory := by
  unfold changeThread
  split
  · rfl
  · split <;> rfl

@[simp] theorem startThread_memory (site : Site) (frame : Frame) (pc : Nat) (isMission : Bool) :
    (frame.startThread site pc isMission).2.memory = frame.memory := by
  unfold startThread
  cases frame.schedule.thread? site.thread <;> rfl

@[simp] theorem setPc_memory (site : Site) (frame : Frame) (address : Nat) :
    (frame.setPc site address).2.memory = frame.memory := by
  have kept := frame.changeThread_memory site.thread fun thread => .ok { thread with pc := address }
  unfold setPc
  split
  · next changed => simpa only [changed] using kept
  · next changed => simpa only [changed] using kept

@[simp] theorem jump_memory (site : Site) (frame : Frame) (target : Int32) :
    (frame.jump site target).2.memory = frame.memory := by
  unfold jump
  cases frame.resolveTarget site target with
  | error error => rfl
  | ok address => exact frame.setPc_memory site address

@[simp] theorem call_memory (site : Site) (frame : Frame) (target : Int32) :
    (frame.call site target).2.memory = frame.memory := by
  have kept := frame.changeThread_memory site.thread fun thread =>
    thread.pushReturn site.instruction.next
  unfold call
  cases frame.resolveTarget site target with
  | error error => rfl
  | ok address =>
    simp only
    split
    · next changed => simpa only [changed] using kept
    · next changed => simpa only [changed, setPc_memory] using kept

@[simp] theorem ret_memory (site : Site) (frame : Frame) :
    (frame.ret site).2.memory = frame.memory := by
  unfold ret
  cases frame.schedule.thread? site.thread with
  | none => rfl
  | some thread =>
    cases popped : thread.popReturn with
    | error error => simp only [popped]
    | ok returned => simp only [popped, setPc_memory]

@[simp] theorem openConditions_memory (frame : Frame) (capacity : Nat) (combine : Combine) :
    (frame.openConditions capacity combine).2.memory = frame.memory := by
  unfold openConditions
  cases Conditions.start capacity combine <;> rfl

@[simp] theorem pushCondition_memory (site : Site) (frame : Frame) (value : Bool) :
    (frame.pushCondition site value).2.memory = frame.memory := by
  unfold pushCondition
  cases frame.conditions.push value site.instruction.negated <;> rfl

/-! ## 2. Operations that leave threads alone -/

@[simp] theorem allocate_schedule (site : Site) (frame : Frame) (address : Nat) (value : Value) :
    (frame.allocate site address value).2.schedule = frame.schedule := by
  unfold allocate
  split
  · rfl
  · split <;> rfl

@[simp] theorem openConditions_schedule (frame : Frame) (capacity : Nat) (combine : Combine) :
    (frame.openConditions capacity combine).2.schedule = frame.schedule := by
  unfold openConditions
  cases Conditions.start capacity combine <;> rfl

@[simp] theorem pushCondition_schedule (site : Site) (frame : Frame) (value : Bool) :
    (frame.pushCondition site value).2.schedule = frame.schedule := by
  unfold pushCondition
  cases frame.conditions.push value site.instruction.negated <;> rfl

@[simp] theorem resolveConditions_schedule (frame : Frame) :
    frame.resolveConditions.2.schedule = frame.schedule := rfl

/-! ## 3. Operations on memory -/

/-- A store leaves memory as it was or makes one cell. -/
theorem allocate_memory (site : Site) (frame : Frame) (address : Nat) (value : Value) :
    (frame.allocate site address value).2.memory = frame.memory ∨
      ∃ dataType data, value.storage? = some (dataType, data) ∧
        frame.memory.allocate address dataType data =
          .ok (frame.allocate site address value).2.memory := by
  unfold allocate
  cases stored : value.storage? with
  | none => exact Or.inl rfl
  | some storage =>
    obtain ⟨dataType, data⟩ := storage
    cases allocated : frame.memory.allocate address dataType data with
    | error error => exact Or.inl (by simp only [allocated])
    | ok memory => exact Or.inr ⟨dataType, data, rfl, by simp only [allocated]⟩

end Frame

/-- Every operation leaves memory as it was or makes one cell. -/
theorem Operation.perform_memory (site : Site) (frame : Frame) (operation : Operation) :
    (operation.perform site frame).2.memory = frame.memory ∨
      ∃ address value dataType data, Value.storage? value = some (dataType, data) ∧
        frame.memory.allocate address dataType data =
          .ok (operation.perform site frame).2.memory := by
  cases operation with
  | allocate address value =>
    rcases frame.allocate_memory site address value with kept | ⟨dataType, data, stored, made⟩
    · exact Or.inl kept
    · exact Or.inr ⟨address, value, dataType, data, stored, made⟩
  | assign place value =>
    cases place with
    | global address =>
      rcases frame.allocate_memory site address value with kept | ⟨dataType, data, stored, made⟩
      · exact Or.inl kept
      · exact Or.inr ⟨address, value, dataType, data, stored, made⟩
    | slot index => exact Or.inl (frame.changeThread_memory _ _)
  | startThread pc isMission => exact Or.inl (frame.startThread_memory site pc isMission)
  | setThreadLocal id index value => exact Or.inl (frame.changeThread_memory _ _)
  | setThreadName name => exact Or.inl (frame.changeThread_memory _ _)
  | openConditions capacity combine => exact Or.inl (frame.openConditions_memory capacity combine)
  | pushCondition value => exact Or.inl (frame.pushCondition_memory site value)
  | jump target => exact Or.inl (frame.jump_memory site target)
  | setPc address => exact Or.inl (frame.setPc_memory site address)
  | call target => exact Or.inl (frame.call_memory site target)
  | ret => exact Or.inl (frame.ret_memory site)
  | view | remark | sleepUntil | endThread | resolveConditions | resolveTarget => exact Or.inl rfl

theorem Operation.perform_memory_size (site : Site) (frame : Frame) (operation : Operation) :
    (operation.perform site frame).2.memory.size = frame.memory.size := by
  rcases operation.perform_memory site frame with kept | ⟨_, _, _, _, _, made⟩
  · rw [kept]
  · exact Memory.allocate_size made

end MissionScript
