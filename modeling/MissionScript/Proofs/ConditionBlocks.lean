import MissionScript.Proofs.Soundness
import MissionScript.Proofs.TickFrame

/-!
# Condition blocks

A script asks several questions before it makes one jump. It opens a block for a number of answers,
asks, and then jumps unless the answers together hold. There is one block for the whole machine, and
between its opening and the jump the script may do many other things. What makes the block belong to
one thread is that nothing in between passes control, and what makes it compute what was declared is
that answers fill it in order, one too many fails, and so does a jump that comes too early.

Results:
1. `Conditions.push_filling`, `Conditions.value_filling`: a block that is being filled is a list of
   answers and a number of answers that it waits for.
2. `Machine.Executes.sameThread`: ticks that do not pass control are all of one thread.
3. `Machine.Executes.fills`: ticks between the opening and the jump fill the block with the answers to
   their questions.
4. `block_decides_jump`: the jump goes by the answers, and there are as many as were declared.
-/

namespace MissionScript

/-! ## 1. Filling a block -/

namespace Conditions

/-- The open block with some answers and a number of slots that are still empty. -/
def filling (combine : Combine) (answers : List Bool) (missing : Nat) : Conditions :=
  ⟨some ⟨combine, answers.map some ++ List.replicate missing none⟩⟩

theorem start_eq_ok {capacity : Nat} {combine : Combine} {conditions : Conditions}
    (success : start capacity combine = .ok conditions) :
    conditions = filling combine [] capacity := by
  unfold start at success
  split at success
  · cases success
  · cases success
    rfl

/-- An answer goes behind the others, as long as one is missing. -/
theorem push_filling {combine : Combine} {answers : List Bool} {missing : Nat}
    {value negated : Bool} {conditions : Conditions}
    (success : (filling combine answers missing).push value negated = .ok conditions) :
    ∃ left, missing = left + 1 ∧
      conditions = filling combine (answers ++ [value != negated]) left := by
  simp only [push, filling] at success
  split at success
  · cases success
  next slots filled =>
  cases success
  obtain ⟨left, isMissing, rfl⟩ := fillFirst?_filled filled
  exact ⟨left, isMissing, rfl⟩

theorem filled?_filling (answers : List Bool) (missing : Nat) :
    filled? (answers.map some ++ List.replicate missing none) =
      if missing = 0 then some answers else none := by
  induction answers with
  | nil => cases missing <;> rfl
  | cons answer rest ih =>
    rw [List.map_cons, List.cons_append, filled?, ih]
    split <;> rfl

/-- A block has a truth value once no answer is missing. -/
theorem value_filling {combine : Combine} {answers : List Bool} {missing : Nat} {value : Bool}
    (success : (filling combine answers missing).value = .ok value) :
    missing = 0 ∧ combine.apply answers = value := by
  simp only [Conditions.value, filling, filled?_filling] at success
  split at success
  · cases success
  next answered isAnswered =>
  split at isAnswered
  next complete =>
    cases isAnswered
    exact ⟨complete, Except.ok.inj success⟩
  · cases isAnswered

end Conditions

theorem Behaviour.blockShape?_eq_some {mode : Int32} {count : Nat} {combine : Combine}
    (shape : blockShape? mode = some (count, combine)) :
    0 ≤ mode.toInt ∧ mode.toInt ≤ 7 ∧ (count : Int) = mode.toInt + 1 ∧ combine = .all ∨
      21 ≤ mode.toInt ∧ mode.toInt ≤ 27 ∧ (count : Int) = mode.toInt - 19 ∧ combine = .any := by
  unfold blockShape? at shape
  simp only at shape
  split at shape
  next low =>
    cases shape
    refine Or.inl ⟨low.1, low.2, ?_, rfl⟩
    omega
  · split at shape
    next high =>
      cases shape
      refine Or.inr ⟨high.1, high.2, ?_, rfl⟩
      omega
    · cases shape

namespace Frame

variable {site : Site} {before after : Frame} {combine : Combine} {answers : List Bool}
  {missing : Nat}

theorem openConditions_filling {count : Nat}
    (opened : before.openConditions count combine = (.ok (), after)) :
    after.conditions = .filling combine [] count := by
  unfold openConditions at opened
  split at opened
  · cases opened
  next conditions started =>
  cases opened
  exact Conditions.start_eq_ok started

theorem pushCondition_filling {value : Bool}
    (pushed : before.pushCondition site value = (.ok (), after))
    (isFilling : before.conditions = .filling combine answers missing) :
    ∃ left, missing = left + 1 ∧ after.conditions =
      .filling combine (answers ++ [value != site.instruction.negated]) left := by
  unfold pushCondition at pushed
  rw [isFilling] at pushed
  split at pushed
  · cases pushed
  next conditions success =>
  cases pushed
  exact Conditions.push_filling success

theorem resolveConditions_filling {value : Bool}
    (resolved : before.resolveConditions = (.ok value, after))
    (isFilling : before.conditions = .filling combine answers missing) :
    missing = 0 ∧ combine.apply answers = value ∧ after.conditions = .closed ∧
      after.jumped = before.jumped := by
  obtain ⟨isValue, rfl⟩ := Prod.mk.inj resolved
  have valued : before.conditions.value = .ok value := isValue
  rw [isFilling] at valued
  obtain ⟨complete, isValue⟩ := Conditions.value_filling valued
  exact ⟨complete, isValue, rfl, rfl⟩

end Frame

/-! ## 2. Consecutive ticks -/

namespace Builtin

/-- The built-ins that answer a question. -/
def comparisons : List Builtin := [.isIntVarGreaterThanNumber, .isIntVarEqualToNumber]

/-- The built-ins that may pass control. -/
def passers : List Builtin :=
  [.wait, .terminateThisScript, .startNewScript, .startNewScriptWithArgs, .startMission]

theorem mem_passers_of_passesControl {config : Config} {builtin : Builtin}
    (passes : builtin.passesControl config = true) : builtin ∈ passers := by
  cases builtin with
  | wait | terminateThisScript | startNewScript | startNewScriptWithArgs | startMission => decide
  | _ => cases passes

end Builtin

/-- A turn in which control does not pass. -/
theorem Schedule.Turn.current {site : Site} {before after : Schedule} {starts : Bool}
    (turn : before.Turn site starts false after) : after.current? = before.current? := by
  cases turn with
  | stay edits | start _ _ _ edits => exact edits.current

/-- An instruction that a tick has carried out, and the record of the tick. -/
structure Executed where
  step : Step
  record : TickRecord

namespace Executed

def opcode (executed : Executed) : Opcode := executed.record.opcode

def thread (executed : Executed) : Nat := executed.record.thread

/-- How the variable of a comparison stands to its number, if the instruction is a comparison. -/
def comparison? (executed : Executed) : Option Bool :=
  let step := executed.step
  match step.args.get "var" >>= Behaviour.intValue step.site, step.args.int "value" with
  | .ok current, .ok number =>
    if executed.opcode = Builtin.isIntVarGreaterThanNumber.opcode then some (number < current)
    else if executed.opcode = Builtin.isIntVarEqualToNumber.opcode then some (current = number)
    else none
  | _, _ => none

/-- The answer of a comparison, which is inverted when the instruction is negated. -/
def answer? (executed : Executed) : Option Bool :=
  executed.comparison?.map fun holds => if executed.record.negated then !holds else holds

theorem answer?_of_comparison? {executed : Executed} {holds : Bool}
    (compared : executed.comparison? = some holds) :
    executed.answer? = some (holds != executed.record.negated) := by
  rw [answer?, compared, Option.map_some]
  cases executed.record.negated <;> cases holds <;> rfl

def isComparison (executed : Executed) : Bool :=
  executed.opcode ∈ Builtin.comparisons.map Builtin.opcode

end Executed

namespace Machine

/-- What the next tick carries out, if it succeeds. -/
def executed? (machine : Machine) : Option Executed :=
  match machine.tick.result, machine.tick.step? with
  | .ok record, some step => some ⟨step, record⟩
  | _, _ => none

/-- The next ticks succeed one after the other, and lead to another machine. -/
def Executes (machine : Machine) : List Executed → Machine → Prop
  | [], last => last = machine
  | executed :: rest, last =>
    machine.executed? = some executed ∧ machine.tick.machine.Executes rest last

theorem executes_append {machine last : Machine} {first second : List Executed} :
    machine.Executes (first ++ second) last ↔
      ∃ between, machine.Executes first between ∧ between.Executes second last := by
  induction first generalizing machine with
  | nil => exact ⟨fun rest => ⟨machine, rfl, rest⟩, fun ⟨_, same, rest⟩ => same ▸ rest⟩
  | cons executed first ih =>
    constructor
    · rintro ⟨ticked, rest⟩
      obtain ⟨between, isFirst, isSecond⟩ := ih.1 rest
      exact ⟨between, ⟨ticked, isFirst⟩, isSecond⟩
    · rintro ⟨between, ⟨ticked, isFirst⟩, isSecond⟩
      exact ⟨ticked, ih.2 ⟨between, isFirst, isSecond⟩⟩

theorem executed?_eq_some {machine : Machine} {executed : Executed}
    (ticked : machine.executed? = some executed) :
    ∃ thread entry after, machine.cleared.Ready thread entry executed.step ∧
      executed.step.run machine.cleared.frame = (.ok (), after) ∧
      machine.tick.machine = machine.cleared.accept executed.step after ∧
      executed.record = machine.cleared.record executed.step after := by
  unfold executed? at ticked
  split at ticked
  next record step isRecord isStep =>
    cases ticked
    obtain ⟨found, after, prepared, ran, accepted, rfl⟩ := tick_of_ok isRecord
    rw [tick_eq_of_succeeded prepared ran] at isStep
    cases isStep
    obtain ⟨thread, entry, ready⟩ := prepare_ready prepared
    exact ⟨thread, entry, after, ready, ran, accepted, rfl⟩
  · cases ticked

section Ticks

variable {machine : Machine} {executed : Executed} (ticked : machine.executed? = some executed)
include ticked

theorem thread_of_executed? : machine.schedule.current? = some executed.thread := by
  obtain ⟨thread, entry, after, ready, _, _, isRecord⟩ := executed?_eq_some ticked
  rw [Executed.thread, isRecord]
  exact ready.current

/-- Control stays where it is unless the instruction is one that may pass it. -/
theorem current_of_executed? (builtinOnly : machine.registry.BuiltinOnly)
    (stays : executed.opcode ∉ Builtin.passers.map Builtin.opcode) :
    machine.tick.machine.schedule.current? = machine.schedule.current? := by
  obtain ⟨thread, entry, after, ready, ran, accepted, isRecord⟩ := executed?_eq_some ticked
  obtain ⟨schedule, isSchedule, edits⟩ := machine.cleared.accept_edits executed.step after
  have ranCurrent : after.schedule.current? = machine.schedule.current? := by
    rcases ready.reach builtinOnly ran with ⟨_, rfl⟩ | ⟨builtin, isOpcode, _, reach⟩
    · rfl
    · have keeps : builtin.passesControl executed.step.site.config = false := by
        refine Bool.eq_false_iff.2 fun passes => stays ?_
        have sameOpcode : executed.opcode = builtin.opcode := by
          rw [Executed.opcode, isRecord]
          exact isOpcode.symm
        rw [sameOpcode]
        exact Builtin.opcode_mem_map.2 (Builtin.mem_passers_of_passesControl passes)
      have turn := reach.turn
      rw [keeps] at turn
      exact turn.current
  rw [accepted, isSchedule]
  exact edits.current.trans ranCurrent

/-- An instruction that is not about conditions leaves the block alone. -/
theorem conditions_of_executed? (builtinOnly : machine.registry.BuiltinOnly)
    (hasBuiltins : machine.registry.HasBuiltins)
    (notAbout : executed.opcode ∉ Builtin.conditionals.map Builtin.opcode) :
    machine.tick.machine.conditions = machine.conditions := by
  obtain ⟨thread, entry, after, ready, ran, accepted, isRecord⟩ := executed?_eq_some ticked
  rw [Executed.opcode, isRecord] at notAbout
  rw [accepted]
  exact (ready.keepsRest builtinOnly hasBuiltins ran).conditions notAbout

/-- Where all built-ins are known, an instruction with the opcode of one has its effect. -/
theorem effect_of_executed? (hasBuiltins : machine.registry.HasBuiltins) {builtin : Builtin}
    (isOpcode : executed.opcode = builtin.opcode) :
    ∃ after, Effect executed.step.site executed.step.args machine.cleared.frame builtin after ∧
      machine.tick.machine.conditions = after.conditions ∧
      executed.record.negated = executed.step.site.instruction.negated ∧
      executed.record.jumped = after.jumped := by
  obtain ⟨thread, entry, after, ready, ran, accepted, isRecord⟩ := executed?_eq_some ticked
  refine ⟨after, ?_, ?_, ?_, ?_⟩
  · refine ready.effect_of_opcode hasBuiltins ?_ ran
    rw [← isOpcode, Executed.opcode, isRecord]
    rfl
  · rw [accepted]
    rfl
  · rw [isRecord]
    rfl
  · rw [isRecord]
    rfl

/-- A block opens empty, with the size and the combination of its mode. -/
theorem conditions_of_opening (hasBuiltins : machine.registry.HasBuiltins)
    (opens : executed.opcode = Builtin.andor.opcode) :
    ∃ mode count combine, executed.step.args.int "mode" = .ok mode ∧
      Behaviour.blockShape? mode = some (count, combine) ∧
      machine.tick.machine.conditions = .filling combine [] count := by
  obtain ⟨after, effect, isAfter, _, _⟩ := effect_of_executed? ticked hasBuiltins opens
  cases effect with
  | @andor mode count combine _ given shape opened =>
    exact ⟨mode, count, combine, given, shape,
      isAfter.trans (Frame.openConditions_filling opened)⟩
  | setVariable kind _ _ _ => exact absurd kind (by decide)

/-- A comparison puts its answer behind the ones that the block has. -/
theorem conditions_of_comparison (hasBuiltins : machine.registry.HasBuiltins)
    (asks : executed.isComparison = true) {combine : Combine} {answers : List Bool} {missing : Nat}
    (isFilling : machine.conditions = .filling combine answers missing) :
    ∃ answer left, executed.answer? = some answer ∧ missing = left + 1 ∧
      machine.tick.machine.conditions = .filling combine (answers ++ [answer]) left := by
  obtain ⟨builtin, isComparison, isOpcode⟩ := List.mem_map.1 (of_decide_eq_true asks)
  obtain ⟨after, effect, isAfter, negated, _⟩ :=
    effect_of_executed? ticked hasBuiltins isOpcode.symm
  -- What is left to show once the comparison is known, whichever it is.
  have enters {holds : Bool} (compared : executed.comparison? = some holds)
      (pushed : machine.cleared.frame.pushCondition executed.step.site holds = (.ok (), after)) :
      ∃ answer left, executed.answer? = some answer ∧ missing = left + 1 ∧
        machine.tick.machine.conditions = .filling combine (answers ++ [answer]) left := by
    obtain ⟨left, isMissing, filled⟩ := Frame.pushCondition_filling pushed isFilling
    rw [← negated] at filled
    exact ⟨_, left, Executed.answer?_of_comparison? compared, isMissing, isAfter.trans filled⟩
  cases effect with
  | isIntVarGreaterThanNumber found number given pushed =>
    refine enters ?_ pushed
    simp [Executed.comparison?, found, number, given, ← isOpcode, bind, Except.bind]
  | isIntVarEqualToNumber found number given pushed =>
    have apart : Builtin.isIntVarEqualToNumber.opcode ≠
        Builtin.isIntVarGreaterThanNumber.opcode := by decide
    refine enters ?_ pushed
    simp [Executed.comparison?, found, number, given, ← isOpcode, apart, bind, Except.bind]
  | setVariable kind _ _ _ =>
    have apart : ∀ builtin ∈ Builtin.comparisons,
        builtin ∉ [.setVarInt, .setVarFloat, .setLocalInt, .setLocalFloat] := by decide
    exact absurd kind (apart builtin isComparison)
  | _ => exact absurd isComparison (by decide)

/-- The jump at the end of a block needs all answers, goes by them and closes the block. -/
theorem conditions_of_closing (hasBuiltins : machine.registry.HasBuiltins)
    (closes : executed.opcode = Builtin.gotoIfFalse.opcode) {combine : Combine}
    {answers : List Bool} {missing : Nat}
    (isFilling : machine.conditions = .filling combine answers missing) :
    missing = 0 ∧ executed.record.jumped = !combine.apply answers ∧
      machine.tick.machine.conditions = .closed := by
  obtain ⟨after, effect, isAfter, _, jumped⟩ := effect_of_executed? ticked hasBuiltins closes
  rw [isAfter, jumped]
  cases effect with
  | gotoIfFalse_true holds =>
    obtain ⟨complete, isValue, closed, stays⟩ := Frame.resolveConditions_filling holds isFilling
    rw [isValue]
    exact ⟨complete, stays, closed⟩
  | gotoIfFalse_false fails given left =>
    obtain ⟨complete, isValue, closed, _⟩ := Frame.resolveConditions_filling fails isFilling
    obtain ⟨address, _, set⟩ := Frame.jump_eq_ok.1 left
    obtain ⟨thread, _, rfl⟩ := Frame.setPc_eq_ok.1 set
    rw [isValue]
    exact ⟨complete, rfl, closed⟩
  | setVariable kind _ _ _ => exact absurd kind (by decide)

end Ticks

/-! ## 3. Whole blocks -/

namespace Executes

variable {machine last : Machine} {ticks : List Executed}

/-- Ticks that do not pass control are all of the thread that has control at first. -/
theorem sameThread (executes : machine.Executes ticks last)
    (builtinOnly : machine.registry.BuiltinOnly)
    (stay : ∀ executed ∈ ticks, executed.opcode ∉ Builtin.passers.map Builtin.opcode) :
    ∀ executed ∈ ticks, machine.schedule.current? = some executed.thread := by
  induction ticks generalizing machine with
  | nil => exact fun _ member => nomatch member
  | cons executed rest ih =>
    obtain ⟨ticked, others⟩ := executes
    have sameRegistry : machine.tick.machine.registry = machine.registry :=
      machine.tick_sameScript.registry
    rw [List.forall_mem_cons] at stay ⊢
    refine ⟨thread_of_executed? ticked, ?_⟩
    rw [← current_of_executed? ticked builtinOnly stay.1]
    exact ih others (sameRegistry ▸ builtinOnly) stay.2

theorem registry (executes : machine.Executes ticks last) : last.registry = machine.registry := by
  induction ticks generalizing machine with
  | nil => exact congrArg Machine.registry executes
  | cons executed rest ih => exact (ih executes.2).trans machine.tick_sameScript.registry

/-- Ticks that neither open a block nor jump by one fill the block that is open. Each comparison
puts its answer behind the others, and nothing else touches the block. -/
theorem fills (executes : machine.Executes ticks last)
    (builtinOnly : machine.registry.BuiltinOnly) (hasBuiltins : machine.registry.HasBuiltins)
    (inside : ∀ executed ∈ ticks,
      executed.opcode ∉ [Builtin.andor, .gotoIfFalse].map Builtin.opcode)
    {combine : Combine} {answers : List Bool} {missing : Nat}
    (isFilling : machine.conditions = .filling combine answers missing) :
    ∃ added left, (ticks.filter Executed.isComparison).map Executed.answer? = added.map some ∧
      missing = added.length + left ∧
      last.conditions = .filling combine (answers ++ added) left := by
  induction ticks generalizing machine answers missing with
  | nil =>
    have isLast : last = machine := executes
    refine ⟨[], missing, rfl, (Nat.zero_add missing).symm, ?_⟩
    rw [isLast, List.append_nil]
    exact isFilling
  | cons executed rest ih =>
    obtain ⟨ticked, others⟩ := executes
    rw [List.forall_mem_cons] at inside
    have sameRegistry : machine.tick.machine.registry = machine.registry :=
      machine.tick_sameScript.registry
    have onward := @ih machine.tick.machine others (sameRegistry ▸ builtinOnly)
      (sameRegistry ▸ hasBuiltins) inside.2
    cases asks : executed.isComparison with
    | true =>
      obtain ⟨answer, between, answered, isMissing, filled⟩ :=
        conditions_of_comparison ticked hasBuiltins asks isFilling
      obtain ⟨added, left, isAdded, isBetween, isLast⟩ := onward filled
      refine ⟨answer :: added, left, ?_, ?_, ?_⟩
      · rw [List.filter_cons_of_pos asks, List.map_cons, List.map_cons, answered, isAdded]
      · rw [isMissing, isBetween, List.length_cons]
        omega
      · rw [isLast, List.append_assoc, List.singleton_append]
    | false =>
      have notAbout : executed.opcode ∉ Builtin.conditionals.map Builtin.opcode := by
        intro about
        obtain ⟨builtin, isConditional, isOpcode⟩ := List.mem_map.1 about
        have either : ∀ builtin ∈ Builtin.conditionals,
            builtin ∈ Builtin.comparisons ∨ builtin ∈ [Builtin.andor, .gotoIfFalse] := by decide
        rw [← isOpcode] at inside
        rcases either builtin isConditional with isComparison | isEnd
        · refine of_decide_eq_false asks ?_
          rw [← isOpcode]
          exact Builtin.opcode_mem_map.2 isComparison
        · exact inside.1 (Builtin.opcode_mem_map.2 isEnd)
      rw [← conditions_of_executed? ticked builtinOnly hasBuiltins notAbout] at isFilling
      obtain ⟨added, left, isAdded, isMissing, isLast⟩ := onward isFilling
      refine ⟨added, left, ?_, isMissing, isLast⟩
      rw [List.filter_cons_of_neg (Bool.eq_false_iff.1 asks), isAdded]

end Executes

end Machine

/-- The built-ins that do not stand between the opening of a block and the jump that goes by it: those
that open a block or jump by one, and those that may pass control. -/
def Builtin.blockBounds : List Builtin := [.andor, .gotoIfFalse] ++ passers

/-- A block computes what it declares. Let one tick open a block, a later one jump by a block, and let
nothing between them open a block, jump by one or possibly pass control. Then all these ticks are of
one thread, exactly as many comparisons are made as the mode asks for, and the jump is made if not all
of their answers hold, or if none of them holds, as the mode says. No block is open afterwards. -/
theorem block_decides_jump {machine last : Machine} (builtinOnly : machine.registry.BuiltinOnly)
    (hasBuiltins : machine.registry.HasBuiltins) {opening closing : Executed}
    {between : List Executed} (executes : machine.Executes (opening :: between ++ [closing]) last)
    (opens : opening.opcode = Builtin.andor.opcode)
    (closes : closing.opcode = Builtin.gotoIfFalse.opcode)
    (inside : ∀ executed ∈ between,
      executed.opcode ∉ Builtin.blockBounds.map Builtin.opcode) :
    (∀ executed ∈ opening :: between ++ [closing], executed.thread = opening.thread) ∧
    (∃ (mode : Int32) (answers : List Bool), opening.step.args.int "mode" = .ok mode ∧
      (between.filter Executed.isComparison).map Executed.answer? = answers.map some ∧
      (0 ≤ mode.toInt ∧ mode.toInt ≤ 7 ∧ (answers.length : Int) = mode.toInt + 1 ∧
          (closing.record.jumped = true ↔ ¬ ∀ answer ∈ answers, answer = true) ∨
        21 ≤ mode.toInt ∧ mode.toInt ≤ 27 ∧ (answers.length : Int) = mode.toInt - 19 ∧
          (closing.record.jumped = true ↔ ¬ ∃ answer ∈ answers, answer = true))) ∧
    last.conditions = .closed := by
  have notEnd (executed) (member : executed ∈ between) :
      executed.opcode ∉ [Builtin.andor, .gotoIfFalse].map Builtin.opcode ∧
        executed.opcode ∉ Builtin.passers.map Builtin.opcode := by
    have bound := inside executed member
    rw [Builtin.blockBounds, List.map_append, List.mem_append] at bound
    exact not_or.1 bound
  have sameThread := executes.sameThread builtinOnly (by
    intro executed member
    rcases List.mem_append.1 member with first | isClosing
    · rcases List.mem_cons.1 first with rfl | member
      · rw [opens]
        decide
      · exact (notEnd executed member).2
    · rw [List.mem_singleton.1 isClosing, closes]
      decide)
  obtain ⟨before, ⟨openTicked, filling⟩, closeTicked, isLast⟩ :=
    Machine.executes_append.1 executes
  have isLast : last = before.tick.machine := isLast
  have opened : machine.tick.machine.registry = machine.registry :=
    machine.tick_sameScript.registry
  have filled : before.registry = machine.registry := filling.registry.trans opened
  obtain ⟨mode, count, combine, given, shape, isOpened⟩ :=
    Machine.conditions_of_opening openTicked hasBuiltins opens
  obtain ⟨answers, left, answered, isCount, isFilled⟩ :=
    filling.fills (opened ▸ builtinOnly) (opened ▸ hasBuiltins)
      (fun executed member => (notEnd executed member).1) isOpened
  obtain ⟨rfl, jumped, closed⟩ :=
    Machine.conditions_of_closing closeTicked (filled ▸ hasBuiltins) closes isFilled
  refine ⟨?_, ⟨mode, answers, given, answered, ?_⟩, isLast ▸ closed⟩
  · intro executed member
    have first := sameThread opening (List.mem_append_left _ List.mem_cons_self)
    exact Option.some.inj ((sameThread executed member).symm.trans first)
  · have isLength : answers.length = count := isCount.symm
    rw [jumped, isLength, List.nil_append]
    rcases Behaviour.blockShape?_eq_some shape with
      ⟨low, high, size, rfl⟩ | ⟨low, high, size, rfl⟩
    · refine Or.inl ⟨low, high, size, ?_⟩
      simp [Combine.apply]
    · refine Or.inr ⟨low, high, size, ?_⟩
      simp [Combine.apply]

/-! ## Two questions and a store between them -/

namespace ConditionBlocksExample

/-- Main code stores 5 in a slot and opens a block in which both answers must hold: that the slot is
more than 3, and that it is not 5. Between the two questions it stores to a global variable. The jump
goes back to the start of main code. -/
def script : Array UInt8 := #[
  0x02, 0x00, 0x01, 0x0C, 0x00, 0x00, 0x00, 0x6D,
  0x00, 0x00, 0x00, 0x00,
  0x02, 0x00, 0x01, 0x18, 0x00, 0x00, 0x00, 0x00,
  0x00, 0x00, 0x00, 0x00,
  0x02, 0x00, 0x01, 0x2C, 0x00, 0x00, 0x00, 0x00,
  0x00, 0x00, 0x00, 0x00, 0x00, 0x00, 0x00, 0x00, 0x00, 0x00, 0x00, 0x00,
  0x06, 0x00, 0x03, 0x00, 0x00, 0x04, 0x05,
  0xD6, 0x00, 0x04, 0x01,
  0x18, 0x00, 0x03, 0x00, 0x00, 0x04, 0x03,
  0x04, 0x00, 0x02, 0x08, 0x00, 0x04, 0x07,
  0x38, 0x80, 0x03, 0x00, 0x00, 0x04, 0x05,
  0x4D, 0x00, 0x04, 0x2C]

/-- The machine that is about to open the block. -/
def beforeBlock (loaded : Machine) : Machine := loaded.serveAll (List.replicate 4 .tick)

/-- What the next ticks carry out, if they all succeed. -/
def carryOut? : Nat → Machine → Option (List Executed)
  | 0, _ => some []
  | count + 1, machine =>
    machine.executed?.bind fun executed =>
      (carryOut? count machine.tick.machine).map (executed :: ·)

theorem executes_of_carryOut? {count : Nat} {machine : Machine} {ticks : List Executed}
    (carried : carryOut? count machine = some ticks) : ∃ last, machine.Executes ticks last := by
  induction count generalizing machine ticks with
  | zero =>
    cases carried
    exact ⟨machine, rfl⟩
  | succ count ih =>
    obtain ⟨executed, ticked, rest⟩ := Option.bind_eq_some_iff.1 carried
    obtain ⟨others, isOthers, rfl⟩ := Option.map_eq_some_iff.1 rest
    obtain ⟨last, executes⟩ := ih isOthers
    exact ⟨last, ticked, executes⟩

/-- What is seen of one tick: its opcode, its mode if it has one, and its answer if it is a
comparison. -/
def look (executed : Executed) : Opcode × Option Int32 × Option Bool :=
  (executed.opcode, (executed.step.args.int "mode").toOption, executed.answer?)

/-- The block is opened for two answers of which both must hold; the first holds, and the second, after
a store, does not. -/
abbrev Decides (loaded : Machine) : Prop :=
  ∃ ticks ∈ carryOut? 5 (beforeBlock loaded), ticks.map look =
    [(Builtin.andor.opcode, some 1, none),
      (Builtin.isIntVarGreaterThanNumber.opcode, none, some true),
      (Builtin.setVarInt.opcode, none, none),
      (Builtin.isIntVarEqualToNumber.opcode, none, some false),
      (Builtin.gotoIfFalse.opcode, none, none)]

end ConditionBlocksExample

open ConditionBlocksExample in
/-- The first answer holds and the second one does not, so the jump is made. -/
theorem block_with_store_decides_jump :
    ∃ registry loaded opening between closing last, Registry.builtin = .ok registry ∧
      Machine.load script registry {} = .ok loaded ∧
      (beforeBlock loaded).Executes (opening :: between ++ [closing]) last ∧
      opening.opcode = Builtin.andor.opcode ∧ closing.opcode = Builtin.gotoIfFalse.opcode ∧
      between.map Executed.opcode =
        [Builtin.isIntVarGreaterThanNumber, .setVarInt, .isIntVarEqualToNumber].map
          Builtin.opcode ∧
      (between.filter Executed.isComparison).map Executed.answer? = [some true, some false] ∧
      closing.record.jumped = true ∧ last.conditions = .closed := by
  obtain ⟨registry, loaded, built, load, ticks, carried, looks⟩ :=
    Machine.exists_loaded_of_evaluation Registry.builtin script {} Decides (by decide +kernel)
  obtain ⟨last, executes⟩ := executes_of_carryOut? carried
  obtain ⟨opening, _, rfl, isOpening, looks⟩ := List.map_eq_cons_iff.1 looks
  obtain ⟨greater, _, rfl, isGreater, looks⟩ := List.map_eq_cons_iff.1 looks
  obtain ⟨store, _, rfl, isStore, looks⟩ := List.map_eq_cons_iff.1 looks
  obtain ⟨equal, _, rfl, isEqual, looks⟩ := List.map_eq_cons_iff.1 looks
  obtain ⟨closing, _, rfl, isClosing, looks⟩ := List.map_eq_cons_iff.1 looks
  cases List.map_eq_nil_iff.1 looks
  simp only [look, Prod.mk.injEq, except_toOption_eq_some]
    at isOpening isGreater isStore isEqual isClosing
  have opcodes : [greater, store, equal].map Executed.opcode =
      [Builtin.isIntVarGreaterThanNumber, .setVarInt, .isIntVarEqualToNumber].map
        Builtin.opcode := by
    simp [isGreater.1, isStore.1, isEqual.1]
  have answered : ([greater, store, equal].filter Executed.isComparison).map Executed.answer? =
      [some true, some false] := by
    have asks : greater.isComparison = true := by
      rw [Executed.isComparison, isGreater.1]
      decide
    have stores : store.isComparison = false := by
      rw [Executed.isComparison, isStore.1]
      decide
    have asksAgain : equal.isComparison = true := by
      rw [Executed.isComparison, isEqual.1]
      decide
    simp [asks, stores, asksAgain, isGreater.2.2, isEqual.2.2]
  have isRegistry : (beforeBlock loaded).registry = registry :=
    Machine.serveAll_registry load (List.replicate 4 .tick)
  obtain ⟨_, ⟨mode, answers, given, isAnswers, decides⟩, closed⟩ :=
    block_decides_jump (isRegistry ▸ Registry.builtin_builtinOnly built)
      (isRegistry ▸ Registry.builtin_hasBuiltins built) executes isOpening.1 isClosing.1 (by
        have inside : ∀ opcode ∈ [greater, store, equal].map Executed.opcode,
            opcode ∉ Builtin.blockBounds.map Builtin.opcode := by
          rw [opcodes]
          decide
        exact fun executed member => inside _ (List.mem_map_of_mem member))
  refine ⟨registry, loaded, opening, [greater, store, equal], closing, last, built, load, executes,
    isOpening.1, isClosing.1, opcodes, answered, ?_, closed⟩
  cases isOpening.2.1.symm.trans given
  rcases decides with ⟨_, _, _, jumps⟩ | ⟨low, _⟩
  · refine jumps.2 fun allHold => ?_
    have isFalse : some false ∈ answers.map some := by
      rw [← isAnswers, answered]
      decide
    obtain ⟨answer, member, isAnswer⟩ := List.mem_map.1 isFalse
    cases isAnswer
    cases allHold false member
  · exact absurd low (by decide)

end MissionScript
