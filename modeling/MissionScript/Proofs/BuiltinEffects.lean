import MissionScript.Proofs.CallStacks
import MissionScript.Proofs.Registries
import MissionScript.Proofs.Runs
import MissionScript.Proofs.Schedules

/-!
# What built-in instructions do

A built-in instruction that succeeds has found its arguments and carried out its operations one
after the other. `Effect` lists, once for all built-ins, what this leaves: which arguments were
found, and how the frame after the instruction comes from the frame before it.
`Builtin.effect_of_run` reads this off a run, so that no later proof has to open a behaviour.

Before that, the operations on threads are inverted: `Frame.call_eq_ok` and its neighbours say when
an operation succeeds and what the frame is then.
-/

namespace MissionScript

/-! ## 1. Programs that succeed -/

namespace Program

variable {α β : Type} {site : Site} {frame after : Frame}

theorem run_bind_eq_ok {program : Program α} {next : α → Program β} {value : β} :
    (program >>= next).run site frame = (.ok value, after) ↔
      ∃ first between, program.run site frame = (.ok first, between) ∧
        (next first).run site between = (.ok value, after) := by
  have unfolded := run_bind site program next frame
  change (program.bind next).run site frame = (.ok value, after) ↔ _
  rw [unfolded]
  rcases program.run site frame with ⟨result, between⟩
  cases result with
  | error error =>
    constructor
    · intro impossible
      cases impossible
    · rintro ⟨first, other, impossible, _⟩
      cases impossible
  | ok first =>
    constructor
    · intro success
      exact ⟨first, between, rfl, success⟩
    · rintro ⟨other, later, same, success⟩
      cases same
      exact success

/-- A result that is known already changes nothing. -/
theorem run_lift_bind_eq_ok {result : Except Error α} {next : α → Program β} {value : β} :
    (lift result >>= next).run site frame = (.ok value, after) ↔
      ∃ first, result = .ok first ∧ (next first).run site frame = (.ok value, after) := by
  rw [run_bind_eq_ok]
  constructor
  · rintro ⟨first, _, lifted, success⟩
    cases lifted
    exact ⟨first, rfl, success⟩
  · rintro ⟨first, rfl, success⟩
    exact ⟨first, frame, rfl, success⟩

theorem run_ensure_eq_ok {condition : Bool} {message : String} :
    (ensure site condition message).run site frame = (.ok (), after) ↔
      condition = true ∧ frame = after := by
  unfold ensure
  cases condition with
  | false => simp [fail, run]
  | true => simp [pure, run]

/-- Looking for a target changes nothing either. -/
theorem run_resolveTarget_bind_eq_ok {target : Int32} {next : Nat → Program β} {value : β} :
    (resolveTarget target >>= next).run site frame = (.ok value, after) ↔
      ∃ address, frame.resolveTarget site target = .ok address ∧
        (next address).run site frame = (.ok value, after) :=
  run_lift_bind_eq_ok

end Program

/-! ## 2. Operations that succeed -/

namespace Frame

variable {site : Site} {frame after : Frame}

theorem changeThread_eq_ok {id : Nat} {change : Thread → Except Error Thread} :
    frame.changeThread id change = (.ok (), after) ↔
      ∃ thread changed, frame.schedule.thread? id = some thread ∧ change thread = .ok changed ∧
        after = { frame with schedule := frame.schedule.modify id fun _ => changed } := by
  unfold changeThread
  cases frame.schedule.thread? id with
  | none => simp
  | some thread =>
    cases outcome : change thread with
    | error error => simp [outcome]
    | ok changed =>
      simp only [outcome]
      constructor
      · intro success
        cases success
        exact ⟨thread, changed, rfl, outcome, rfl⟩
      · rintro ⟨_, _, same, again, rfl⟩
        cases same
        cases outcome.symm.trans again
        rfl

theorem setPc_eq_ok {address : Nat} :
    frame.setPc site address = (.ok (), after) ↔
      ∃ thread, frame.schedule.thread? site.thread = some thread ∧
        after = { frame with
          schedule := frame.schedule.modify site.thread fun _ => { thread with pc := address }
          jumped := true } := by
  unfold setPc changeThread
  cases frame.schedule.thread? site.thread with
  | none => simp
  | some thread =>
    constructor
    · intro success
      cases success
      exact ⟨thread, rfl, rfl⟩
    · rintro ⟨_, same, rfl⟩
      cases same
      rfl

/-- A target that was found lies in memory and, where jumps are validated and it lies in code, is the
start of an instruction. -/
theorem resolveTarget_lands {target : Int32} {address : Nat}
    (success : frame.resolveTarget site target = .ok address) :
    address < frame.memory.size ∧
      (site.config.validateJumps = true → site.layout.mainCode.start ≤ address →
        site.code.startsAt address = true) := by
  unfold resolveTarget at success
  simp only at success
  split at success
  · cases success
  · split at success
    · cases success
    · next inside =>
      split at success
      · cases success
      · next valid =>
        cases success
        refine ⟨Nat.lt_of_not_le inside, fun validates inCode => ?_⟩
        cases started : site.code.startsAt address with
        | true => rfl
        | false => exact absurd ⟨validates, inCode, started⟩ valid

theorem jump_eq_ok {target : Int32} :
    frame.jump site target = (.ok (), after) ↔
      ∃ address, frame.resolveTarget site target = .ok address ∧
        frame.setPc site address = (.ok (), after) := by
  unfold jump
  cases frame.resolveTarget site target <;> simp

/-- A call leaves the running thread at the target, with one more place to return to. -/
theorem call_eq_ok {target : Int32} :
    frame.call site target = (.ok (), after) ↔
      ∃ address thread, frame.resolveTarget site target = .ok address ∧
        frame.schedule.thread? site.thread = some thread ∧ thread.returns.length < callDepth ∧
        after = { frame with
          schedule := frame.schedule.modify site.thread fun _ =>
            { thread.called site.instruction.next with pc := address }
          jumped := true } := by
  unfold call changeThread
  simp only [Thread.pushReturn_eq]
  cases frame.resolveTarget site target with
  | error error => simp
  | ok address =>
    cases found : frame.schedule.thread? site.thread with
    | none => simp
    | some thread =>
      by_cases full : callDepth ≤ thread.returns.length
      · simp [full, Nat.not_lt_of_le full]
      · simp [full, setPc_eq_ok, Schedule.thread?_modify_self, found, Schedule.modify_modify,
          Function.comp_def, Nat.lt_of_not_le full]

/-- A return leaves the running thread where its innermost call came from. -/
theorem ret_eq_ok :
    frame.ret site = (.ok (), after) ↔
      ∃ thread address, frame.schedule.thread? site.thread = some thread ∧
        thread.returns = address :: thread.returned.returns ∧
        after = { frame with
          schedule := frame.schedule.modify site.thread fun _ =>
            { thread.returned with pc := address }
          jumped := true } := by
  unfold ret
  cases found : frame.schedule.thread? site.thread with
  | none => simp
  | some thread =>
    cases popped : thread.popReturn with
    | error error => simp [popped, (Thread.popReturn_eq_error_iff.1 popped).1]
    | ok result =>
      obtain ⟨returns, left⟩ := Thread.popReturn_eq_ok_iff.1 popped
      simp only [popped, left, setPc_eq_ok, Schedule.thread?_modify_self, found,
        Schedule.modify_modify, Function.comp_def, Option.map_some]
      constructor
      · rintro ⟨_, same, rfl⟩
        cases same
        exact ⟨thread, result.1, rfl, left ▸ returns, rfl⟩
      · rintro ⟨_, _, same, again, rfl⟩
        cases same
        cases (List.cons.inj (returns.symm.trans again)).1
        exact ⟨_, rfl, rfl⟩

/-- The thread that is added when a thread starts another. -/
def startedThread (frame : Frame) (starter : Thread) (pc : Nat) (isMission : Bool) : Thread :=
  let id := frame.schedule.nextId
  if isMission then .ofMission id pc frame.schedule.time
  else { Thread.ofStart id pc frame.schedule.time with base? := starter.base? }

/-- It has the next number, is awake and has not called anything. -/
theorem startedThread_new (frame : Frame) (starter : Thread) (pc : Nat) (isMission : Bool) :
    (frame.startedThread starter pc isMission).id = frame.schedule.nextId ∧
      (frame.startedThread starter pc isMission).wake = .awake ∧
      (frame.startedThread starter pc isMission).returns = [] := by
  cases isMission with
  | true => exact ⟨rfl, rfl, rfl⟩
  | false => exact ⟨rfl, rfl, rfl⟩

/-- The schedule with that thread at its end. -/
def grown (frame : Frame) (starter : Thread) (pc : Nat) (isMission : Bool) : Schedule :=
  { frame.schedule with
    threads := frame.schedule.threads ++ [frame.startedThread starter pc isMission] }

theorem startThread_eq_ok {pc id : Nat} {isMission : Bool} :
    frame.startThread site pc isMission = (.ok id, after) ↔
      ∃ starter, frame.schedule.thread? site.thread = some starter ∧
        id = frame.schedule.nextId ∧
        after = { frame with
          schedule :=
            if site.config.switchOnNewThread then (frame.grown starter pc isMission).pass
            else frame.grown starter pc isMission } := by
  unfold startThread
  cases frame.schedule.thread? site.thread with
  | none => simp
  | some starter =>
    have based : (if isMission then frame.schedule.spawn pc isMission
        else (frame.schedule.spawn pc isMission).modify frame.schedule.nextId fun thread =>
          { thread with base? := starter.base? }) = frame.grown starter pc isMission := by
      cases isMission with
      | true => rfl
      | false => exact frame.schedule.modify_append _ _
    simp only [based]
    constructor
    · intro success
      cases success
      exact ⟨starter, rfl, rfl, rfl⟩
    · rintro ⟨_, same, rfl, rfl⟩
      cases same
      rfl

end Frame

/-! ## 3. Built-ins that succeed -/

section Effects

variable (site : Site) (args : Arguments) (before : Frame)

/-- What a built-in instruction that succeeds has found and done: the frame after it, from the frame
before it. -/
inductive Effect : Builtin → Frame → Prop where
  | wait {time : Int32} (given : args.int "time" = .ok time) :
      Effect .wait
        (before.sleepUntil site (before.schedule.time + time.toInt.toNat))
  | terminateThisScript :
      Effect .terminateThisScript (before.sleepUntil site endOfTime)
  | startNewScript {label : Int32} {pc id : Nat} {after : Frame}
      (given : args.int "label" = .ok label) (resolved : before.resolveTarget site label = .ok pc)
      (started : before.startThread site pc false = (.ok id, after)) :
      Effect .startNewScript after
  /-- The new thread gets the values after the label in its local variables. -/
  | startNewScriptWithArgs {label : ArgValue} {values : List ArgValue} {target : Int32}
      {pc id : Nat} {started after : Frame} (given : args.variadic = label :: values)
      (nonempty : values ≠ []) (few : values.length ≤ localSlots)
      (number : Behaviour.intValue site label = .ok target)
      (resolved : before.resolveTarget site target = .ok pc)
      (start : before.startThread site pc false = (.ok id, started))
      (set : (Behaviour.setLocals id 0 values).run site started = (.ok (), after)) :
      Effect .startNewScriptWithArgs after
  | scriptName {name : String} {after : Frame} (given : args.text "name" = .ok name)
      (renamed : before.changeThread site.thread
        (fun thread => .ok { thread with name? := some name }) = (.ok (), after)) :
      Effect .scriptName after
  | startMission {mission : Int32} {pc id : Nat} {after : Frame}
      (given : args.int "mission" = .ok mission)
      (found : Behaviour.missionStart? site mission = some pc)
      (started : before.startThread site pc true = (.ok id, after)) :
      Effect .startMission after
  | goto {label : Int32} {after : Frame} (given : args.int "label" = .ok label)
      (jumped : before.jump site label = (.ok (), after)) :
      Effect .goto after
  | gotoIfFalse_true {resolved : Frame} (holds : before.resolveConditions = (.ok true, resolved)) :
      Effect .gotoIfFalse resolved
  | gotoIfFalse_false {label : Int32} {resolved after : Frame}
      (fails : before.resolveConditions = (.ok false, resolved))
      (given : args.int "label" = .ok label)
      (jumped : resolved.jump site label = (.ok (), after)) :
      Effect .gotoIfFalse after
  | gosub {label : Int32} {after : Frame} (given : args.int "label" = .ok label)
      (called : before.call site label = (.ok (), after)) :
      Effect .gosub after
  | returnFromGosub {after : Frame} (returned : before.ret site = (.ok (), after)) :
      Effect .returnFromGosub after
  | andor {mode : Int32} {count : Nat} {combine : Combine} {after : Frame}
      (given : args.int "mode" = .ok mode)
      (shape : Behaviour.blockShape? mode = some (count, combine))
      (opened : before.openConditions count combine = (.ok (), after)) :
      Effect .andor after
  | isIntVarGreaterThanNumber {operand : ArgValue} {current value : Int32} {after : Frame}
      (found : args.get "var" = .ok operand)
      (number : Behaviour.intValue site operand = .ok current)
      (given : args.int "value" = .ok value)
      (pushed : before.pushCondition site (value < current) = (.ok (), after)) :
      Effect .isIntVarGreaterThanNumber after
  | isIntVarEqualToNumber {operand : ArgValue} {current value : Int32} {after : Frame}
      (found : args.get "var" = .ok operand)
      (number : Behaviour.intValue site operand = .ok current)
      (given : args.int "value" = .ok value)
      (pushed : before.pushCondition site (current = value) = (.ok (), after)) :
      Effect .isIntVarEqualToNumber after
  | setVariable {builtin : Builtin}
      (kind : builtin ∈ [.setVarInt, .setVarFloat, .setLocalInt, .setLocalFloat])
      {place : Place} {value : ArgValue} {after : Frame} (found : args.place "var" = .ok place)
      (given : args.get "value" = .ok value)
      (assigned : before.assign site place value.value = (.ok (), after)) :
      Effect builtin after
  | addValToIntVar {place : Place} {operand addend : ArgValue} {current value : Int32}
      {after : Frame} (found : args.place "var" = .ok place)
      (held : args.get "var" = .ok operand)
      (number : Behaviour.intValue site operand = .ok current)
      (given : args.get "value" = .ok addend)
      (addendNumber : Behaviour.intValue site addend = .ok value)
      (assigned : before.assign site place (.int (current + value)) = (.ok (), after)) :
      Effect .addValToIntVar after

end Effects

namespace Builtin

open Program

/-- What a built-in instruction has done can be read off its run. -/
theorem effect_of_run {builtin : Builtin} {site : Site} {args : Arguments} {before after : Frame}
    (success : (builtin.handler site args).run site before = (.ok (), after)) :
    Effect site args before builtin after := by
  cases builtin with
  | wait =>
    obtain ⟨time, given, slept⟩ := run_lift_bind_eq_ok.1 success
    cases slept
    exact .wait given
  | terminateThisScript =>
    cases success
    exact .terminateThisScript
  | startNewScript =>
    obtain ⟨label, given, rest⟩ := run_lift_bind_eq_ok.1 success
    obtain ⟨pc, resolved, rest⟩ := run_resolveTarget_bind_eq_ok.1 rest
    obtain ⟨id, last, started, done⟩ := run_bind_eq_ok.1 rest
    cases done
    exact .startNewScript given resolved started
  | startNewScriptWithArgs =>
    unfold handler Behaviour.startNewScriptWithArgs at success
    rcases given : args.variadic with _ | ⟨label, _ | ⟨first, others⟩⟩ <;>
      simp only [given] at success
    -- A label without a value to hand over is refused, as is no label at all.
    · cases success
    · cases success
    · obtain ⟨_, between, ensured, rest⟩ := run_bind_eq_ok.1 success
      obtain ⟨few, rfl⟩ := run_ensure_eq_ok.1 ensured
      obtain ⟨target, number, rest⟩ := run_lift_bind_eq_ok.1 rest
      obtain ⟨pc, resolved, rest⟩ := run_resolveTarget_bind_eq_ok.1 rest
      obtain ⟨id, started, start, set⟩ := run_bind_eq_ok.1 rest
      exact .startNewScriptWithArgs given (List.cons_ne_nil _ _) (of_decide_eq_true few) number
        resolved start set
  | scriptName =>
    obtain ⟨name, given, renamed⟩ := run_lift_bind_eq_ok.1 success
    exact .scriptName given renamed
  | startMission =>
    obtain ⟨mission, given, rest⟩ := run_lift_bind_eq_ok.1 success
    split at rest
    · cases rest
    · next start found =>
      obtain ⟨id, last, started, done⟩ := run_bind_eq_ok.1 rest
      cases done
      exact .startMission given found started
  | goto =>
    obtain ⟨label, given, jumped⟩ := run_lift_bind_eq_ok.1 success
    exact .goto given jumped
  | gotoIfFalse =>
    obtain ⟨holds, resolved, outcome, rest⟩ := run_bind_eq_ok.1 success
    cases holds with
    | true =>
      cases rest
      exact .gotoIfFalse_true outcome
    | false =>
      obtain ⟨label, given, jumped⟩ := run_lift_bind_eq_ok.1 rest
      exact .gotoIfFalse_false outcome given jumped
  | gosub =>
    obtain ⟨label, given, called⟩ := run_lift_bind_eq_ok.1 success
    exact .gosub given called
  | returnFromGosub => exact .returnFromGosub success
  | andor =>
    obtain ⟨mode, given, rest⟩ := run_lift_bind_eq_ok.1 success
    split at rest
    · cases rest
    · next count combine shape => exact .andor given shape rest
  | isIntVarGreaterThanNumber =>
    obtain ⟨operand, found, rest⟩ := run_lift_bind_eq_ok.1 success
    obtain ⟨current, number, rest⟩ := run_lift_bind_eq_ok.1 rest
    obtain ⟨value, given, pushed⟩ := run_lift_bind_eq_ok.1 rest
    exact .isIntVarGreaterThanNumber found number given pushed
  | isIntVarEqualToNumber =>
    obtain ⟨operand, found, rest⟩ := run_lift_bind_eq_ok.1 success
    obtain ⟨current, number, rest⟩ := run_lift_bind_eq_ok.1 rest
    obtain ⟨value, given, pushed⟩ := run_lift_bind_eq_ok.1 rest
    exact .isIntVarEqualToNumber found number given pushed
  | setVarInt | setVarFloat | setLocalInt | setLocalFloat =>
    obtain ⟨place, found, rest⟩ := run_lift_bind_eq_ok.1 success
    obtain ⟨value, given, assigned⟩ := run_lift_bind_eq_ok.1 rest
    exact .setVariable (by decide) found given assigned
  | addValToIntVar =>
    obtain ⟨place, found, rest⟩ := run_lift_bind_eq_ok.1 success
    obtain ⟨operand, held, rest⟩ := run_lift_bind_eq_ok.1 rest
    obtain ⟨current, number, rest⟩ := run_lift_bind_eq_ok.1 rest
    obtain ⟨addend, given, rest⟩ := run_lift_bind_eq_ok.1 rest
    obtain ⟨value, addendNumber, assigned⟩ := run_lift_bind_eq_ok.1 rest
    exact .addValToIntVar found held number given addendNumber assigned

end Builtin

/-! ## 4. Registries of built-ins -/

namespace Registry

/-- Only built-in instructions have a behaviour, and each has its own. -/
def BuiltinOnly (registry : Registry Handler) : Prop :=
  ∀ opcode entry handler, registry.entry? opcode = some entry → entry.handler? = some handler →
    ∃ builtin : Builtin, builtin.opcode = opcode ∧ handler = builtin.handler

/-- Moreover, what has a behaviour takes the parameters that go with it. -/
def Standard (registry : Registry Handler) : Prop :=
  ∀ opcode entry handler, registry.entry? opcode = some entry → entry.handler? = some handler →
    ∃ builtin : Builtin, builtin.opcode = opcode ∧ handler = builtin.handler ∧
      entry.definition.params = builtin.params

theorem Standard.builtinOnly {registry : Registry Handler} (standard : registry.Standard) :
    registry.BuiltinOnly := by
  intro opcode entry handler found bound
  obtain ⟨builtin, isOpcode, isHandler, _⟩ := standard opcode entry handler found bound
  exact ⟨builtin, isOpcode, isHandler⟩

namespace Draft

/-- Every binding of the draft is that of a built-in instruction. -/
def BuiltinOnly (draft : Draft Handler) : Prop :=
  ∀ binding ∈ draft.bindings.values, ∃ builtin : Builtin, binding = builtin.binding

theorem BuiltinOnly.bindAll {draft bound : Draft Handler} (builtinOnly : draft.BuiltinOnly)
    (success : draft.bindAll Builtin.bindings = .ok bound) : bound.BuiltinOnly := by
  refine foldlM_invariant BuiltinOnly builtinOnly ?_ success
  intro binding isBuiltin draft next builtinOnly added
  unfold Draft.bind at added
  split at added
  · cases added
  · cases added
    intro other member
    rcases Table.mem_values_insert member with rfl | old
    · obtain ⟨builtin, _, rfl⟩ := List.mem_map.1 isBuiltin
      exact ⟨builtin, rfl⟩
    · exact builtinOnly other old

/-- With whatever names and records: if only built-ins are bound, only built-ins have a behaviour, and
they keep their parameters. -/
theorem BuiltinOnly.build_standard {draft : Draft Handler} (builtinOnly : draft.BuiltinOnly)
    {registry : Registry Handler} (built : draft.build = .ok registry) : registry.Standard := by
  have every : registry.entries.Every fun key entry => ∀ handler, entry.handler? = some handler →
      ∃ builtin : Builtin, builtin.opcode.key = key ∧ handler = builtin.handler ∧
        entry.definition.params = builtin.params := by
    refine build_every (fun record handler unbound => by cases unbound) ?_ built
    intro binding member _ entry isEntry handler isHandler
    obtain ⟨builtin, rfl⟩ := builtinOnly binding member
    obtain ⟨_, params, bound⟩ := Binding.entryBeside_eq_ok isEntry
    rw [bound] at isHandler
    exact ⟨builtin, rfl, (Option.some.inj isHandler).symm, params⟩
  intro opcode entry handler found isHandler
  obtain ⟨builtin, sameKey, isBuiltin, params⟩ := every opcode.key entry found handler isHandler
  exact ⟨builtin, Opcode.key_injective sameKey, isBuiltin, params⟩

end Draft

/-- All built-in instructions are known, with their own parameters and behaviours. -/
def HasBuiltins (registry : Registry Handler) : Prop :=
  ∀ builtin : Builtin, ∃ entry, registry.entry? builtin.opcode = some entry ∧
    entry.definition.opcode = builtin.opcode ∧ entry.definition.params = builtin.params ∧
    entry.handler? = some builtin.handler

/-- A registry has the built-ins when they were bound, whatever else its draft holds. -/
theorem Draft.bindAll_hasBuiltins {draft bound : Draft Handler} (keyed : draft.Keyed)
    (success : draft.bindAll Builtin.bindings = .ok bound) {registry : Registry Handler}
    (built : bound.build = .ok registry) : registry.HasBuiltins := by
  intro builtin
  have member : builtin ∈ Builtin.all := by cases builtin <;> decide
  have isBound : bound.Binds builtin.binding :=
    (bindAll_get? success).2 (Or.inl ⟨List.mem_map_of_mem member, rfl⟩)
  obtain ⟨entry, isEntry, found⟩ := isBound.build_entry? (keyed.bindAll success) built
  exact ⟨entry, found, Binding.entryBeside_eq_ok isEntry⟩

theorem builtin_hasBuiltins {registry : Registry Handler}
    (built : Registry.builtin = .ok registry) : registry.HasBuiltins := by
  obtain ⟨draft, bound, made⟩ := except_bind_eq_ok.1 built
  exact Draft.bindAll_hasBuiltins Draft.keyed_empty bound made

theorem builtin_standard {registry : Registry Handler} (built : Registry.builtin = .ok registry) :
    registry.Standard := by
  obtain ⟨draft, bound, made⟩ := except_bind_eq_ok.1 built
  have none : (Draft.empty : Draft Handler).BuiltinOnly := by
    intro binding member
    cases member
  exact (none.bindAll bound).build_standard made

theorem builtin_builtinOnly {registry : Registry Handler} (built : Registry.builtin = .ok registry) :
    registry.BuiltinOnly :=
  (builtin_standard built).builtinOnly

end Registry

namespace Machine.Ready

variable {machine : Machine} {thread : Thread} {entry : Entry Handler} {step : Step}
  {before after : Frame}

/-- Where only built-ins have a behaviour, an instruction that runs to its end is without one and has
done nothing, or it is a built-in and has had its effect. -/
theorem effect (ready : machine.Ready thread entry step)
    (builtinOnly : machine.registry.BuiltinOnly) (success : step.run before = (.ok (), after)) :
    step.handler? = none ∧ after = before ∨
      ∃ builtin : Builtin, builtin.opcode = step.site.instruction.opcode ∧
        step.handler? = some builtin.handler ∧
        Effect step.site step.args before builtin after := by
  unfold Step.run at success
  cases bound : step.handler? with
  | none =>
    rw [bound] at success
    cases success
    exact Or.inl ⟨rfl, rfl⟩
  | some handler =>
    rw [bound] at success
    obtain ⟨builtin, isOpcode, rfl⟩ :=
      builtinOnly _ entry handler ready.known (ready.handler.symm.trans bound)
    exact Or.inr ⟨builtin, isOpcode, rfl, Builtin.effect_of_run success⟩

/-- Where all built-ins are known, the opcode of one brings its parameters and its behaviour. -/
theorem known_of_opcode (ready : machine.Ready thread entry step)
    (hasBuiltins : machine.registry.HasBuiltins) {builtin : Builtin}
    (isOpcode : builtin.opcode = step.site.instruction.opcode) :
    entry.definition.params = builtin.params ∧ step.handler? = some builtin.handler := by
  obtain ⟨found, isFound, _, params, handler⟩ := hasBuiltins builtin
  rw [isOpcode] at isFound
  cases ready.known.symm.trans isFound
  exact ⟨params, ready.handler.trans handler⟩

/-- An instruction with the opcode of a built-in runs as that built-in. -/
theorem run_of_opcode (ready : machine.Ready thread entry step)
    (hasBuiltins : machine.registry.HasBuiltins) {builtin : Builtin}
    (isOpcode : builtin.opcode = step.site.instruction.opcode) (frame : Frame) :
    step.run frame = (builtin.handler step.site step.args).run step.site frame := by
  rw [Step.run, (ready.known_of_opcode hasBuiltins isOpcode).2]

/-- An instruction with the opcode of a built-in that runs to its end has had its effect. -/
theorem effect_of_opcode (ready : machine.Ready thread entry step)
    (hasBuiltins : machine.registry.HasBuiltins) {builtin : Builtin}
    (isOpcode : builtin.opcode = step.site.instruction.opcode)
    (success : step.run before = (.ok (), after)) :
    Effect step.site step.args before builtin after := by
  rw [ready.run_of_opcode hasBuiltins isOpcode] at success
  exact Builtin.effect_of_run success

end Machine.Ready

end MissionScript
