import MissionScript.Proofs.Changes

/-!
# What a built-in instruction reaches

An instruction runs for one thread. This module says how far it reaches beyond that thread, once for
all built-ins. To the schedule it makes one of four turns (`Schedule.Turn`): its thread goes on, it
adds a thread, it adds a thread and passes control, or it puts its thread to sleep and passes control.
Everything else that it does to threads is an edit of its own thread or of the one that it has just
added, and no edit concerns waking or the role of a thread (`Schedule.EditsOnly`). Bytes and cells
change only by a store to a global variable, and the condition block only by the instructions that
are about conditions (`Frame.Reach`).

Results:
1. `Schedule.Turn.others`: what a turn does to the other threads.
2. `Effect.reach`: what each built-in that succeeds reaches.
3. `Machine.Ready.reach`, `Machine.accept_edits`: the same for the instruction of a tick, and what is
   left to do after it.
-/

namespace MissionScript

/-! ## 1. Edits -/

/-- What stays the same in a thread all its life: its number, whether it is a mission and the base of
its negative targets. -/
def Thread.role (thread : Thread) : Nat × Bool × Option Nat :=
  (thread.id, thread.isMission, thread.base?)

namespace Schedule

/-- Only some threads have been edited, and the edits concern neither waking nor roles. -/
structure EditsOnly (touched : Nat → Prop) (before after : Schedule) : Prop where
  current : after.current? = before.current?
  time : after.time = before.time
  untouched : ∀ id, ¬ touched id → after.thread? id = before.thread? id
  roles : ∀ id, (after.thread? id).map Thread.role = (before.thread? id).map Thread.role
  wakes : ∀ id, (after.thread? id).map Thread.wake = (before.thread? id).map Thread.wake

namespace EditsOnly

variable {touched : Nat → Prop} {before between after : Schedule}

theorem refl (touched : Nat → Prop) (schedule : Schedule) : schedule.EditsOnly touched schedule :=
  ⟨rfl, rfl, fun _ _ => rfl, fun _ => rfl, fun _ => rfl⟩

theorem trans (first : before.EditsOnly touched between) (second : between.EditsOnly touched after) :
    before.EditsOnly touched after where
  current := second.current.trans first.current
  time := second.time.trans first.time
  untouched id apart := (second.untouched id apart).trans (first.untouched id apart)
  roles id := (second.roles id).trans (first.roles id)
  wakes id := (second.wakes id).trans (first.wakes id)

theorem mono {more : Nat → Prop} (edits : before.EditsOnly touched after)
    (within : ∀ id, touched id → more id) : before.EditsOnly more after :=
  { edits with untouched := fun id apart => edits.untouched id fun touches => apart (within id touches) }

theorem modify {id : Nat} {change : Thread → Thread}
    (role : ∀ thread, before.thread? id = some thread → (change thread).role = thread.role)
    (wake : ∀ thread, before.thread? id = some thread → (change thread).wake = thread.wake) :
    before.EditsOnly (· = id) (before.modify id change) where
  current := rfl
  time := rfl
  untouched other apart := by
    rw [thread?_modify]
    simp [Ne.symm apart]
  roles := map_thread?_modify Thread.role role
  wakes := map_thread?_modify Thread.wake wake

/-- An edit that replaces a thread keeps its role and when it wakes. -/
theorem replace {id : Nat} {thread edited : Thread} (found : before.thread? id = some thread)
    (role : edited.role = thread.role) (wake : edited.wake = thread.wake) :
    before.EditsOnly (· = id) (before.modify id fun _ => edited) := by
  refine modify ?_ ?_
  · intro other again
    cases found.symm.trans again
    exact role
  · intro other again
    cases found.symm.trans again
    exact wake

theorem length (edits : before.EditsOnly touched after) :
    after.threads.length = before.threads.length := by
  have sameWakes : after.threads.map Thread.wake = before.threads.map Thread.wake := by
    apply List.ext_getElem?
    intro id
    rw [List.getElem?_map, List.getElem?_map]
    exact edits.wakes id
  simpa using congrArg List.length sameWakes

end EditsOnly

end Schedule

/-! ## 2. Turns -/

/-- The thread sleeps, and longer than until the given time. -/
def Wake.After (time : Nat) : Wake → Prop
  | .awake => False
  | .at other => time < other
  | .never => True

theorem Wake.until_after {earlier time : Nat} (before : earlier < time) :
    (Wake.until time).After earlier := by
  unfold Wake.until
  split
  · exact before
  · trivial

theorem Wake.after_never (time : Nat) : (Wake.until endOfTime).After time := by
  unfold Wake.until
  rw [if_neg (Nat.lt_irrefl _)]
  trivial

namespace Schedule

/-- What an instruction makes of the schedule, apart from edits: whether it starts a thread, and
whether it passes control. A thread that is put to sleep does not wake before the present. -/
inductive Turn (site : Site) (before : Schedule) : Bool → Bool → Schedule → Prop where
  | stay {after : Schedule} (edits : before.EditsOnly (· = site.thread) after) :
      Turn site before false false after
  | start {thread : Thread} {after : Schedule} (id : thread.id = before.nextId)
      (awake : thread.wake = .awake) (fresh : thread.returns = [])
      (edits : EditsOnly (fun id => id = site.thread ∨ id = before.nextId)
        { before with threads := before.threads ++ [thread] } after) :
      Turn site before true false after
  | startAndPass {thread : Thread} {after : Schedule} (id : thread.id = before.nextId)
      (awake : thread.wake = .awake) (fresh : thread.returns = [])
      (edits : EditsOnly (fun id => id = site.thread ∨ id = before.nextId)
        (pass { before with threads := before.threads ++ [thread] }) after) :
      Turn site before true true after
  | sleep {time : Nat} {after : Schedule}
      (later : ∀ earlier < before.time, (Wake.until time).After earlier)
      (edits : (before.sleep site.thread time).pass.EditsOnly (· = site.thread) after) :
      Turn site before false true after

/-- A thread that does not have control is woken, or left alone, when control passes. -/
theorem thread?_pass_other {schedule : Schedule} {id : Nat} (other : schedule.current? ≠ some id) :
    schedule.pass.thread? id = (schedule.thread? id).map fun thread =>
      if schedule.pass.current? = some id then { thread with wake := .awake } else thread := by
  rw [thread?_pass, thread?_settle, current?_pass, Option.map_map]
  congr 1
  funext thread
  simp [other]

namespace Turn

variable {site : Site} {before between after : Schedule} {starts passes : Bool}

theorem time (turn : before.Turn site starts passes after) : after.time = before.time := by
  cases turn with
  | stay edits => exact edits.time
  | start _ _ _ edits => exact edits.time
  | startAndPass _ _ _ edits => exact edits.time.trans (time_pass _)
  | sleep _ edits => exact edits.time.trans (time_pass _)

/-- One thread is added by a turn that starts one, and none by any other. -/
theorem length (turn : before.Turn site starts passes after) :
    after.threads.length = before.threads.length + if starts then 1 else 0 := by
  cases turn with
  | stay edits => exact edits.length
  | start _ _ _ edits => exact edits.length.trans List.length_append
  | startAndPass _ _ _ edits =>
    exact (edits.length.trans (length_pass _)).trans List.length_append
  | sleep _ edits =>
    exact (edits.length.trans (length_pass _)).trans (List.length_modify _ _ _)

/-- Existing threads keep their roles. -/
theorem roles (turn : before.Turn site starts passes after) {id : Nat} {thread : Thread}
    (found : before.thread? id = some thread) :
    (after.thread? id).map Thread.role = some thread.role := by
  have old : id ≠ before.nextId := ne_nextId found
  have ignores : ∀ (thread : Thread) (wake : Wake), { thread with wake }.role = thread.role :=
    fun _ _ => rfl
  cases turn with
  | stay edits => rw [edits.roles, found, Option.map_some]
  | start _ _ _ edits => rw [edits.roles, thread?_append, if_neg old, found, Option.map_some]
  | startAndPass _ _ _ edits =>
    rw [edits.roles, map_thread?_pass _ ignores, thread?_append, if_neg old, found, Option.map_some]
  | sleep _ edits =>
    rw [edits.roles, map_thread?_pass _ ignores, Schedule.sleep, thread?_modify, found,
      Option.map_some, Option.map_some]
    split <;> rfl

/-- Whatever a thread does in its turn, another thread is at most woken by it, and then it is the one
that runs. -/
theorem others (turn : before.Turn site starts passes after)
    (running : before.current? = some site.thread) {id : Nat} (other : id ≠ site.thread)
    {thread : Thread} (found : before.thread? id = some thread) :
    after.thread? id =
      some (if after.current? = some id then { thread with wake := .awake } else thread) := by
  have notRunning : before.current? ≠ some id := by
    rw [running]
    exact fun same => other (Option.some.inj same).symm
  have old : id ≠ before.nextId := ne_nextId found
  have apart : ¬ (id = site.thread ∨ id = before.nextId) := not_or.2 ⟨other, old⟩
  cases turn with
  | stay edits => rw [edits.untouched id other, edits.current, if_neg notRunning, found]
  | start _ _ _ edits =>
    rw [edits.untouched id apart, edits.current, if_neg notRunning, thread?_append, if_neg old, found]
  | @startAndPass started _ _ _ _ edits =>
    have notCurrent : current? { before with threads := before.threads ++ [started] } ≠ some id :=
      notRunning
    rw [edits.untouched id apart, edits.current, thread?_pass_other notCurrent, thread?_append,
      if_neg old, found, Option.map_some]
  | @sleep time _ _ edits =>
    have notCurrent : (before.sleep site.thread time).current? ≠ some id := notRunning
    rw [edits.untouched id other, edits.current, thread?_pass_other notCurrent, Schedule.sleep,
      thread?_modify, found, Option.map_some, if_neg (Ne.symm other), Option.map_some]

/-- A turn stays the same turn when the thread that made it is edited. -/
theorem edit (turn : before.Turn site starts passes between)
    (edits : between.EditsOnly (· = site.thread) after) : before.Turn site starts passes after := by
  cases turn with
  | stay first => exact .stay (first.trans edits)
  | start id awake fresh first =>
    exact .start id awake fresh (first.trans (edits.mono fun _ => Or.inl))
  | startAndPass id awake fresh first =>
    exact .startAndPass id awake fresh (first.trans (edits.mono fun _ => Or.inl))
  | sleep later first => exact .sleep later (first.trans edits)

/-- It also stays the same when the thread that it has started is edited. -/
theorem editStarted (turn : before.Turn site true passes between)
    (edits : between.EditsOnly (· = before.nextId) after) : before.Turn site true passes after := by
  cases turn with
  | start id awake fresh first =>
    exact .start id awake fresh (first.trans (edits.mono fun _ => Or.inr))
  | startAndPass id awake fresh first =>
    exact .startAndPass id awake fresh (first.trans (edits.mono fun _ => Or.inr))

end Turn

end Schedule

/-! ## 3. Built-ins -/

namespace Builtin

/-- The built-ins that start a thread. -/
def starters : List Builtin := [.startNewScriptWithArgs, .startNewScript, .startMission]

/-- Whether the built-in makes its thread give up control. -/
def passesControl (config : Config) : Builtin → Bool
  | .wait | .terminateThisScript => true
  | .startNewScript | .startNewScriptWithArgs | .startMission => config.switchOnNewThread
  | _ => false

/-- The built-ins that store to a variable. -/
def stores : List Builtin :=
  [.setVarInt, .setVarFloat, .setLocalInt, .setLocalFloat, .addValToIntVar]

/-- The built-ins that open, fill or resolve a condition block. -/
def conditionals : List Builtin :=
  [.andor, .isIntVarGreaterThanNumber, .isIntVarEqualToNumber, .gotoIfFalse]

end Builtin

/-- What a built-in instruction that succeeds reaches, part by part. -/
structure Frame.Reach (site : Site) (args : Arguments) (builtin : Builtin) (before after : Frame) :
    Prop where
  turn : before.schedule.Turn site (builtin ∈ Builtin.starters) (builtin.passesControl site.config)
    after.schedule
  memory : after.memory = before.memory ∨ builtin ∈ Builtin.stores ∧
    ∃ address dataType data, args.place "var" = .ok (.global address) ∧
      data.length = cellWidth ∧ before.memory.allocate address dataType data = .ok after.memory
  conditions : after.conditions = before.conditions ∨ builtin ∈ Builtin.conditionals

namespace Frame

variable {site : Site} {args : Arguments} {before after : Frame}

theorem jump_edits {target : Int32} (success : before.jump site target = (.ok (), after)) :
    before.schedule.EditsOnly (· = site.thread) after.schedule ∧ after.memory = before.memory ∧
      after.conditions = before.conditions := by
  obtain ⟨address, _, set⟩ := jump_eq_ok.1 success
  obtain ⟨thread, found, rfl⟩ := setPc_eq_ok.1 set
  exact ⟨.replace found rfl rfl, rfl, rfl⟩

/-- Setting local variables of a thread edits that thread alone. -/
theorem setLocals_edits {id index : Nat} {values : List ArgValue}
    (success : (Behaviour.setLocals id index values).run site before = (.ok (), after)) :
    before.schedule.EditsOnly (· = id) after.schedule ∧ after.memory = before.memory ∧
      after.conditions = before.conditions := by
  induction values generalizing index before with
  | nil =>
    cases success
    exact ⟨.refl _ _, rfl, rfl⟩
  | cons value rest ih =>
    obtain ⟨_, between, set, remaining⟩ := Program.run_bind_eq_ok.1 success
    obtain ⟨thread, changed, found, isChanged, rfl⟩ := changeThread_eq_ok.1 set
    obtain ⟨_, _, rfl⟩ := Thread.setLocal_eq_ok isChanged
    obtain ⟨edits, memory, conditions⟩ := ih remaining
    refine ⟨.trans ?_ edits, memory, conditions⟩
    exact .replace found rfl rfl

/-- A thread is started, and control passes or stays as the configuration says. -/
theorem startThread_turn {pc id : Nat} {isMission : Bool}
    (success : before.startThread site pc isMission = (.ok id, after)) :
    before.schedule.Turn site true site.config.switchOnNewThread after.schedule ∧
      id = before.schedule.nextId ∧ after.memory = before.memory ∧
      after.conditions = before.conditions := by
  obtain ⟨starter, _, rfl, rfl⟩ := startThread_eq_ok.1 success
  obtain ⟨isNext, awake, fresh⟩ := before.startedThread_new starter pc isMission
  refine ⟨?_, rfl, rfl, rfl⟩
  cases site.config.switchOnNewThread with
  | true => exact .startAndPass isNext awake fresh (.refl _ _)
  | false => exact .start isNext awake fresh (.refl _ _)

/-- A store to a global variable makes a cell; a store to a slot edits the running thread. -/
theorem assign_reach {builtin : Builtin} (kind : builtin ∈ Builtin.stores) {place : Place}
    {value : Value} (found : args.place "var" = .ok place)
    (success : before.assign site place value = (.ok (), after)) :
    before.Reach site args builtin after := by
  have stays : builtin ∉ Builtin.starters ∧ builtin.passesControl site.config = false := by
    simp only [Builtin.stores, List.mem_cons, List.not_mem_nil, or_false] at kind
    rcases kind with rfl | rfl | rfl | rfl | rfl <;> exact ⟨by decide, rfl⟩
  cases place with
  | global address =>
    have stored : before.allocate site address value = (.ok (), after) := success
    unfold allocate at stored
    split at stored
    · cases stored
    · next dataType data storage =>
      split at stored
      · cases stored
      · next memory made =>
        cases stored
        refine ⟨?_, Or.inr ⟨kind, address, dataType, data, found, ?_, made⟩, Or.inl rfl⟩
        · rw [decide_eq_false stays.1, stays.2]
          exact .stay (.refl _ _)
        · exact Value.length_storage? storage
  | slot index =>
    obtain ⟨thread, changed, isThread, isChanged, rfl⟩ := changeThread_eq_ok.1 success
    obtain ⟨_, _, rfl⟩ := Thread.setLocal_eq_ok isChanged
    refine ⟨?_, Or.inl rfl, Or.inl rfl⟩
    rw [decide_eq_false stays.1, stays.2]
    exact .stay (.replace isThread rfl rfl)

end Frame

theorem Effect.reach {site : Site} {args : Arguments} {before after : Frame} {builtin : Builtin}
    (effect : Effect site args before builtin after) : before.Reach site args builtin after := by
  cases effect with
  | wait given =>
    refine ⟨.sleep (fun earlier past => Wake.until_after ?_) (.refl _ _), Or.inl rfl, Or.inl rfl⟩
    exact Nat.lt_of_lt_of_le past (Nat.le_add_right _ _)
  | terminateThisScript =>
    exact ⟨.sleep (fun _ _ => Wake.after_never _) (.refl _ _), Or.inl rfl, Or.inl rfl⟩
  | startNewScript given resolved started | startMission given found started =>
    obtain ⟨turn, _, memory, conditions⟩ := Frame.startThread_turn started
    exact ⟨turn, Or.inl memory, Or.inl conditions⟩
  | startNewScriptWithArgs given nonempty few number resolved start set =>
    obtain ⟨turn, rfl, memory, conditions⟩ := Frame.startThread_turn start
    obtain ⟨edits, sameMemory, sameConditions⟩ := Frame.setLocals_edits set
    exact ⟨turn.editStarted edits, Or.inl (sameMemory.trans memory),
      Or.inl (sameConditions.trans conditions)⟩
  | scriptName given renamed =>
    obtain ⟨thread, changed, found, isChanged, rfl⟩ := Frame.changeThread_eq_ok.1 renamed
    cases isChanged
    exact ⟨.stay (.replace found rfl rfl), Or.inl rfl, Or.inl rfl⟩
  | goto given jumped =>
    obtain ⟨edits, memory, conditions⟩ := Frame.jump_edits jumped
    exact ⟨.stay edits, Or.inl memory, Or.inl conditions⟩
  | gotoIfFalse_true holds =>
    obtain ⟨_, rfl⟩ := Prod.mk.inj holds
    exact ⟨.stay (.refl _ _), Or.inl rfl, Or.inr (by decide)⟩
  | gotoIfFalse_false fails given jumped =>
    obtain ⟨_, rfl⟩ := Prod.mk.inj fails
    obtain ⟨edits, memory, _⟩ := Frame.jump_edits jumped
    exact ⟨.stay edits, Or.inl memory, Or.inr (by decide)⟩
  | gosub given called =>
    obtain ⟨address, thread, _, found, _, rfl⟩ := Frame.call_eq_ok.1 called
    exact ⟨.stay (.replace found rfl rfl), Or.inl rfl, Or.inl rfl⟩
  | returnFromGosub returned =>
    obtain ⟨thread, address, found, _, rfl⟩ := Frame.ret_eq_ok.1 returned
    exact ⟨.stay (.replace found rfl rfl), Or.inl rfl, Or.inl rfl⟩
  | andor given shape opened =>
    unfold Frame.openConditions at opened
    split at opened
    · cases opened
    · cases opened
      exact ⟨.stay (.refl _ _), Or.inl rfl, Or.inr (by decide)⟩
  | isIntVarGreaterThanNumber found number given pushed
  | isIntVarEqualToNumber found number given pushed =>
    unfold Frame.pushCondition at pushed
    split at pushed
    · cases pushed
    · cases pushed
      exact ⟨.stay (.refl _ _), Or.inl rfl, Or.inr (by decide)⟩
  | setVariable kind found given assigned =>
    refine Frame.assign_reach ?_ found assigned
    revert builtin
    decide
  | addValToIntVar found held number given addendNumber assigned =>
    exact Frame.assign_reach (by decide) found assigned

/-! ## 4. Ticks -/

namespace Machine

/-- Going on with the next instruction is an edit of the running thread. -/
theorem accept_edits (machine : Machine) (step : Step) (after : Frame) :
    ∃ schedule, (machine.accept step after).schedule = schedule.advance ∧
      after.schedule.EditsOnly (· = step.site.thread) schedule := by
  refine ⟨_, rfl, ?_⟩
  split
  · exact .refl _ _
  · exact .modify (fun _ _ => rfl) fun _ _ => rfl

/-- Where only built-ins have a behaviour, an instruction that runs to its end is without one and has
done nothing, or it is a built-in and has reached what that built-in reaches. -/
theorem Ready.reach {machine : Machine} {thread : Thread} {entry : Entry Handler} {step : Step}
    {before after : Frame} (ready : machine.Ready thread entry step)
    (builtinOnly : machine.registry.BuiltinOnly) (success : step.run before = (.ok (), after)) :
    step.handler? = none ∧ after = before ∨
      ∃ builtin : Builtin, builtin.opcode = step.site.instruction.opcode ∧
        step.handler? = some builtin.handler ∧
        before.Reach step.site step.args builtin after := by
  refine (ready.effect builtinOnly success).imp_right ?_
  rintro ⟨builtin, isOpcode, bound, effect⟩
  exact ⟨builtin, isOpcode, bound, effect.reach⟩

end Machine

end MissionScript
