import MissionScript.Proofs.JumpGraph
import MissionScript.Proofs.LocalVariables
import MissionScript.Proofs.Turns

/-!
# Threads that are started with arguments

A thread can be handed values at its start. The instruction for this takes a label and, behind it, at
least one value and at most as many as a thread has local variables. Its arguments are resolved before
anything happens, so the values are those that the starter sees: its own local variables, its own timers
at that time. They fill the local variables of the new thread from the first on.

Starting a thread may pass control to it, and the values are set after that. They reach the new thread by
its number and not because it runs, so the starter's variables are safe either way.

Results:
1. `Machine.Ready.resolveTarget_eq_ok_iff`: which address a target of the running instruction stands for.
2. `Frame.setLocals_fills`: setting local variables one after the other succeeds while there is room.
3. `start_fills_new_thread`: the instruction is refused and starts nothing, or it starts one thread that
   has the values.
-/

namespace MissionScript

/-! ## 1. Targets -/

/-- The number that a value stands for as a target. A floating point number loses its fraction; text
stands for no target. -/
def Value.target? : Value → Option Int32
  | .int value => some value
  | .float value => some value.toInt32
  | .text _ => none

/-- Only text stands for no target. -/
theorem Value.text_of_target? {value : Value} (missing : value.target? = none) :
    ∃ string, value = .text string := by
  cases value with
  | int value => cases missing
  | float value => cases missing
  | text string => exact ⟨string, rfl⟩

theorem Behaviour.intValue_eq_ok_iff {site : Site} {argument : ArgValue} {target : Int32} :
    Behaviour.intValue site argument = .ok target ↔ argument.value.target? = some target := by
  unfold Behaviour.intValue Value.target?
  cases argument.value with
  | int value => simp
  | float value => simp
  | text value => simp

namespace Machine

/-- A target of `starter` stands for the address: counted from the start of the script or, if it is
negative, from the base of the thread. The address lies in memory; if it lies in code and jumps are
validated, an instruction starts there. -/
structure LandsAt (machine : Machine) (starter : Thread) (target : Int32) (address : Nat) : Prop where
  place : if 0 ≤ target.toInt then target.toInt.toNat = address
    else ∃ base, starter.base? = some base ∧ base + target.toInt.natAbs = address
  inside : address < machine.memory.size
  valid : machine.config.validateJumps = true → machine.layout.mainCode.start ≤ address →
    machine.code.startsAt address = true

theorem Ready.resolveTarget_eq_ok_iff {machine : Machine} {starter : Thread} {entry : Entry Handler}
    {step : Step} (ready : machine.cleared.Ready starter entry step) {target : Int32} {address : Nat} :
    machine.cleared.frame.resolveTarget step.site target = .ok address ↔
      machine.LandsAt starter target address := by
  have found : machine.cleared.frame.schedule.thread? step.site.thread = some starter := ready.found
  -- The checks are the same on both ways to the address.
  have checked : ∀ (place : Nat) (invalid : Error),
      (if machine.cleared.frame.memory.size ≤ place then Except.error invalid
        else if step.site.config.validateJumps ∧ step.site.layout.mainCode.start ≤ place ∧
          step.site.code.startsAt place = false then .error invalid
        else .ok place) = .ok address ↔
      place = address ∧ address < machine.memory.size ∧
        (machine.config.validateJumps = true → machine.layout.mainCode.start ≤ address →
          machine.code.startsAt address = true) := by
    intro place invalid
    have sameSize : machine.cleared.frame.memory.size = machine.memory.size := rfl
    have sameConfig : step.site.config = machine.config := ready.config
    have sameLayout : step.site.layout = machine.layout := ready.layout
    have sameCode : step.site.code = machine.code := ready.code
    rw [sameSize, sameConfig, sameLayout, sameCode]
    grind
  unfold Frame.resolveTarget
  simp only [found]
  by_cases nonneg : 0 ≤ target.toInt
  · simp only [if_pos nonneg, checked]
    constructor
    · rintro ⟨place, inside, valid⟩
      exact ⟨(if_pos nonneg).mpr place, inside, valid⟩
    · rintro ⟨place, inside, valid⟩
      exact ⟨(if_pos nonneg).mp place, inside, valid⟩
  · cases based : starter.base? with
    | none =>
      simp only [if_neg nonneg]
      constructor
      · intro success
        cases success
      · rintro ⟨place, _, _⟩
        obtain ⟨base, isBase, _⟩ := (if_neg nonneg).mp place
        cases based.symm.trans isBase
    | some base =>
      simp only [if_neg nonneg, checked]
      constructor
      · rintro ⟨place, inside, valid⟩
        exact ⟨(if_neg nonneg).mpr ⟨base, based, place⟩, inside, valid⟩
      · rintro ⟨place, inside, valid⟩
        obtain ⟨other, isOther, place⟩ := (if_neg nonneg).mp place
        cases based.symm.trans isOther
        exact ⟨place, inside, valid⟩

end Machine

/-! ## 2. Arguments -/

namespace Arguments

variable {source other : Source}

theorem resolveEach_congr (sameOne : resolveOne source = resolveOne other) (constraint : Constraint)
    (index : Nat) (args : List Argument) :
    resolveEach source constraint index args = resolveEach other constraint index args := by
  induction args generalizing index with
  | nil => rfl
  | cons argument rest ih => simp only [resolveEach, sameOne, ih]

theorem resolveParams_congr (sameOne : resolveOne source = resolveOne other)
    (sameOpcode : source.opcode = other.opcode) (params : List Param) (index : Nat)
    (args : List Argument) :
    resolveParams source params index args = resolveParams other params index args := by
  induction params generalizing index args with
  | nil => rfl
  | cons param params ih =>
    simp only [resolveParams, sameOne, sameOpcode, resolveEach_congr sameOne, ih]

/-- Which spans of memory are dirty does not matter to arguments. -/
theorem resolve_clearDirty (definition : Definition) (instruction : Instruction) (memory : Memory)
    (thread : Thread) (now : Nat) :
    resolve definition instruction memory.clearDirty thread now =
      resolve definition instruction memory thread now := by
  have sameOne : resolveOne ⟨definition.opcode, memory.clearDirty, thread, now⟩ =
      resolveOne ⟨definition.opcode, memory, thread, now⟩ := rfl
  unfold resolve
  rw [resolveParams_congr sameOne rfl]

end Arguments

/-! ## 3. Handing over values -/

/-- A thread as it is after it was started with values. -/
structure Thread.StartedWith (thread starter : Thread) (id pc now : Nat) (values : List Value) :
    Prop where
  id : thread.id = id
  pc : thread.pc = pc
  base : thread.base? = starter.base?
  returns : thread.returns = []
  locals : ∀ slot, thread.locals.get? slot = values[slot]?
  timers : thread.timers = Vector.replicate timerSlots (signed64 now)

/-- One thread has been started with values, under the next number, and the threads that were there have
kept their local variables and timers. -/
structure Schedule.StartsWith (before : Schedule) (starter : Thread) (pc : Nat) (values : List Value)
    (after : Schedule) : Prop where
  count : after.threads.length = before.threads.length + 1
  started : ∃ thread, after.thread? before.nextId = some thread ∧
    thread.StartedWith starter before.nextId pc before.time values
  kept : ∀ id thread, before.thread? id = some thread →
    ∃ later, after.thread? id = some later ∧ later.locals = thread.locals ∧
      later.timers = thread.timers

namespace Frame

variable {site : Site} {before after : Frame}

/-- As long as there is room, each of the values gets its local variable; variables in front of them and
behind them stay as they are. -/
theorem setLocals_fills (site : Site) {id index : Nat} {values : List ArgValue} {thread : Thread}
    (found : before.schedule.thread? id = some thread)
    (room : index + values.length ≤ localSlots) :
    ∃ after locals, (Behaviour.setLocals id index values).run site before = (.ok (), after) ∧
      after.schedule.thread? id = some { thread with locals } ∧
      ∀ slot, locals.get? slot =
        if slot < index then thread.locals.get? slot
        else (values[slot - index]?.map ArgValue.value).or (thread.locals.get? slot) := by
  induction values generalizing index before thread with
  | nil => exact ⟨before, thread.locals, rfl, found, fun slot => by simp⟩
  | cons argument rest ih =>
    rw [List.length_cons] at room
    have isVariable : index < localSlots := by omega
    let changed : Thread := { thread with locals := thread.locals.insert index argument.value }
    let between : Frame :=
      { before with schedule := before.schedule.modify id fun _ => changed }
    have set : (Program.setThreadLocal id index argument.value).run site before =
        (.ok (), between) :=
      changeThread_eq_ok.2 ⟨thread, changed, found, Thread.setLocal_of_lt isVariable, rfl⟩
    have foundChanged : between.schedule.thread? id = some changed := by
      rw [Schedule.thread?_modify_self, found]
      rfl
    have roomForRest : index + 1 + rest.length ≤ localSlots := by omega
    obtain ⟨after, locals, remaining, isAfter, filled⟩ := ih foundChanged roomForRest
    refine ⟨after, locals, Program.run_bind_eq_ok.2 ⟨(), between, set, remaining⟩, isAfter, ?_⟩
    intro slot
    rw [filled slot, Table.get?_insert]
    rcases Nat.lt_trichotomy slot index with below | rfl | above
    · rw [if_pos (Nat.lt_succ_of_lt below), if_pos below, if_neg (Nat.ne_of_gt below)]
    · simp
    · obtain ⟨offset, rfl⟩ := Nat.exists_eq_add_of_lt above
      have behind : ¬ index + offset + 1 < index + 1 := by omega
      have position : index + offset + 1 - index = offset + 1 := by omega
      have positionRest : index + offset + 1 - (index + 1) = offset := by omega
      rw [if_neg behind, if_neg (Nat.not_lt_of_lt above), if_neg (Nat.ne_of_lt above), position,
        positionRest, List.getElem?_cons_succ]

/-- What can be seen of the other threads, apart from waking, is as it was before a thread was
started. -/
theorem startThread_view_of_old {α : Type} (view : Thread → α)
    (ignores : ∀ thread wake, view { thread with wake } = view thread) {pc id : Nat}
    {isMission : Bool} (success : before.startThread site pc isMission = (.ok id, after)) {old : Nat}
    (isOld : old ≠ before.schedule.nextId) :
    (after.schedule.thread? old).map view = (before.schedule.thread? old).map view := by
  obtain ⟨starter, _, _, rfl⟩ := startThread_eq_ok.1 success
  have grown : (before.grown starter pc isMission).thread? old = before.schedule.thread? old :=
    (Schedule.thread?_append _ _ _).trans (if_neg isOld)
  simp only
  split
  · rw [Schedule.map_thread?_pass view ignores, grown]
  · rw [grown]

/-- A started thread, before it is given values. -/
theorem startThread_started {pc id : Nat} {starter : Thread}
    (running : before.schedule.thread? site.thread = some starter)
    (success : before.startThread site pc false = (.ok id, after)) :
    ∃ thread, after.schedule.thread? before.schedule.nextId = some thread ∧
      thread.StartedWith starter before.schedule.nextId pc before.schedule.time [] := by
  obtain ⟨found, isFound, seen⟩ :=
    startThread_view (fun thread => { thread with wake := .awake }) (fun _ _ => rfl) success
  cases running.symm.trans isFound
  obtain ⟨thread, isThread, same⟩ := Option.map_eq_some_iff.1 seen
  obtain ⟨sameId, samePc, sameLocals, sameTimers, _, sameDepth, _, _, sameBase, _⟩ :=
    Thread.mk.inj same
  refine ⟨thread, isThread, sameId, samePc, sameBase, Thread.depth_eq_zero_iff.1 sameDepth,
    fun slot => ?_, sameTimers⟩
  rw [sameLocals]
  rfl

/-- A thread is started at an address and then given values: both succeed, whether or not the new thread
has control in between. -/
theorem start_then_setLocals {pc : Nat} {starter : Thread} {values : List ArgValue}
    (running : before.schedule.thread? site.thread = some starter)
    (few : values.length ≤ localSlots) :
    ∃ after, (Program.startThread pc false >>= fun id => Behaviour.setLocals id 0 values).run site
        before = (.ok (), after) ∧
      before.schedule.StartsWith starter pc (values.map ArgValue.value) after.schedule := by
  obtain ⟨id, started, start⟩ : ∃ id started, before.startThread site pc false = (.ok id, started) :=
    ⟨_, _, startThread_eq_ok.2 ⟨starter, running, rfl, rfl⟩⟩
  obtain ⟨turn, rfl, _, _⟩ := startThread_turn start
  obtain ⟨thread, isThread, new⟩ := startThread_started running start
  obtain ⟨after, locals, set, isAfter, filled⟩ :=
    setLocals_fills site isThread (by rwa [Nat.zero_add])
  obtain ⟨edits, _, _⟩ := setLocals_edits set
  refine ⟨after, Program.run_bind_eq_ok.2 ⟨_, started, start, set⟩, ?_, ?_, ?_⟩
  · exact edits.length.trans turn.length
  · refine ⟨_, isAfter, new.id, new.pc, new.base, new.returns, fun slot => ?_, new.timers⟩
    rw [filled slot, new.locals slot]
    simp
  · intro old thread found
    have isOld := Schedule.ne_nextId found
    have seen := startThread_view_of_old (fun thread => (thread.locals, thread.timers))
      (fun _ _ => rfl) start isOld
    rw [← edits.untouched old isOld, found] at seen
    obtain ⟨later, isLater, same⟩ := Option.map_eq_some_iff.1 seen
    exact ⟨later, isLater, congrArg Prod.fst same, congrArg Prod.snd same⟩

end Frame

/-- Going on behind the instruction concerns neither variables nor timers. -/
theorem Machine.accept_storage (machine : Machine) (step : Step) (after : Frame) (id : Nat) :
    ((machine.accept step after).schedule.thread? id).map
        (fun thread => (thread.locals, thread.timers)) =
      (after.schedule.thread? id).map fun thread => (thread.locals, thread.timers) := by
  unfold accept
  simp only
  split
  · rfl
  · refine Schedule.map_thread?_modify (fun thread => (thread.locals, thread.timers)) ?_ id
    exact fun _ _ => rfl

/-- A started thread is still as it was started when its starter has gone on. -/
theorem Schedule.StartsWith.accept {before : Schedule} {starter : Thread} {pc : Nat}
    {values : List Value} {after : Frame} (starts : before.StartsWith starter pc values after.schedule)
    (machine : Machine) {step : Step} (found : before.thread? step.site.thread = some starter) :
    before.StartsWith starter pc values (machine.accept step after).schedule := by
  obtain ⟨schedule, accepted, edits⟩ := machine.accept_edits step after
  refine ⟨?_, ?_, ?_⟩
  · rw [accepted]
    exact edits.length.trans starts.count
  · obtain ⟨thread, isThread, new⟩ := starts.started
    have isNew : before.nextId ≠ step.site.thread := (Schedule.ne_nextId found).symm
    rw [accepted]
    exact ⟨thread, (edits.untouched _ isNew).trans isThread, new⟩
  · intro id thread old
    obtain ⟨between, isBetween, sameLocals, sameTimers⟩ := starts.kept id thread old
    have seen := machine.accept_storage step after id
    rw [isBetween] at seen
    obtain ⟨later, isLater, same⟩ := Option.map_eq_some_iff.1 seen
    obtain ⟨keptLocals, keptTimers⟩ := Prod.mk.inj same
    exact ⟨later, isLater, keptLocals.trans sameLocals, keptTimers.trans sameTimers⟩

/-! ## 4. The instruction -/

namespace Machine

/-- Why a start with arguments is refused: there is no value to hand over, there are more values than
local variables, the label is text, or its target stands for no address. -/
inductive RefusesStart (machine : Machine) (starter : Thread) (args : List ArgValue) : Prop where
  | few (less : args.length < 2)
  | many (more : localSlots + 1 < args.length)
  | text {label : ArgValue} {string : String} (first : args.head? = some label)
      (isText : label.value = .text string)
  | lost {label : ArgValue} {target : Int32} (first : args.head? = some label)
      (number : label.value.target? = some target)
      (nowhere : ∀ address, ¬ machine.LandsAt starter target address)

/-- A start that is not refused has all it needs. -/
theorem given_of_not_refusesStart {machine : Machine} {starter : Thread} {args : List ArgValue}
    (accepted : ¬ machine.RefusesStart starter args) :
    ∃ label first others target address, args = label :: first :: others ∧
      (first :: others).length ≤ localSlots ∧ label.value.target? = some target ∧
      machine.LandsAt starter target address := by
  rcases args with _ | ⟨label, _ | ⟨first, others⟩⟩
  · exact absurd (.few Nat.two_pos) accepted
  · exact absurd (.few Nat.one_lt_two) accepted
  · have few : (first :: others).length ≤ localSlots :=
      Nat.le_of_not_lt fun more => accepted (.many (Nat.succ_lt_succ more))
    cases number : label.value.target? with
    | none =>
      obtain ⟨string, isText⟩ := Value.text_of_target? number
      exact absurd (.text rfl isText) accepted
    | some target =>
      refine Classical.byContradiction fun missing => ?_
      refine accepted (.lost rfl number fun address lands => missing ?_)
      exact ⟨label, first, others, target, address, rfl, few, number, lands⟩

variable {machine : Machine} {starter : Thread} {entry : Entry Handler} {step : Step}

/-- A start that is refused does not run to its end. -/
theorem Ready.not_succeeded_of_refusesStart (ready : machine.cleared.Ready starter entry step)
    (bound : step.handler? = some Builtin.startNewScriptWithArgs.handler)
    (refused : machine.RefusesStart starter step.args.variadic) (after : Frame) :
    step.run machine.cleared.frame ≠ (.ok (), after) := by
  intro success
  rw [Step.run, bound] at success
  cases Builtin.effect_of_run success with
  | setVariable kind => exact absurd kind (by decide)
  | @startNewScriptWithArgs label values target pc _ _ _ given nonempty few number resolved _ _ =>
    rw [given] at refused
    cases refused with
    | few less =>
      have := List.length_pos_iff.2 nonempty
      rw [List.length_cons] at less
      omega
    | many more => exact Nat.not_lt_of_le (Nat.succ_le_succ few) more
    | text first isText =>
      cases first
      rw [Behaviour.intValue_eq_ok_iff, isText] at number
      cases number
    | lost first isNumber nowhere =>
      cases first
      cases (Behaviour.intValue_eq_ok_iff.1 number).symm.trans isNumber
      exact nowhere pc (ready.resolveTarget_eq_ok_iff.1 resolved)

/-- A start that is not refused runs to its end. -/
theorem Ready.succeeded_of_landsAt (ready : machine.cleared.Ready starter entry step)
    (bound : step.handler? = some Builtin.startNewScriptWithArgs.handler)
    {label first : ArgValue} {others : List ArgValue} {target : Int32} {address : Nat}
    (given : step.args.variadic = label :: first :: others)
    (few : (first :: others).length ≤ localSlots) (number : label.value.target? = some target)
    (lands : machine.LandsAt starter target address) :
    ∃ after, step.run machine.cleared.frame = (.ok (), after) ∧
      machine.schedule.StartsWith starter address ((first :: others).map ArgValue.value)
        after.schedule := by
  have running : machine.cleared.frame.schedule.thread? step.site.thread = some starter := ready.found
  obtain ⟨after, ran, starts⟩ := Frame.start_then_setLocals running few
  refine ⟨after, ?_, starts⟩
  rw [Step.run, bound]
  simp only [Builtin.handler, Behaviour.startNewScriptWithArgs, given]
  refine Program.run_bind_eq_ok.2 ⟨(), _, Program.run_ensure_eq_ok.2 ⟨decide_eq_true few, rfl⟩, ?_⟩
  refine Program.run_lift_bind_eq_ok.2 ⟨target, Behaviour.intValue_eq_ok_iff.2 number, ?_⟩
  exact Program.run_resolveTarget_bind_eq_ok.2 ⟨address, ready.resolveTarget_eq_ok_iff.2 lands, ran⟩

end Machine

/-- A tick of an instruction that starts a thread with arguments, whose arguments have been resolved.
If the start is refused, the tick fails and there is no new thread. Otherwise it succeeds, and one thread
has been started at the address that the label stands for, with the other arguments as they were resolved;
every thread that was there, the starter among them, has kept its local variables and timers. This does
not depend on whether the new thread got control. -/
theorem start_fills_new_thread {machine : Machine} {starter : Thread} {instruction : Instruction}
    {entry : Entry Handler} {args : Arguments} (running : machine.currentThread? = some starter)
    (decoded : machine.decode starter.pc = .ok instruction)
    (known : machine.registry.entry? instruction.opcode = some entry)
    (bound : entry.handler? = some Builtin.startNewScriptWithArgs.handler)
    (resolved : Arguments.resolve entry.definition instruction machine.memory starter
      machine.schedule.time = .ok args) :
    (machine.RefusesStart starter args.variadic →
      (∃ error, machine.tick.result = .error error) ∧
        machine.tick.machine.schedule = machine.schedule) ∧
    (¬ machine.RefusesStart starter args.variadic →
      ∃ record label target address, machine.tick.result = .ok record ∧
        args.variadic.head? = some label ∧ label.value.target? = some target ∧
        machine.LandsAt starter target address ∧
        machine.schedule.StartsWith starter address (args.variadic.tail.map ArgValue.value)
          machine.tick.machine.schedule) := by
  obtain ⟨id, current, found⟩ := Option.bind_eq_some_iff.1 running
  let site : Site :=
    ⟨machine.layout, machine.code, machine.config, id, instruction, entry.definition⟩
  have ready : machine.cleared.Ready starter entry ⟨site, args, entry.handler?⟩ := {
    current, found, known
    decoded := Registry.decode_congr decoded fun _ _ _ => rfl
    resolved := (Arguments.resolve_clearDirty _ _ _ _ _).trans resolved
    definition := rfl, handler := rfl, layout := rfl, code := rfl, config := rfl }
  constructor
  · intro refused
    rcases ran : Step.run ⟨site, args, entry.handler?⟩ machine.cleared.frame with ⟨error | _, after⟩
    · have failure : machine.tick.result = .error error := by
        rw [Machine.tick_eq_of_failed ready.prepare_eq ran]
      exact ⟨⟨error, failure⟩, Machine.tick_schedule_of_error failure⟩
    · exact absurd ran (ready.not_succeeded_of_refusesStart bound refused after)
  · intro accepted
    obtain ⟨label, first, others, target, address, given, few, number, lands⟩ :=
      Machine.given_of_not_refusesStart accepted
    obtain ⟨after, ran, starts⟩ := ready.succeeded_of_landsAt bound given few number lands
    rw [Machine.tick_eq_of_succeeded ready.prepare_eq ran, given]
    exact ⟨_, label, target, address, rfl, rfl, number, lands, starts.accept machine.cleared found⟩

namespace StartedThreadsExample

/-- Main code starts the mission and ends. The mission sets its third local variable to 7 and starts a
thread behind itself, at -23.5, with that variable, its first timer and the number 5. -/
def script : Array UInt8 := #[
  0x02, 0x00, 0x01, 0x0C, 0x00, 0x00, 0x00, 0x6D,
  0x00, 0x00, 0x00, 0x00,
  0x02, 0x00, 0x01, 0x18, 0x00, 0x00, 0x00, 0x00,
  0x00, 0x00, 0x00, 0x00,
  0x02, 0x00, 0x01, 0x30, 0x00, 0x00, 0x00, 0x00,
  0x00, 0x00, 0x00, 0x00, 0x00, 0x00, 0x00, 0x00, 0x01, 0x00, 0x00, 0x00, 0x36, 0x00, 0x00, 0x00,
  0x17, 0x04, 0x04, 0x00,
  0x4E, 0x00,
  0x06, 0x00, 0x03, 0x02, 0x00, 0x04, 0x07,
  0x4F, 0x00, 0x06, 0x00, 0x00, 0xBC, 0xC1, 0x03, 0x02, 0x00, 0x03, 0x20, 0x00, 0x04, 0x05, 0x00,
  0x02, 0x00, 0x04, 0xE9]

/-- The script before its sixth tick. -/
def inMission (loaded : Machine) : Machine := loaded.serveAll (List.replicate 5 .tick)

/-- In the sixth tick the mission is about to start a thread with three values, at a target that leads
to the start of an instruction. -/
abbrev AboutToStart (machine : Machine) : Prop :=
  (∃ starter ∈ machine.currentThread?, starter.base? = some 54 ∧
    ∃ instruction ∈ (machine.decode starter.pc).toOption,
      instruction.opcode = Builtin.startNewScriptWithArgs.opcode ∧
      ∃ entry ∈ machine.registry.entry? instruction.opcode,
        ∃ args ∈ (Arguments.resolve entry.definition instruction machine.memory starter
          machine.schedule.time).toOption,
          args.variadic.map ArgValue.value = [.float ⟨0xC1BC0000⟩, .int 7, .int 2, .int 5]) ∧
  machine.memory.size = 81 ∧ machine.code.startsAt 77 = true ∧ machine.schedule.nextId = 2

end StartedThreadsExample

open StartedThreadsExample in
/-- The sixth tick starts a thread 23 behind the start of the mission. Its first local variables are the
starter's variable, the two ticks that the starter's timer has counted, and the number. -/
theorem mission_hands_over_values :
    ∃ registry loaded thread, Registry.builtin = .ok registry ∧
      Machine.load script registry {} = .ok loaded ∧
      (inMission loaded).tick.machine.schedule.thread? 2 = some thread ∧ thread.pc = 77 ∧
      thread.base? = some 54 ∧ thread.locals.get? 0 = some (.int 7) ∧
      thread.locals.get? 1 = some (.int 2) ∧ thread.locals.get? 2 = some (.int 5) ∧
      thread.locals.get? 3 = none := by
  obtain ⟨registry, loaded, built, load, ⟨starter, running, base, instruction, decoded, opcode,
      entry, known, args, resolved, values⟩, size, isStart, nextId⟩ :=
    Machine.exists_loaded_of_evaluation Registry.builtin script {}
      (fun loaded => AboutToStart (inMission loaded)) (by decide +kernel)
  have bound : entry.handler? = some Builtin.startNewScriptWithArgs.handler := by
    obtain ⟨_, isEntry, _, _, handler⟩ := Registry.builtin_hasBuiltins built .startNewScriptWithArgs
    have isRegistry : (inMission loaded).registry = registry :=
      Machine.serveAll_registry load (List.replicate 5 .tick)
    rw [isRegistry, opcode] at known
    cases known.symm.trans isEntry
    exact handler
  have isTarget : Value.target? (.float ⟨0xC1BC0000⟩) = some (-23) := by decide +kernel
  obtain ⟨label, rest, given, isLabel, isRest⟩ := List.map_eq_cons_iff.1 values
  have count : rest.length = 3 := by simpa using congrArg List.length isRest
  have lands : (inMission loaded).LandsAt starter (-23) 77 :=
    ⟨(if_neg (by decide)).mpr ⟨54, base, by decide⟩, by rw [size]; decide, fun _ _ => isStart⟩
  have accepted : ¬ (inMission loaded).RefusesStart starter args.variadic := by
    rw [given]
    intro refused
    cases refused with
    | few less =>
      rw [List.length_cons, count] at less
      exact absurd less (by decide)
    | many more =>
      rw [List.length_cons, count] at more
      exact absurd more (by decide)
    | text first isText =>
      cases first
      cases isLabel.symm.trans isText
    | lost first number nowhere =>
      cases first
      rw [isLabel, isTarget] at number
      cases number
      exact nowhere 77 lands
  obtain ⟨_, found, target, address, _, first, number, landed, starts⟩ :=
    (start_fills_new_thread running (except_toOption_eq_some.1 decoded) known bound
      (except_toOption_eq_some.1 resolved)).2 accepted
  rw [given] at first starts
  cases first
  rw [isLabel, isTarget] at number
  cases number
  rw [List.tail_cons, isRest] at starts
  obtain ⟨thread, isThread, new⟩ := starts.started
  obtain ⟨_, isBase, place⟩ := (if_neg (by decide)).mp landed.place
  cases base.symm.trans isBase
  rw [nextId] at isThread
  exact ⟨registry, loaded, thread, built, load, isThread, new.pc.trans place.symm, new.base.trans base,
    new.locals 0, new.locals 1, new.locals 2, new.locals 3⟩

end MissionScript
