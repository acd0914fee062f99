import MissionScript.Proofs.ControlFlow
import MissionScript.Proofs.EndedThreads
import MissionScript.Proofs.Turns

/-!
# No overtaking

A thread that is due waits for the running thread to give up control, and possibly for threads that
have been due longer or have not slept at all. It does not wait twice for the same thread: once it is
due, a thread that gives up control comes after it in line and stays there, because control goes to
the thread that has been due the longest, and neither of the two changes its place while it sleeps.

Results:
1. `Builtin.passesControl_of_handler`: which built-ins pass control.
2. `Schedule.pass_inLine`: when control passes, the thread that sleeps longer does not get it.
3. `Machine.kept_until_runs`: what other threads keep holds until a thread runs.
4. `no_overtaking`: no thread gives up control and runs again while another one is due.
-/

namespace MissionScript

/-! ## 1. Giving up control -/

/-- Whether control passes when the operation succeeds. -/
def Operation.passesControl (site : Site) : Operation → Bool
  | .sleepUntil _ | .endThread => true
  | .startThread _ _ => site.config.switchOnNewThread
  | _ => false

namespace Program

variable {α β : Type} {site : Site} {allowed : Operation → Prop}

/-- Whether control passes while the program runs. -/
def passesControl (site : Site) : Program α → Frame → Bool
  | .finish _, _ => false
  | .ask operation next, frame =>
    let (answer, after) := operation.perform site frame
    (operation.passesControl site && answer.isOk) || (next answer).passesControl site after

/-- The program asks for allowed operations only, whatever they answer. -/
def AsksOnly (allowed : Operation → Prop) : Program α → Prop
  | .finish _ => True
  | .ask operation next => allowed operation ∧ ∀ answer, (next answer).AsksOnly allowed

namespace AsksOnly

theorem perform {operation : Operation} (isAllowed : allowed operation) :
    (Program.perform operation).AsksOnly allowed :=
  ⟨isAllowed, fun _ => trivial⟩

theorem bind {program : Program α} {next : α → Program β} (first : program.AsksOnly allowed)
    (rest : ∀ value, (next value).AsksOnly allowed) : (program >>= next).AsksOnly allowed := by
  show (program.bind next).AsksOnly allowed
  induction program with
  | finish result =>
    cases result with
    | ok value => exact rest value
    | error error => trivial
  | ask operation continued ih => exact ⟨first.1, fun answer => ih answer (first.2 answer)⟩

theorem lift_bind {result : Except Error α} {next : α → Program β}
    (rest : ∀ value, (next value).AsksOnly allowed) : (lift result >>= next).AsksOnly allowed :=
  bind trivial rest

/-- If control passes while the program runs, an allowed operation passes it. -/
theorem passesControl {program : Program α} (asks : program.AsksOnly allowed) {frame : Frame}
    (passes : program.passesControl site frame = true) :
    ∃ operation, allowed operation ∧ operation.passesControl site = true := by
  induction program generalizing frame with
  | finish result => cases passes
  | ask operation next ih =>
    rcases Bool.or_eq_true_iff.1 passes with now | later
    · exact ⟨operation, asks.1, (Bool.and_eq_true_iff.1 now).1⟩
    · exact ih _ (asks.2 _) later

end AsksOnly

end Program

theorem Behaviour.setLocals_asksOnly {allowed : Operation → Prop}
    (isAllowed : ∀ id index value, allowed (.setThreadLocal id index value)) (id index : Nat)
    (values : List ArgValue) : (setLocals id index values).AsksOnly allowed := by
  induction values generalizing index with
  | nil => trivial
  | cons value rest ih => exact .bind (.perform (isAllowed _ _ _)) fun _ => ih (index + 1)

namespace Builtin

open Program.AsksOnly in
/-- The operations that a built-in asks for pass control only if the built-in does. -/
theorem handler_asksOnly (builtin : Builtin) (site : Site) (args : Arguments) :
    (builtin.handler site args).AsksOnly fun operation =>
      operation.passesControl site = true → builtin.passesControl site.config = true := by
  have silent {operation : Operation} (stays : operation.passesControl site = false) :
      operation.passesControl site = true → builtin.passesControl site.config = true := by
    intro passes
    rw [stays] at passes
    cases passes
  cases builtin with
  | wait => exact lift_bind fun _ => bind (perform (silent rfl)) fun _ => perform fun _ => rfl
  | terminateThisScript => exact perform fun _ => rfl
  | startNewScript =>
    exact lift_bind fun _ => bind (perform (silent rfl)) fun _ => bind (perform id) fun _ => trivial
  | startNewScriptWithArgs =>
    simp only [handler, Behaviour.startNewScriptWithArgs]
    split
    · refine bind ?_ fun _ => lift_bind fun _ => bind (perform (silent rfl)) fun _ =>
        bind (perform id) fun _ => Behaviour.setLocals_asksOnly (fun _ _ _ => silent rfl) _ _ _
      unfold Program.ensure
      split <;> trivial
    · trivial
  | startMission =>
    refine lift_bind fun mission => ?_
    cases Behaviour.missionStart? site mission with
    | none => trivial
    | some start => exact bind (perform id) fun _ => trivial
  | returnFromGosub => exact perform (silent rfl)
  | scriptName | goto | gosub => exact lift_bind fun _ => perform (silent rfl)
  | gotoIfFalse =>
    refine bind (perform (silent rfl)) fun holds => ?_
    cases holds with
    | true => trivial
    | false => exact lift_bind fun _ => perform (silent rfl)
  | andor =>
    refine lift_bind fun mode => ?_
    cases Behaviour.blockShape? mode with
    | none => trivial
    | some shape => exact perform (silent rfl)
  | isIntVarGreaterThanNumber | isIntVarEqualToNumber =>
    exact lift_bind fun _ => lift_bind fun _ => lift_bind fun _ => perform (silent rfl)
  | setVarInt | setVarFloat | setLocalInt | setLocalFloat =>
    exact lift_bind fun _ => lift_bind fun _ => perform (silent rfl)
  | addValToIntVar =>
    exact lift_bind fun _ => lift_bind fun _ => lift_bind fun _ => lift_bind fun _ =>
      lift_bind fun _ => perform (silent rfl)

theorem passesControl_of_handler {builtin : Builtin} {site : Site} {args : Arguments}
    {frame : Frame} (passes : (builtin.handler site args).passesControl site frame = true) :
    builtin.passesControl site.config = true := by
  obtain ⟨operation, onlyThen, isPass⟩ := (builtin.handler_asksOnly site args).passesControl passes
  exact onlyThen isPass

end Builtin

/-- Whether control passes while the instruction runs. -/
def Step.passesControl (step : Step) (frame : Frame) : Bool :=
  match step.handler? with
  | none => false
  | some handler => (handler step.site step.args).passesControl step.site frame

/-- Whether the thread that runs gives up control in the next tick. -/
def Machine.passesControl (machine : Machine) : Bool :=
  match machine.cleared.prepare with
  | .error _ => false
  | .ok step => step.passesControl machine.cleared.frame

/-! ## 2. Threads in line -/

namespace Schedule

variable {schedule before after : Schedule} {due first second : Nat}

/-- The thread sleeps until it is due, or it already has control. -/
def Waits (due id : Nat) (schedule : Schedule) : Prop :=
  schedule.current? = some id ∨ schedule.wake? id = some (.at due)

/-- One thread sleeps until it is due, and another one sleeps longer. -/
structure Ahead (schedule : Schedule) (due first second : Nat) : Prop where
  first : schedule.wake? first = some (.at due)
  second : ∃ wake, schedule.wake? second = some wake ∧ wake.After due

/-- One thread comes before another: it has control, or it sleeps less long and the other one does
not have control either. -/
def InLine (due first second : Nat) (schedule : Schedule) : Prop :=
  schedule.current? = some first ∨
    schedule.current? ≠ some second ∧ schedule.Ahead due first second

/-- Threads that sleep are not settled; the thread that runs is made due now. -/
theorem settle_ahead (waits : schedule.wake? first = some (.at due)) {wake : Wake}
    (found : schedule.wake? second = some wake)
    (later : wake.After due ∨
      wake = .awake ∧ schedule.current? = some second ∧ due < schedule.time) :
    schedule.settle.Ahead due first second := by
  obtain ⟨firstThread, isFirst, sleeps⟩ := wake?_eq_some.1 waits
  obtain ⟨secondThread, isSecond, isWake⟩ := wake?_eq_some.1 found
  constructor
  · rw [wake?, thread?_settle, isFirst, Option.map_some, if_neg, Option.map_some, sleeps]
    rw [sleeps]
    rintro ⟨_, awake⟩
    cases awake
  · rw [wake?, thread?_settle, isSecond, Option.map_some, Option.map_some]
    refine ⟨_, rfl, ?_⟩
    rcases later with after | ⟨awake, running, past⟩
    · rw [if_neg, isWake]
      · exact after
      · rintro ⟨_, awake⟩
        rw [← isWake, awake] at after
        exact after
    · rw [if_pos ⟨running, isWake.trans awake⟩]
      exact Wake.until_after past

/-- Control goes to a thread that has been due the longest, and that is not the one that sleeps
longer. -/
theorem Ahead.pass (ahead : schedule.settle.Ahead due first second)
    (numbered : schedule.settle.Numbered) : schedule.pass.InLine due first second := by
  obtain ⟨firstThread, isFirst, sleeps⟩ := wake?_eq_some.1 ahead.first
  obtain ⟨wake, isWake, isAfter⟩ := ahead.second
  obtain ⟨secondThread, isSecond, rfl⟩ := wake?_eq_some.1 isWake
  unfold InLine
  rw [current?_pass]
  by_cases chosen : schedule.settle.mostOverdue? = some first
  · exact Or.inl chosen
  have notSecond : schedule.settle.mostOverdue? ≠ some second := by
    intro isChosen
    obtain ⟨thread, found, alive, longest⟩ := mostOverdue?_longest numbered isChosen
    cases isSecond.symm.trans found
    have firstLe := longest firstThread (List.mem_of_getElem? isFirst) (by rw [sleeps]; nofun)
    rw [sleeps] at firstLe
    cases secondWake : secondThread.wake with
    | awake =>
      rw [secondWake] at isAfter
      exact isAfter
    | never => exact alive secondWake
    | «at» other =>
      rw [secondWake] at isAfter firstLe
      have dueLt : due < other := isAfter
      simp only [Wake.overdue] at firstLe
      omega
  refine Or.inr ⟨notSecond, ?_, secondThread.wake, ?_, isAfter⟩
  · rw [wake?, thread?_pass, isFirst, Option.map_some, if_neg chosen, Option.map_some, sleeps]
  · rw [wake?, thread?_pass, isSecond, Option.map_some, if_neg notSecond, Option.map_some]

theorem pass_inLine (formed : schedule.Formed) (waits : schedule.wake? first = some (.at due))
    {wake : Wake} (found : schedule.wake? second = some wake)
    (later : wake.After due ∨
      wake = .awake ∧ schedule.current? = some second ∧ due < schedule.time) :
    schedule.pass.InLine due first second :=
  (settle_ahead waits found later).pass formed.numbered.settle

theorem EditsOnly.waits {touched : Nat → Prop} (edits : before.EditsOnly touched after)
    (waits : before.Waits due first) : after.Waits due first :=
  waits.imp edits.current.trans (edits.wakes first).trans

theorem EditsOnly.inLine {touched : Nat → Prop} (edits : before.EditsOnly touched after)
    (inLine : before.InLine due first second) : after.InLine due first second := by
  unfold InLine at inLine ⊢
  rw [edits.current]
  refine inLine.imp_right fun ⟨notSecond, ahead⟩ => ⟨notSecond, ?_, ?_⟩
  · exact (edits.wakes first).trans ahead.first
  · obtain ⟨wake, isWake, isAfter⟩ := ahead.second
    exact ⟨wake, (edits.wakes second).trans isWake, isAfter⟩

/-- A line does not depend on the time. -/
theorem InLine.advance (inLine : schedule.InLine due first second) :
    schedule.advance.InLine due first second :=
  inLine.imp_right fun ⟨notSecond, ahead⟩ => ⟨notSecond, ahead.first, ahead.second⟩

/-! ## 3. Turns of other threads -/

namespace Turn

variable {site : Site} {starts passes : Bool}

/-- A thread that sleeps goes on sleeping during the turn of another one, or gets control. -/
theorem waits (turn : before.Turn site starts passes after)
    (running : before.current? = some site.thread) (other : first ≠ site.thread)
    (waits : before.Waits due first) : after.Waits due first := by
  rcases waits with hasControl | asleep
  · exact absurd (Option.some.inj (hasControl.symm.trans running)) other
  obtain ⟨thread, found, sleeps⟩ := wake?_eq_some.1 asleep
  by_cases chosen : after.current? = some first
  · exact Or.inl chosen
  · refine Or.inr ?_
    rw [wake?, turn.others running other found, if_neg chosen, Option.map_some, sleeps]

/-- A thread that gives up control comes after every thread that is due. -/
theorem hands_over (turn : before.Turn site starts true after) (sound : before.Sound)
    (running : before.current? = some site.thread) (other : first ≠ site.thread)
    (waits : before.wake? first = some (.at due)) (late : due < before.time) :
    after.InLine due first site.thread := by
  cases turn with
  | @startAndPass thread _ isNext awake fresh edits =>
    obtain ⟨runner, isRunner, runnerAwake⟩ := sound.current _ running
    have grown : Formed { before with threads := before.threads ++ [thread] } :=
      sound.toFormed.append isNext fresh
    have awakeStill : wake? { before with threads := before.threads ++ [thread] } site.thread =
        some .awake := wake?_append (wake?_eq_some.2 ⟨runner, isRunner, runnerAwake⟩)
    exact edits.inLine (pass_inLine grown (wake?_append waits) awakeStill
      (Or.inr ⟨rfl, running, late⟩))
  | @sleep time _ later edits =>
    obtain ⟨runner, isRunner, _⟩ := sound.current _ running
    have sleeps : (before.sleep site.thread time).wake? site.thread = some (Wake.until time) := by
      rw [wake?, Schedule.sleep, thread?_modify_self, isRunner, Option.map_some, Option.map_some]
    refine edits.inLine (pass_inLine (sound.toFormed.sleep _ _) ?_ sleeps (Or.inl (later due late)))
    rw [wake?_sleep_other (Ne.symm other)]
    exact waits

/-- A line stays as it is during the turns of threads that are not first in it. -/
theorem inLine (turn : before.Turn site starts passes after) (sound : before.Sound)
    (running : before.current? = some site.thread) (other : first ≠ site.thread)
    (line : before.InLine due first second) : after.InLine due first second := by
  rcases line with hasControl | ⟨notSecond, ahead⟩
  · exact absurd (Option.some.inj (hasControl.symm.trans running)) other
  have secondOther : site.thread ≠ second := by
    rintro rfl
    exact notSecond running
  obtain ⟨wake, isWake, isAfter⟩ := ahead.second
  cases turn with
  | stay edits => exact edits.inLine (Or.inr ⟨notSecond, ahead⟩)
  | @start thread _ _ _ _ edits =>
    have grown : Ahead { before with threads := before.threads ++ [thread] } due first second :=
      ⟨wake?_append ahead.first, wake, wake?_append isWake, isAfter⟩
    exact edits.inLine (Or.inr ⟨notSecond, grown⟩)
  | startAndPass isNext _ fresh edits =>
    exact edits.inLine (pass_inLine (sound.toFormed.append isNext fresh) (wake?_append ahead.first)
      (wake?_append isWake) (Or.inl isAfter))
  | @sleep time _ _ edits =>
    refine edits.inLine (pass_inLine (sound.toFormed.sleep _ _) ?_ ?_ (Or.inl isAfter))
    · rw [wake?_sleep_other (Ne.symm other)]
      exact ahead.first
    · rw [wake?_sleep_other secondOther]
      exact isWake

end Turn

end Schedule

/-! ## 4. Runs -/

namespace Machine

variable {machine : Machine} {size : Nat}

/-- With built-in behaviours only, a tick is a turn of the thread that runs. -/
theorem tick_turn (builtinOnly : machine.registry.BuiltinOnly) {record : TickRecord}
    (success : machine.tick.result = .ok record) :
    ∃ site starts passes schedule, site.thread = record.thread ∧
      machine.schedule.Turn site starts passes schedule ∧
      machine.tick.machine.schedule = schedule.advance ∧
      (machine.passesControl = true → passes = true) := by
  obtain ⟨step, after, prepared, ran, accepted, rfl⟩ := tick_of_ok success
  obtain ⟨thread, entry, ready⟩ := prepare_ready prepared
  obtain ⟨schedule, isSchedule, edits⟩ := machine.cleared.accept_edits step after
  unfold passesControl Step.passesControl
  rw [accepted]
  simp only [prepared]
  rcases ready.reach builtinOnly ran with ⟨unbound, rfl⟩ | ⟨builtin, _, bound, reach⟩
  · refine ⟨step.site, false, false, schedule, rfl, .stay edits, isSchedule, ?_⟩
    rw [unbound]
    exact id
  · refine ⟨step.site, _, _, schedule, rfl, reach.turn.edit edits, isSchedule, ?_⟩
    rw [bound]
    exact Builtin.passesControl_of_handler

/-- What edits of threads and the turns of other threads keep holds until the thread itself runs. -/
theorem kept_until_runs (property : Schedule → Prop) {id : Nat}
    (edited : ∀ {before after : Schedule} {touched : Nat → Prop},
      before.EditsOnly touched after → property before → property after)
    (turned : ∀ {before after : Schedule} {site : Site} {starts passes : Bool},
      before.Sound → before.current? = some site.thread → id ≠ site.thread →
      before.Turn site starts passes after → property before → property after.advance)
    (sound : machine.Sound size) (builtinOnly : machine.registry.BuiltinOnly)
    (holds : property machine.schedule) (requests : List Request) :
    property (machine.serveAll requests).schedule ∨
      ∃ record ∈ machine.records requests, record.thread = id := by
  induction requests generalizing machine with
  | nil => exact Or.inl holds
  | cons request rest ih =>
    have sameRegistry := (machine.serveAll_sameScript [request]).registry
    have onward (kept : property (machine.serve request).schedule) :
        property (machine.serveAll (request :: rest)).schedule ∨
          ∃ record ∈ machine.records (request :: rest), record.thread = id := by
      refine (ih (sound.serve request) (sameRegistry ▸ builtinOnly) kept).imp_right ?_
      rintro ⟨record, member, isId⟩
      exact ⟨record, List.mem_append_right _ member, isId⟩
    cases request with
    | setThreadPc moved pc =>
      apply onward
      rcases machine.serve_setThreadPc moved pc with same | isMoved
      · rw [same]
        exact holds
      · rw [isMoved]
        exact edited (.modify (fun _ _ => rfl) fun _ _ => rfl) holds
    | tick =>
      cases result : machine.tick.result with
      | error error =>
        apply onward
        show property machine.tick.machine.schedule
        rw [tick_schedule_of_error result]
        exact holds
      | ok record =>
        by_cases isId : record.thread = id
        · refine Or.inr ⟨record, List.mem_append_left _ ?_, isId⟩
          simp [record?, result, Except.toOption]
        · apply onward
          obtain ⟨site, starts, passes, schedule, isThread, turn, isSchedule, _⟩ :=
            tick_turn builtinOnly result
          show property machine.tick.machine.schedule
          rw [isSchedule]
          refine turned sound.schedule ?_ ?_ turn holds
          · rw [isThread]
            exact record_thread result
          · rw [isThread]
            exact Ne.symm isId

end Machine

/-- A thread that is due is not overtaken. Suppose that a thread sleeps until some time, and that
afterwards another thread gives up control at a later time. When that other thread carries out a
further tick, the first one has carried out a tick since it was seen asleep; if it was seen right
before control was given up, it has done so after that. -/
theorem no_overtaking {bytes : Array UInt8} {registry : Registry Handler} {config : Config}
    {loaded : Machine} (load : Machine.load bytes registry config = .ok loaded)
    (builtinOnly : registry.BuiltinOnly) (earlier between later : List Request) {first due : Nat}
    {handover again : TickRecord} :
    let start := loaded.serveAll earlier
    let before := start.serveAll between
    let after := before.tick.machine.serveAll later
    start.schedule.wake? first = some (.at due) →
    before.tick.result = .ok handover → handover.thread ≠ first →
    due < before.schedule.time → before.passesControl = true →
    after.tick.result = .ok again → again.thread = handover.thread →
    ∃ record ∈ start.records (between ++ .tick :: later), record.thread = first := by
  intro start before after asleep handedOver other late passes ranAgain sameThread
  have soundStart : start.Sound bytes.size := (Machine.load_sound load).serveAll earlier
  have soundBefore : before.Sound bytes.size := soundStart.serveAll between
  have onlyStart : start.registry.BuiltinOnly :=
    Machine.serveAll_registry load earlier ▸ builtinOnly
  have onlyBefore : before.registry.BuiltinOnly :=
    (start.serveAll_sameScript between).registry ▸ onlyStart
  have onlyAfter : before.tick.machine.registry.BuiltinOnly :=
    before.tick_sameScript.registry ▸ onlyBefore
  have running : before.schedule.current? = some handover.thread :=
    Machine.record_thread handedOver
  rw [Machine.records_append]
  -- Up to the handover the first thread sleeps, unless it has run.
  rcases Machine.kept_until_runs (Schedule.Waits due first) Schedule.EditsOnly.waits
      (fun _ isCurrent apart turn => turn.waits isCurrent apart) soundStart onlyStart
      (Or.inr asleep) between with waits | ⟨record, member, isFirst⟩
  · have stillAsleep : before.schedule.wake? first = some (.at due) :=
      waits.resolve_left fun hasControl =>
        other (Option.some.inj (running.symm.trans hasControl))
    obtain ⟨site, starts, _, schedule, isThread, turn, isSchedule, givesUp⟩ :=
      Machine.tick_turn onlyBefore handedOver
    cases givesUp passes
    have inLine : before.tick.machine.schedule.InLine due first handover.thread := by
      rw [isSchedule, ← isThread]
      exact (turn.hands_over soundBefore.schedule (isThread ▸ running)
        (isThread ▸ Ne.symm other) stillAsleep late).advance
    -- From then on it is ahead of the other thread, unless it has run.
    rcases Machine.kept_until_runs (Schedule.InLine due first handover.thread)
        Schedule.EditsOnly.inLine
        (fun sound isCurrent apart turn line => (turn.inLine sound isCurrent apart line).advance)
        soundBefore.tick onlyAfter inLine later with kept | ⟨record, member, isFirst⟩
    · have runsAgain : after.schedule.current? = some handover.thread :=
        sameThread ▸ Machine.record_thread ranAgain
      rcases kept with hasControl | ⟨notOther, _⟩
      · exact absurd (Option.some.inj (runsAgain.symm.trans hasControl)) other
      · exact absurd runsAgain notOther
    · exact ⟨record, List.mem_append_right _ (List.mem_append_right _ member), isFirst⟩
  · exact ⟨record, List.mem_append_left _ member, isFirst⟩

/-! ## A mission that gives up control twice -/

namespace OvertakingExample

/-- The main thread starts the mission and sleeps. -/
def earlier : List Request := List.replicate 6 .tick

/-- The mission is moved to its jump, jumps in place and is moved back to where it waits. -/
def between : List Request := [.setThreadPc 1 77, .tick, .setThreadPc 1 73]

/-- The mission waits, and two ticks go by. -/
def later : List Request := List.replicate 2 .tick

/-- The main thread is due at time 5. The mission gives up control at time 7 and runs again two ticks
later. -/
abbrev WaitsTwice (loaded : Machine) : Prop :=
  (loaded.serveAll earlier).schedule.wake? 0 = some (.at 5) ∧
  ((loaded.serveAll earlier).serveAll between).schedule.time = 7 ∧
  ((loaded.serveAll earlier).serveAll between).passesControl = true ∧
  (∃ record ∈ ((loaded.serveAll earlier).serveAll between).tick.result.toOption,
    record.thread = 1) ∧
  ∃ record ∈ (((loaded.serveAll earlier).serveAll between).tick.machine.serveAll
    later).tick.result.toOption, record.thread = 1

end OvertakingExample

open ControlFlowExample OvertakingExample in
/-- The main thread has slept since time 5 when the mission waits at time 7. The mission runs again
two ticks later, and the main thread has run before that. -/
theorem mission_does_not_overtake :
    ∃ registry loaded handover again, Registry.builtin = .ok registry ∧
      Machine.load script registry {} = .ok loaded ∧
      (loaded.serveAll earlier).schedule.wake? 0 = some (.at 5) ∧
      ((loaded.serveAll earlier).serveAll between).tick.result = .ok handover ∧
      (((loaded.serveAll earlier).serveAll between).tick.machine.serveAll later).tick.result =
        .ok again ∧
      handover.thread = 1 ∧ again.thread = 1 ∧
      ∃ record ∈ (loaded.serveAll earlier).records (between ++ .tick :: later),
        record.thread = 0 := by
  obtain ⟨registry, loaded, built, load, wake, time, passes, ⟨handover, ok, byMission⟩,
      again, okAgain, againByMission⟩ :=
    Machine.exists_loaded_of_evaluation Registry.builtin script {} WaitsTwice (by decide +kernel)
  have handedOver := except_toOption_eq_some.1 ok
  have ranAgain := except_toOption_eq_some.1 okAgain
  have late : 5 < ((loaded.serveAll earlier).serveAll between).schedule.time := by
    rw [time]
    decide
  have other : handover.thread ≠ 0 := by
    rw [byMission]
    decide
  exact ⟨registry, loaded, handover, again, built, load, wake, handedOver, ranAgain, byMission,
    againByMission, no_overtaking load (Registry.builtin_builtinOnly built) earlier between later
      wake handedOver other late passes ranAgain (againByMission.trans byMission.symm)⟩

end MissionScript
