import MissionScript.Proofs.EndedThreads

/-!
# Threads that could still run

A machine says that all threads have ended when no thread has control. The two are not the same
thing: control is handed out when a thread gives it up, and a thread may be started after that. Where
starting a thread passes control, the new thread gets it at the latest then. Where it does not, a
behaviour that ends the last thread and starts another one leaves a thread that nobody ever runs
(`heir_is_lost`).

Nothing else can lose a thread. If behaviours start threads only while some thread has control
(`Registry.StartsInControl`), or starting a thread passes control, then between two ticks a schedule
is attended: nobody has control only if all threads have ended.

Results:
1. `Schedule.pass_attended`, `Schedule.Attended.move`: passing control makes a schedule attended, and
   the other operations keep it so.
2. `Builtin.handler_startsInControl`: the built-in behaviours start threads only in control.
3. `ended_verdict_right`: the verdict is passed exactly when all threads have ended.
-/

namespace MissionScript

/-! ## 1. Schedules -/

namespace Schedule

/-- If nobody has control, it is because all threads have ended. -/
def Attended (schedule : Schedule) : Prop :=
  schedule.current? = none → ∀ thread ∈ schedule.threads, thread.wake = .never

variable {schedule after : Schedule}

theorem pass_attended (schedule : Schedule) : schedule.pass.Attended := by
  intro nobody
  rw [current?_pass] at nobody
  have threads : schedule.pass.threads = schedule.settle.threads := by
    unfold pass
    simp only [nobody]
  rw [threads]
  exact mostOverdue?_eq_none nobody

theorem Attended.modify (attended : schedule.Attended) {id : Nat} {change : Thread → Thread}
    (kept : ∀ thread, schedule.thread? id = some thread → (change thread).wake = thread.wake) :
    (schedule.modify id change).Attended := by
  intro nobody thread member
  obtain ⟨index, found⟩ := List.getElem?_of_mem member
  have isChanged : (schedule.modify id change).thread? index = some thread := found
  rw [thread?_modify] at isChanged
  obtain ⟨old, isOld, rfl⟩ := Option.map_eq_some_iff.1 isChanged
  have ended : old.wake = .never := attended nobody old (List.mem_of_getElem? isOld)
  split
  · next same =>
    subst same
    rw [kept old isOld, ended]
  · exact ended

/-- The one operation that can leave a thread unattended is a start that does not pass control, made
while nobody has it. -/
theorem Attended.move {site : Site} (attended : schedule.Attended)
    (inControl : site.config.switchOnNewThread = true ∨
      (schedule.current? = none → after.nextId = schedule.nextId))
    (move : schedule.Move site after) : after.Attended := by
  cases move with
  | edit found isEdit =>
    refine attended.modify fun thread again => ?_
    cases found.symm.trans again
    exact isEdit.wake
  | start stays =>
    intro nobody
    rcases inControl with switches | inControl
    · rw [stays] at switches
      cases switches
    · have sameNumber := inControl nobody
      simp [nextId] at sameNumber
  | startAndPass => exact pass_attended _
  | sleep time => exact pass_attended _

end Schedule

theorem Frame.Change.attended {site : Site} {before after : Frame}
    (change : before.Change site after)
    (inControl : site.config.switchOnNewThread = true ∨
      (before.schedule.current? = none → after.schedule.nextId = before.schedule.nextId))
    (attended : before.schedule.Attended) : after.schedule.Attended := by
  cases change with
  | nothing | store | conditions | remark => exact attended
  | threads _ move => exact attended.move inControl move

/-! ## 2. Behaviours -/

namespace Program

variable {α β : Type} {site : Site} {frame : Frame}

/-- Whenever the program starts a thread, some thread has control. -/
def StartsInControl (site : Site) : Program α → Frame → Prop
  | .finish _, _ => True
  | .ask operation next, frame =>
    let (answer, after) := operation.perform site frame
    (frame.schedule.current? = none → after.schedule.nextId = frame.schedule.nextId) ∧
      (next answer).StartsInControl site after

/-- Such a program, or any program where starting a thread passes control, keeps a schedule
attended. -/
theorem run_attended (program : Program α)
    (inControl : site.config.switchOnNewThread = true ∨ program.StartsInControl site frame)
    (attended : frame.schedule.Attended) : (program.run site frame).2.schedule.Attended := by
  induction program generalizing frame with
  | finish result => exact attended
  | ask operation next ih =>
    have change := operation.perform_change site frame
    exact ih _ (inControl.imp_right And.right) (change.attended (inControl.imp_right And.left) attended)

namespace StartsInControl

theorem perform (operation : Operation) (running : frame.schedule.current? ≠ none) :
    (Program.perform operation).StartsInControl site frame :=
  ⟨fun nobody => absurd nobody running, trivial⟩

theorem bind {program : Program α} {next : α → Program β}
    (first : program.StartsInControl site frame)
    (rest : ∀ value after, program.run site frame = (.ok value, after) →
      (next value).StartsInControl site after) :
    (program >>= next).StartsInControl site frame := by
  show (program.bind next).StartsInControl site frame
  induction program generalizing frame with
  | finish result =>
    cases result with
    | ok value => exact rest value frame rfl
    | error error => trivial
  | ask operation continued ih => exact ⟨first.1, ih _ first.2 rest⟩

theorem lift_bind {result : Except Error α} {next : α → Program β}
    (rest : ∀ value, (next value).StartsInControl site frame) :
    (lift result >>= next).StartsInControl site frame := by
  refine bind trivial fun value after ran => ?_
  cases ran
  exact rest value

/-- Looking for a target leaves the frame as it is. -/
theorem resolveTarget_bind {target : Int32} {next : Nat → Program β}
    (running : frame.schedule.current? ≠ none)
    (rest : ∀ address, (next address).StartsInControl site frame) :
    (resolveTarget target >>= next).StartsInControl site frame := by
  refine bind (perform _ running) fun address after ran => ?_
  have unchanged : frame = after := (Prod.mk.inj ran).2
  exact unchanged ▸ rest address

end StartsInControl

end Program

namespace Registry

/-- Every behaviour of the registry starts threads only while some thread has control, provided that
the thread it runs for has control at first. -/
def StartsInControl (registry : Registry Handler) : Prop :=
  ∀ opcode entry handler, registry.entry? opcode = some entry → entry.handler? = some handler →
    ∀ site args frame, frame.schedule.current? = some site.thread →
      (handler site args).StartsInControl site frame

end Registry

theorem Frame.changeThread_nextId (frame : Frame) (id : Nat)
    (change : Thread → Except Error Thread) :
    (frame.changeThread id change).2.schedule.nextId = frame.schedule.nextId := by
  unfold changeThread
  split
  · rfl
  · split
    · rfl
    · exact Schedule.nextId_modify _ _ _

/-- Setting local variables starts no thread, whoever has control. -/
theorem Behaviour.setLocals_startsInControl (site : Site) (id index : Nat) (values : List ArgValue)
    (frame : Frame) : (setLocals id index values).StartsInControl site frame := by
  induction values generalizing index frame with
  | nil => trivial
  | cons value rest ih =>
    refine .bind ⟨fun _ => ?_, trivial⟩ fun _ after _ => ih (index + 1) after
    exact frame.changeThread_nextId id _

open Program.StartsInControl in
theorem Builtin.handler_startsInControl (builtin : Builtin) {site : Site} {args : Arguments}
    {frame : Frame} (running : frame.schedule.current? ≠ none) :
    (builtin.handler site args).StartsInControl site frame := by
  cases builtin with
  | wait =>
    refine lift_bind fun _ => bind (perform _ running) fun _ after viewed => ?_
    cases viewed
    exact perform _ running
  | terminateThisScript | returnFromGosub => exact perform _ running
  | startNewScript =>
    exact lift_bind fun _ => resolveTarget_bind running fun _ =>
      bind (perform _ running) fun _ _ _ => trivial
  | startNewScriptWithArgs =>
    simp only [handler, Behaviour.startNewScriptWithArgs]
    split
    · refine bind ?_ fun _ after ensured => ?_
      · unfold Program.ensure
        split <;> trivial
      · obtain ⟨_, rfl⟩ := Program.run_ensure_eq_ok.1 ensured
        exact lift_bind fun _ => resolveTarget_bind running fun _ =>
          bind (perform _ running) fun id started _ =>
            Behaviour.setLocals_startsInControl site id 0 _ started
    · trivial
  | scriptName | goto | gosub => exact lift_bind fun _ => perform _ running
  | startMission =>
    refine lift_bind fun mission => ?_
    cases Behaviour.missionStart? site mission with
    | none => trivial
    | some start => exact bind (perform _ running) fun _ _ _ => trivial
  | gotoIfFalse =>
    refine bind (perform _ running) fun holds after resolved => ?_
    have kept : after.schedule = frame.schedule := by rw [← (Prod.mk.inj resolved).2]
    cases holds with
    | true => trivial
    | false => exact lift_bind fun _ => perform _ (kept ▸ running)
  | andor =>
    refine lift_bind fun mode => ?_
    cases Behaviour.blockShape? mode with
    | none => trivial
    | some shape => exact perform _ running
  | isIntVarGreaterThanNumber | isIntVarEqualToNumber =>
    exact lift_bind fun _ => lift_bind fun _ => lift_bind fun _ => perform _ running
  | setVarInt | setVarFloat | setLocalInt | setLocalFloat =>
    exact lift_bind fun _ => lift_bind fun _ => perform _ running
  | addValToIntVar =>
    exact lift_bind fun _ => lift_bind fun _ => lift_bind fun _ => lift_bind fun _ =>
      lift_bind fun _ => perform _ running

theorem Registry.BuiltinOnly.startsInControl {registry : Registry Handler}
    (builtinOnly : registry.BuiltinOnly) : registry.StartsInControl := by
  intro opcode entry handler found bound site args frame current
  obtain ⟨builtin, _, rfl⟩ := builtinOnly opcode entry handler found bound
  refine builtin.handler_startsInControl ?_
  rw [current]
  exact Option.some_ne_none _

/-! ## 3. Machines -/

namespace Machine

variable {machine : Machine}

theorem tick_attended
    (inControl : machine.config.switchOnNewThread = true ∨ machine.registry.StartsInControl)
    (attended : machine.schedule.Attended) : machine.tick.machine.schedule.Attended := by
  cases result : machine.tick.result with
  | error error =>
    rw [tick_schedule_of_error result]
    exact attended
  | ok record =>
    obtain ⟨step, after, prepared, ran, accepted, _⟩ := tick_of_ok result
    obtain ⟨thread, entry, ready⟩ := prepare_ready prepared
    have kept : (step.run machine.cleared.frame).2.schedule.Attended := by
      unfold Step.run
      cases bound : step.handler? with
      | none => exact attended
      | some handler =>
        refine Program.run_attended _ ?_ attended
        rw [ready.config]
        refine inControl.imp_right fun startsInControl => ?_
        exact startsInControl _ entry handler ready.known (ready.handler.symm.trans bound) _ _ _
          ready.current
    rw [ran] at kept
    rw [accepted]
    unfold accept
    simp only
    split
    · exact kept
    · exact kept.modify fun _ _ => rfl

theorem serve_attended (request : Request)
    (inControl : machine.config.switchOnNewThread = true ∨ machine.registry.StartsInControl)
    (attended : machine.schedule.Attended) : (machine.serve request).schedule.Attended := by
  cases request with
  | tick => exact tick_attended inControl attended
  | setThreadPc id pc =>
    rcases machine.serve_setThreadPc id pc with same | moved
    · rw [same]
      exact attended
    · rw [moved]
      exact attended.modify fun _ _ => rfl

theorem serveAll_attended {bytes : Array UInt8} {registry : Registry Handler} {config : Config}
    {loaded : Machine} (load : Machine.load bytes registry config = .ok loaded)
    (inControl : config.switchOnNewThread = true ∨ registry.StartsInControl)
    (requests : List Request) : (loaded.serveAll requests).schedule.Attended := by
  have initial : loaded.config = config ∧ loaded.registry = registry ∧
      loaded.schedule.Attended := by
    obtain ⟨layout, code, _, _, rfl⟩ := load_eq_ok load
    exact ⟨rfl, rfl, Schedule.pass_attended _⟩
  obtain ⟨isConfig, isRegistry, attended⟩ := initial
  have both := serveAll_invariant
    (fun machine => loaded.SameScript machine ∧ machine.schedule.Attended)
    (fun machine request holds => by
      refine ⟨holds.1.trans (machine.serveAll_sameScript [request]), ?_⟩
      refine serve_attended request ?_ holds.2
      rw [holds.1.config, holds.1.registry, isConfig, isRegistry]
      exact inControl)
    ⟨⟨rfl, rfl, rfl, rfl, rfl⟩, attended⟩ requests
  exact both.2

/-- When all threads have ended, the next tick says so. -/
theorem Sound.tick_of_all_ended {size : Nat} (sound : machine.Sound size)
    (ended : ∀ thread ∈ machine.schedule.threads, thread.wake = .never) :
    machine.tick.result = .error .allThreadsTerminated := by
  have nobody : machine.cleared.schedule.current? = none := by
    cases current : machine.schedule.current? with
    | none => exact current
    | some id =>
      obtain ⟨thread, found, awake⟩ := sound.schedule.current id current
      rw [ended thread (List.mem_of_getElem? found)] at awake
      cases awake
  rw [tick_eq_of_unprepared (prepare_eq_ended nobody sound.schedule.nonempty)]

end Machine

/-- When the machine says that all threads have ended, it is right, and it says so whenever they have.

Only two things are asked of behaviours for the first half: that they do not make the error up
themselves, and that, where starting a thread does not pass control, they start no thread after they
have ended the last one. Nothing is asked for the second half. -/
theorem ended_verdict_right {bytes : Array UInt8} {registry : Registry Handler} {config : Config}
    {loaded : Machine} (load : Machine.load bytes registry config = .ok loaded)
    (requests : List Request) :
    let machine := loaded.serveAll requests
    (config.switchOnNewThread = true ∨ registry.StartsInControl →
      registry.Honest ∨ machine.tick.step? = none →
      machine.tick.result = .error .allThreadsTerminated →
      ∀ thread ∈ machine.schedule.threads, thread.isTerminated = true) ∧
    ((∀ thread ∈ machine.schedule.threads, thread.isTerminated = true) →
      machine.tick.result = .error .allThreadsTerminated) := by
  intro machine
  have sound : machine.Sound bytes.size := (Machine.load_sound load).serveAll requests
  have isRegistry : machine.registry = registry := Machine.serveAll_registry load requests
  refine ⟨fun inControl genuine verdict thread member => ?_, fun ended => ?_⟩
  · have noStep : machine.tick.step? = none :=
      genuine.elim (fun honest => Machine.step?_of_ended (isRegistry ▸ honest) verdict) id
    have nobody : machine.schedule.current? = none := by
      rw [← Machine.tick_schedule_of_error verdict]
      exact (sound.stopped_of_ended verdict noStep).current
    exact beq_iff_eq.2 (Machine.serveAll_attended load inControl requests nobody thread member)
  · exact sound.tick_of_all_ended fun thread member => eq_of_beq (ended thread member)

open EndedThreadsExample in
/-- Two threads that end one after the other, without passing control when the second one starts: as
long as one of them is left there is something to run, and then there is not. -/
theorem both_threads_attended :
    ∃ registry loaded, Registry.builtin = .ok registry ∧
      Machine.load script registry { switchOnNewThread := false } = .ok loaded ∧
      (loaded.serveAll (List.replicate 5 .tick)).schedule.threads.map Thread.wake =
        [.never, .awake] ∧
      (loaded.serveAll (List.replicate 5 .tick)).tick.result ≠ .error .allThreadsTerminated ∧
      (loaded.serveAll (List.replicate 6 .tick)).tick.result = .error .allThreadsTerminated ∧
      ∀ thread ∈ (loaded.serveAll (List.replicate 6 .tick)).schedule.threads,
        thread.isTerminated = true := by
  obtain ⟨registry, loaded, built, load, wakes, allEnded⟩ :=
    Machine.exists_loaded_of_evaluation Registry.builtin script { switchOnNewThread := false }
      (fun loaded => (loaded.serveAll (List.replicate 5 .tick)).schedule.threads.map Thread.wake =
          [.never, .awake] ∧ errorOf? (loaded.serveAll (List.replicate 6 .tick)).tick.result =
            some .allThreadsTerminated)
      (by decide +kernel)
  have builtinOnly := Registry.builtin_builtinOnly built
  have right := fun requests => (ended_verdict_right load requests).1
    (Or.inr builtinOnly.startsInControl) (Or.inl builtinOnly.honest)
  have verdict := errorOf?_eq_some.1 allEnded
  refine ⟨registry, loaded, built, load, wakes, fun early => ?_, verdict, right _ verdict⟩
  have awake : Wake.awake ∈ (loaded.serveAll (List.replicate 5 .tick)).schedule.threads.map
      Thread.wake := by rw [wakes]; decide
  obtain ⟨thread, member, isAwake⟩ := List.mem_map.1 awake
  have ended := right _ early thread member
  rw [Thread.isTerminated, isAwake] at ended
  cases ended

/-! ## A behaviour that starts a thread too late -/

namespace RunnableThreadsExample

/-- Ends the thread and only then starts another one behind it. -/
def bequeath : Handler := fun site _ => do
  .endThread
  let _ ← .startThread site.instruction.next false

/-- The built-in instructions, and one more that bequeaths. -/
def registry : Except Error (Registry Handler) := do
  let draft ← Registry.Draft.empty.bindAll Builtin.bindings
  let draft ← draft.bind ⟨{ opcode := ⟨0x0A00⟩, symbol := "bequeath", params := [] }, bequeath⟩
  draft.build

/-- After the jumps over the regions, the main thread bequeaths; behind that stands a jump in place. -/
def script : Array UInt8 := #[
  0x02, 0x00, 0x01, 0x18, 0x00, 0x00, 0x00, 0x6D,
  0x00, 0x00, 0x00, 0x00, 0x00, 0x00, 0x00, 0x00, 0x00, 0x00, 0x00, 0x00, 0x00, 0x00, 0x00, 0x00,
  0x02, 0x00, 0x01, 0x24, 0x00, 0x00, 0x00, 0x00, 0x00, 0x00, 0x00, 0x00,
  0x02, 0x00, 0x01, 0x38, 0x00, 0x00, 0x00, 0x00, 0x00, 0x00, 0x00, 0x00,
  0x00, 0x00, 0x00, 0x00, 0x00, 0x00, 0x00, 0x00,
  0x00, 0x0A,
  0x02, 0x00, 0x01, 0x3A, 0x00, 0x00, 0x00]

/-- After four ticks one thread is awake, and the next tick says that all have ended. -/
abbrev Bequeathed (loaded : Machine) : Prop :=
  (loaded.serveAll (List.replicate 4 .tick)).schedule.threads.map Thread.wake = [.never, .awake] ∧
  errorOf? (loaded.serveAll (List.replicate 4 .tick)).tick.result = some .allThreadsTerminated

end RunnableThreadsExample

open RunnableThreadsExample in
/-- Where starting a thread does not pass control, the thread that is started after the last one has
ended is awake and is never run: the next tick already says that all threads have ended. -/
theorem heir_is_lost :
    ∃ built loaded, registry = .ok built ∧
      Machine.load script built { switchOnNewThread := false } = .ok loaded ∧
      (loaded.serveAll (List.replicate 4 .tick)).tick.result = .error .allThreadsTerminated ∧
      ∃ thread ∈ (loaded.serveAll (List.replicate 4 .tick)).schedule.threads,
        thread.isTerminated = false := by
  obtain ⟨built, loaded, isBuilt, load, wakes, verdict⟩ :=
    Machine.exists_loaded_of_evaluation registry script { switchOnNewThread := false } Bequeathed
      (by decide +kernel)
  have awake : Wake.awake ∈
      (loaded.serveAll (List.replicate 4 .tick)).schedule.threads.map Thread.wake := by
    rw [wakes]
    decide
  obtain ⟨heir, member, isAwake⟩ := List.mem_map.1 awake
  refine ⟨built, loaded, isBuilt, load, errorOf?_eq_some.1 verdict, heir, member,
    ?_⟩
  rw [Thread.isTerminated, isAwake]
  rfl

end MissionScript
