import MissionScript.Machine
import MissionScript.Proofs.Operations
import MissionScript.Proofs.Results

/-!
# Runs of a machine

Between two looks at a machine its host can ask for a tick or move a thread; a request that is
refused changes nothing. A run is any list of requests, and what every request preserves holds
after every run (`Machine.serveAll_invariant`). `Machine.records` lists what a run has carried out.

The rest of the module takes a tick apart. `Machine.prepare_ready` says what an instruction that is
ready to run was prepared from, and `Machine.tick_of_ok` and `Machine.tick_of_error` say what a
tick has done once its result is known. No tick and no move of a thread touches the script, the
settings or the size of memory (`Machine.afterTicks_sameScript`, `Machine.serveAll_sameScript`).
-/

namespace MissionScript

/-- What a host can ask of a machine. -/
inductive Request where
  | tick
  | setThreadPc (id pc : Nat)
deriving DecidableEq, Repr

/-- What every operation preserves, every instruction preserves. -/
theorem Step.run_preserves (step : Step) (invariant : Frame → Prop)
    (kept : ∀ (operation : Operation) frame,
      invariant frame → invariant (operation.perform step.site frame).2)
    {frame : Frame} (holds : invariant frame) : invariant (step.run frame).2 := by
  unfold Step.run
  cases step.handler? with
  | none => exact holds
  | some handler => exact Program.run_preserves invariant kept _ frame holds

namespace Machine

/-! ## 1. Requests -/

/-- The machine after a request. -/
def serve (machine : Machine) : Request → Machine
  | .tick => machine.tick.machine
  | .setThreadPc id pc =>
    match machine.setThreadPc id pc with
    | .ok moved => moved
    | .error _ => machine

/-- The machine after a list of requests. -/
def serveAll (machine : Machine) (requests : List Request) : Machine :=
  requests.foldl serve machine

/-- The machine after a number of ticks, whether they succeed or fail. -/
def afterTicks (machine : Machine) : Nat → Machine
  | 0 => machine
  | count + 1 => (machine.afterTicks count).tick.machine

/-- What every request preserves, every run preserves. -/
theorem serveAll_invariant (invariant : Machine → Prop)
    (step : ∀ machine request, invariant machine → invariant (machine.serve request))
    {machine : Machine} (initial : invariant machine) (requests : List Request) :
    invariant (machine.serveAll requests) := by
  induction requests generalizing machine with
  | nil => exact initial
  | cons request rest ih => exact ih (step machine request initial)

/-- What the machine carries out on a request, if anything. -/
def record? (machine : Machine) : Request → Option TickRecord
  | .tick => machine.tick.result.toOption
  | .setThreadPc _ _ => none

/-- What the machine carries out in the course of a list of requests. -/
def records (machine : Machine) : List Request → List TickRecord
  | [] => []
  | request :: rest => (machine.record? request).toList ++ (machine.serve request).records rest

theorem records_append (machine : Machine) (first second : List Request) :
    machine.records (first ++ second) =
      machine.records first ++ (machine.serveAll first).records second := by
  induction first generalizing machine with
  | nil => rfl
  | cons request rest ih =>
    rw [List.cons_append, records, records, ih, List.append_assoc]
    rfl

theorem records_tick_of_ok {machine : Machine} {record : TickRecord}
    (success : machine.tick.result = .ok record) (rest : List Request) :
    machine.records (.tick :: rest) = record :: machine.tick.machine.records rest := by
  rw [records, record?, success]
  rfl

theorem run_succ_of_ok {machine : Machine} {record : TickRecord}
    (success : machine.tick.result = .ok record) (count : Nat) :
    machine.run (count + 1) = machine.tick.machine.run count := by
  simp only [run, runObserved, success]

/-- Moving a thread changes its place, or nothing when it is refused. -/
theorem serve_setThreadPc (machine : Machine) (id pc : Nat) :
    machine.serve (.setThreadPc id pc) = machine ∨
      machine.serve (.setThreadPc id pc) = { machine with
        schedule := machine.schedule.modify id fun thread => { thread with pc } } := by
  simp only [serve, setThreadPc]
  by_cases outside : machine.memory.size ≤ pc
  · rw [if_pos outside]
    exact Or.inl rfl
  · rw [if_neg outside]
    cases machine.schedule.thread? id with
    | none => exact Or.inl rfl
    | some thread => exact Or.inr rfl

/-! ## 2. Loading -/

/-- What a machine that has been loaded consists of. -/
theorem load_eq_ok {bytes : Array UInt8} {registry : Registry Handler} {config : Config}
    {machine : Machine} (success : load bytes registry config = .ok machine) :
    ∃ layout code, Layout.detect registry (Memory.ofBytes bytes) config.variant = .ok layout ∧
      CodeMap.build registry (Memory.ofBytes bytes) layout.mainCode.start (some layout) = .ok code ∧
      machine = {
        registry, layout, code, config
        memory := Memory.ofBytes bytes
        schedule := (Schedule.empty.spawn 0 false).pass
        conditions := .closed
        ticks := 0 } := by
  unfold load at success
  simp only [bind, Except.bind, pure, Except.pure] at success
  split at success
  · cases success
  · next layout detected =>
    split at success
    · cases success
    · next code built =>
      cases success
      exact ⟨layout, code, detected, built, rfl⟩

theorem load_registry {bytes : Array UInt8} {registry : Registry Handler} {config : Config}
    {machine : Machine} (success : load bytes registry config = .ok machine) :
    machine.registry = registry := by
  obtain ⟨layout, code, _, _, rfl⟩ := load_eq_ok success
  rfl

/-- Evaluating what becomes of a script, over a registry that is built first, shows what holds of the
loaded machine. -/
theorem exists_loaded_of_evaluation (registry : Except Error (Registry Handler))
    (bytes : Array UInt8) (config : Config) (property : Machine → Prop) [DecidablePred property]
    (evaluated : ((registry >>= fun built => load bytes built config).map fun loaded =>
      decide (property loaded)).toOption = some true) :
    ∃ built loaded, registry = .ok built ∧ load bytes built config = .ok loaded ∧
      property loaded := by
  obtain ⟨loaded, run, holds⟩ := exists_ok_of_evaluation _ property evaluated
  obtain ⟨built, isBuilt, isLoaded⟩ := except_bind_eq_ok.1 run
  exact ⟨built, loaded, isBuilt, isLoaded, holds⟩

/-! ## 3. Taking a tick apart -/

/-- The machine at the start of a tick, without dirty spans. -/
def cleared (machine : Machine) : Machine := { machine with memory := machine.memory.clearDirty }

/-- What an instruction that is ready to run was prepared from: `thread` runs, `step` holds the
instruction at its place, and `entry` is what the registry knows about the opcode. -/
structure Ready (machine : Machine) (thread : Thread) (entry : Entry Handler) (step : Step) :
    Prop where
  current : machine.schedule.current? = some step.site.thread
  found : machine.schedule.thread? step.site.thread = some thread
  decoded : machine.decode thread.pc = .ok step.site.instruction
  known : machine.registry.entry? step.site.instruction.opcode = some entry
  resolved : Arguments.resolve entry.definition step.site.instruction machine.memory thread
    machine.schedule.time = .ok step.args
  definition : step.site.definition = entry.definition
  handler : step.handler? = entry.handler?
  layout : step.site.layout = machine.layout
  code : step.site.code = machine.code
  config : step.site.config = machine.config

theorem prepare_ready {machine : Machine} {step : Step} (success : machine.prepare = .ok step) :
    ∃ thread entry, machine.Ready thread entry step := by
  unfold prepare at success
  simp only [bind, Except.bind, pure, Except.pure] at success
  split at success
  · cases success
  next id running =>
  have current : machine.schedule.current? = some id := by
    unfold Schedule.runnable at running
    split at running
    · next found =>
      cases running
      exact found
    · split at running <;> cases running
  split at success
  · next thread found =>
    split at success
    · cases success
    next instruction decoded =>
    split at success
    · next entry known =>
      split at success
      · cases success
      next args resolved =>
      cases success
      exact ⟨thread, entry, current, found, decoded, known, resolved, rfl, rfl, rfl, rfl, rfl⟩
    · cases success
  · cases success

/-- Nothing else is needed to prepare an instruction. -/
theorem Ready.prepare_eq {machine : Machine} {thread : Thread} {entry : Entry Handler} {step : Step}
    (ready : machine.Ready thread entry step) : machine.prepare = .ok step := by
  obtain ⟨current, found, decoded, known, resolved, isDefinition, isHandler, isLayout, isCode,
    isConfig⟩ := ready
  obtain ⟨⟨layout, code, config, id, instruction, definition⟩, args, handler?⟩ := step
  simp only at *
  subst isDefinition isHandler isLayout isCode isConfig
  unfold prepare
  simp only [Schedule.runnable, current, found, decoded, known, resolved, bind, Except.bind, pure,
    Except.pure]

theorem tick_eq_of_unprepared {machine : Machine} {error : Error}
    (unprepared : machine.cleared.prepare = .error error) :
    machine.tick = ⟨machine.cleared, .error error, none, []⟩ := by
  unfold cleared at unprepared
  simp only [tick, unprepared]
  rfl

theorem tick_eq_of_failed {machine : Machine} {step : Step} {error : Error} {after : Frame}
    (prepared : machine.cleared.prepare = .ok step)
    (failed : step.run machine.cleared.frame = (.error error, after)) :
    machine.tick =
      ⟨machine.cleared.undo after, .error error, some step, after.remarks.reverse⟩ := by
  unfold cleared at prepared failed
  simp only [tick, prepared, failed]
  rfl

theorem tick_eq_of_succeeded {machine : Machine} {step : Step} {after : Frame}
    (prepared : machine.cleared.prepare = .ok step)
    (succeeded : step.run machine.cleared.frame = (.ok (), after)) :
    machine.tick = ⟨machine.cleared.accept step after, .ok (machine.cleared.record step after),
      some step, after.remarks.reverse⟩ := by
  unfold cleared at prepared succeeded
  simp only [tick, prepared, succeeded]
  rfl

theorem tick_step?_of_prepared {machine : Machine} {step : Step}
    (prepared : machine.cleared.prepare = .ok step) :
    machine.tick.step? = some step := by
  rcases ran : step.run machine.cleared.frame with ⟨_ | _, after⟩
  · rw [tick_eq_of_failed prepared ran]
  · rw [tick_eq_of_succeeded prepared ran]

/-- A tick that succeeds has prepared an instruction and run it to its end. -/
theorem tick_of_ok {machine : Machine} {record : TickRecord}
    (success : machine.tick.result = .ok record) :
    ∃ step after, machine.cleared.prepare = .ok step ∧
      step.run machine.cleared.frame = (.ok (), after) ∧
      machine.tick.machine = machine.cleared.accept step after ∧
      record = machine.cleared.record step after := by
  cases prepared : machine.cleared.prepare with
  | error error =>
    rw [tick_eq_of_unprepared prepared] at success
    cases success
  | ok step =>
    rcases ran : step.run machine.cleared.frame with ⟨result, after⟩
    cases result with
    | error error =>
      rw [tick_eq_of_failed prepared ran] at success
      cases success
    | ok value =>
      rw [tick_eq_of_succeeded prepared ran] at success ⊢
      cases success
      exact ⟨step, after, rfl, ran, rfl, rfl⟩

/-- A tick that fails has prepared nothing, or has undone what its instruction did. -/
theorem tick_of_error {machine : Machine} {error : Error}
    (failure : machine.tick.result = .error error) :
    machine.tick.machine = machine.cleared ∨
      ∃ step after, machine.cleared.prepare = .ok step ∧
        step.run machine.cleared.frame = (.error error, after) ∧
        machine.tick.machine = machine.cleared.undo after := by
  cases prepared : machine.cleared.prepare with
  | error error =>
    rw [tick_eq_of_unprepared prepared]
    exact Or.inl rfl
  | ok step =>
    rcases ran : step.run machine.cleared.frame with ⟨result, after⟩
    cases result with
    | error error =>
      rw [tick_eq_of_failed prepared ran] at failure ⊢
      cases failure
      exact Or.inr ⟨step, after, rfl, ran, rfl⟩
    | ok value =>
      rw [tick_eq_of_succeeded prepared ran] at failure
      cases failure

/-- A tick that fails moves no thread. -/
theorem tick_schedule_of_error {machine : Machine} {error : Error}
    (failure : machine.tick.result = .error error) :
    machine.tick.machine.schedule = machine.schedule := by
  rcases tick_of_error failure with unchanged | ⟨step, after, _, _, undone⟩
  · rw [unchanged]
    rfl
  · rw [undone]
    rfl

/-! ## 4. What ticks never change -/

/-- Two machines have the same script and settings, and their memories the same size; only the
contents of memory, threads and conditions may differ. -/
structure SameScript (machine other : Machine) : Prop where
  registry : other.registry = machine.registry
  layout : other.layout = machine.layout
  code : other.code = machine.code
  config : other.config = machine.config
  size : other.memory.size = machine.memory.size

theorem SameScript.trans {first second third : Machine} (left : first.SameScript second)
    (right : second.SameScript third) : first.SameScript third :=
  ⟨right.registry.trans left.registry, right.layout.trans left.layout, right.code.trans left.code,
    right.config.trans left.config, right.size.trans left.size⟩

theorem cleared_sameScript (machine : Machine) : machine.SameScript machine.cleared :=
  ⟨rfl, rfl, rfl, rfl, rfl⟩

theorem run_memory_size {machine : Machine} {step : Step} {result : Except Error Unit}
    {after : Frame} (ran : step.run machine.frame = (result, after)) :
    after.memory.size = machine.memory.size := by
  have kept : (step.run machine.frame).2.memory.size = machine.memory.size := by
    apply step.run_preserves fun frame => frame.memory.size = machine.memory.size
    · intro operation frame same
      rw [operation.perform_memory_size, same]
    · rfl
  rw [ran] at kept
  exact kept

theorem tick_sameScript (machine : Machine) : machine.SameScript machine.tick.machine := by
  cases result : machine.tick.result with
  | error error =>
    rcases tick_of_error result with unchanged | ⟨step, after, _, ran, undone⟩
    · rw [unchanged]
      exact machine.cleared_sameScript
    · have ranSize : after.memory.size = machine.cleared.memory.size := run_memory_size ran
      rw [undone]
      exact ⟨rfl, rfl, rfl, rfl, after.memory.rollback_size.trans ranSize⟩
  | ok record =>
    obtain ⟨step, after, _, ran, accepted, _⟩ := tick_of_ok result
    have ranSize : after.memory.size = machine.cleared.memory.size := run_memory_size ran
    rw [accepted]
    exact ⟨rfl, rfl, rfl, rfl, ranSize⟩

theorem afterTicks_sameScript (machine : Machine) (count : Nat) :
    machine.SameScript (machine.afterTicks count) := by
  induction count with
  | zero => exact ⟨rfl, rfl, rfl, rfl, rfl⟩
  | succ count ih => exact ih.trans (tick_sameScript (machine.afterTicks count))

theorem serveAll_sameScript (machine : Machine) (requests : List Request) :
    machine.SameScript (machine.serveAll requests) := by
  refine serveAll_invariant machine.SameScript ?_ ⟨rfl, rfl, rfl, rfl, rfl⟩ requests
  intro other request same
  refine same.trans ?_
  cases request with
  | tick => exact other.tick_sameScript
  | setThreadPc id pc =>
    rcases other.serve_setThreadPc id pc with unmoved | moved
    · rw [unmoved]
      exact ⟨rfl, rfl, rfl, rfl, rfl⟩
    · rw [moved]
      exact ⟨rfl, rfl, rfl, rfl, rfl⟩

/-- After every run the registry is the one that the script was loaded with. -/
theorem serveAll_registry {bytes : Array UInt8} {registry : Registry Handler} {config : Config}
    {machine : Machine} (load : Machine.load bytes registry config = .ok machine)
    (requests : List Request) : (machine.serveAll requests).registry = registry :=
  (machine.serveAll_sameScript requests).registry.trans (load_registry load)

end Machine

end MissionScript
