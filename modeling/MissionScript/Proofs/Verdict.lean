import MissionScript.Proofs.BuiltinEffects

/-!
# Who says that all threads have ended

Of all errors a tick can end with, one is a verdict about the whole machine: that all threads have
ended. This module shows that only the schedule passes that verdict. Reading memory, decoding and
resolving arguments never do (`Machine.current?_of_prepare_ended`), and no operation answers with it
(`Operation.perform_unended`). So a behaviour that acts only through its context
(`Program.ThroughContext`) never ends with it (`Registry.ThroughContext.honest`), and the built-in
behaviours act only through their context (`Registry.BuiltinOnly.throughContext`). A behaviour could
still make the error up.
-/

namespace MissionScript

/-- The result is not the verdict that all threads have ended. -/
def Unended {α : Type} (result : Except Error α) : Prop := result ≠ .error .allThreadsTerminated

namespace Unended

variable {α β : Type}

theorem ok (value : α) : Unended (.ok value) := by
  intro impossible
  cases impossible

theorem map {result : Except Error α} (unended : Unended result) (change : α → β) :
    Unended (result.map change) := by
  cases result with
  | ok value => exact ok (change value)
  | error error =>
    intro ended
    cases ended
    exact unended rfl

theorem bind {result : Except Error α} (unended : Unended result) {next : α → Except Error β}
    (rest : ∀ value, Unended (next value)) : Unended (result >>= next) := by
  cases result with
  | ok value => exact rest value
  | error error =>
    intro ended
    cases ended
    exact unended rfl

/-- The error of one step is passed on by the step after it. -/
theorem error {result : Except Error α} (unended : Unended result) {error : Error}
    (failed : result = .error error) : Unended (.error error : Except Error β) := by
  intro ended
  cases ended
  exact unended failed

end Unended

/-! ## 1. Decoding -/

namespace Memory

variable (memory : Memory) (address : Nat)

theorem read_unended (length : Nat) : Unended (memory.read address length) := by
  unfold read
  split
  · exact .ok _
  · nofun

theorem readByte_unended : Unended (memory.readByte address) := by
  unfold readByte
  split
  · exact .ok _
  · nofun

end Memory

theorem decodeArgument_unended (memory : Memory) (address : Nat) (mayEnd : Bool) :
    Unended (decodeArgument memory address mayEnd) := by
  unfold decodeArgument
  split
  · next failed => exact (memory.readByte_unended address).error failed
  · split
    · nofun
    · split
      · nofun
      · split
        · exact (memory.read_unended _ _).map _
        · split
          · next failed => exact (memory.readByte_unended _).error failed
          · exact (memory.read_unended _ _).map _

theorem decodeVariadic_unended (memory : Memory) (left address : Nat) :
    Unended (decodeVariadic memory left address) := by
  induction left generalizing address with
  | zero => nofun
  | succ left ih =>
    unfold decodeVariadic
    split
    · next failed => exact (decodeArgument_unended memory address true).error failed
    · split
      · exact .ok _
      · exact (ih _).map _

theorem decodeParams_unended (memory : Memory) (params : List Param) (address : Nat) :
    Unended (decodeParams memory params address) := by
  induction params generalizing address with
  | nil => exact .ok _
  | cons param rest ih =>
    unfold decodeParams
    split
    · split
      · next failed => exact (decodeArgument_unended memory address false).error failed
      · exact (ih _).map _
    · split
      · next failed => exact (decodeVariadic_unended memory _ address).error failed
      · exact (ih _).map _

theorem Registry.decode_unended {H : Type} (registry : Registry H) (memory : Memory)
    (address : Nat) : Unended (registry.decode memory address) := by
  unfold Registry.decode
  split
  · next failed => exact ((memory.read_unended address 2).map _).error failed
  · split
    · nofun
    · exact (decodeParams_unended memory _ _).map _

/-! ## 2. Arguments -/

theorem Thread.getLocal_unended (thread : Thread) (index now : Nat) :
    Unended (thread.getLocal index now) := by
  unfold Thread.getLocal
  split
  · exact .ok _
  · split
    · exact .ok _
    · nofun

theorem Thread.setLocal_unended (thread : Thread) (index now : Nat) (value : Value) :
    Unended (thread.setLocal index value now) := by
  unfold Thread.setLocal
  split
  · exact .ok _
  · split
    · split
      · exact .ok _
      · nofun
    · nofun

namespace Arguments

theorem readGlobal_unended (memory : Memory) (address : Nat) :
    Unended (readGlobal memory address) := by
  unfold readGlobal
  split
  · exact ((memory.read_unended address 4).map _).map _
  · exact ((memory.read_unended address 4).map _).map _

theorem resolveOne_unended (source : Source) (constraint : Constraint) (index : Nat)
    (argument : Argument) : Unended (resolveOne source constraint index argument) := by
  unfold resolveOne
  simp only
  split
  · nofun
  · split
    · exact .ok _
    · exact .ok _
    · exact .ok _
    · exact (readGlobal_unended source.memory _).map _
    · exact (source.thread.getLocal_unended _ source.now).map _
    · nofun

theorem resolveEach_unended (source : Source) (constraint : Constraint) (index : Nat)
    (args : List Argument) : Unended (resolveEach source constraint index args) := by
  induction args generalizing index with
  | nil => exact .ok _
  | cons argument rest ih =>
    unfold resolveEach
    split
    · next failed => exact (resolveOne_unended source constraint index argument).error failed
    · exact (ih _).map _

theorem resolveParams_unended (source : Source) (params : List Param) (index : Nat)
    (args : List Argument) : Unended (resolveParams source params index args) := by
  induction params generalizing index args with
  | nil => exact .ok _
  | cons param params ih =>
    unfold resolveParams
    split
    · split
      · nofun
      · split
        · next failed => exact (resolveOne_unended source _ index _).error failed
        · exact (ih _ _).map _
    · simp only
      split
      · next failed => exact (resolveEach_unended source _ index _).error failed
      · exact (ih _ _).map _

end Arguments

/-- When preparing an instruction ends with the verdict, no thread runs. -/
theorem Machine.current?_of_prepare_ended {machine : Machine}
    (ended : machine.prepare = .error .allThreadsTerminated) : machine.schedule.current? = none := by
  unfold prepare at ended
  cases current : machine.schedule.current? with
  | none => rfl
  | some id =>
    refine absurd ended (Unended.bind ?_ fun found => ?_)
    · unfold Schedule.runnable
      rw [current]
      exact .ok _
    · cases machine.schedule.thread? found with
      | none => nofun
      | some thread =>
        refine Unended.bind (machine.registry.decode_unended machine.memory thread.pc) ?_
        intro instruction
        cases machine.registry.entry? instruction.opcode with
        | none => nofun
        | some entry =>
          refine Unended.bind ((Arguments.resolveParams_unended _ _ _ _).map _) ?_
          intro args
          exact .ok _

/-! ## 3. Operations -/

namespace Conditions

theorem start_unended (capacity : Nat) (combine : Combine) : Unended (start capacity combine) := by
  unfold start
  split
  · nofun
  · exact .ok _

theorem push_unended (conditions : Conditions) (value negated : Bool) :
    Unended (conditions.push value negated) := by
  unfold push
  split
  · nofun
  · split
    · nofun
    · exact .ok _

theorem value_unended (conditions : Conditions) : Unended conditions.value := by
  unfold value
  split
  · nofun
  · split
    · nofun
    · exact .ok _

end Conditions

namespace Frame

variable (site : Site) (frame : Frame)

theorem changeThread_unended (id : Nat) {change : Thread → Except Error Thread}
    (unended : ∀ thread, Unended (change thread)) :
    Unended (frame.changeThread id change).1 := by
  unfold changeThread
  split
  · nofun
  · next thread _ =>
    split
    · next failed => exact (unended thread).error failed
    · exact .ok _

theorem setPc_unended (address : Nat) : Unended (frame.setPc site address).1 := by
  have changed := frame.changeThread_unended site.thread fun thread =>
    Unended.ok { thread with pc := address }
  unfold setPc
  split
  · next failed =>
    rw [failed] at changed
    exact changed
  · exact .ok _

theorem resolveTarget_unended (target : Int32) : Unended (frame.resolveTarget site target) := by
  unfold resolveTarget
  simp only
  split
  · next failed =>
    split at failed
    · cases failed
    · split at failed
      · cases failed
        nofun
      · split at failed
        · cases failed
          nofun
        · cases failed
  · split
    · nofun
    · split
      · nofun
      · exact .ok _

theorem jump_unended (target : Int32) : Unended (frame.jump site target).1 := by
  unfold jump
  split
  · next failed => exact (frame.resolveTarget_unended site target).error failed
  · exact frame.setPc_unended site _

theorem call_unended (target : Int32) : Unended (frame.call site target).1 := by
  have changed : Unended (frame.changeThread site.thread fun thread =>
      thread.pushReturn site.instruction.next).1 := by
    refine frame.changeThread_unended site.thread fun thread => ?_
    unfold Thread.pushReturn
    split
    · nofun
    · exact .ok _
  unfold call
  split
  · next failed => exact (frame.resolveTarget_unended site target).error failed
  · split
    · next failed =>
      rw [failed] at changed
      exact changed
    · exact setPc_unended site _ _

theorem ret_unended : Unended (frame.ret site).1 := by
  unfold ret
  split
  · nofun
  · split
    · next thread _ _ failed =>
      unfold Thread.popReturn at failed
      split at failed
      · cases failed
        nofun
      · cases failed
    · exact setPc_unended site _ _

theorem allocate_unended (address : Nat) (value : Value) :
    Unended (frame.allocate site address value).1 := by
  unfold allocate
  split
  · intro impossible
    cases impossible
  · split
    · next failed =>
      unfold Memory.allocate Memory.write at failed
      simp only at failed
      split at failed
      · next outside =>
        split at outside
        · cases outside
        · cases outside
          cases failed
          intro impossible
          cases impossible
      · cases failed
    · exact .ok _

end Frame

/-- No operation answers that all threads have ended. -/
theorem Operation.perform_unended (site : Site) (frame : Frame) (operation : Operation) :
    Unended (operation.perform site frame).1 := by
  cases operation with
  | view | remark | sleepUntil | endThread => exact .ok _
  | allocate address value => exact frame.allocate_unended site address value
  | assign place value =>
    cases place with
    | global address => exact frame.allocate_unended site address value
    | slot index => exact frame.changeThread_unended _ fun thread => thread.setLocal_unended _ _ _
  | startThread pc isMission =>
    simp only [perform, Frame.startThread]
    split
    · nofun
    · exact .ok _
  | setThreadLocal id index value =>
    exact frame.changeThread_unended _ fun thread => thread.setLocal_unended _ _ _
  | setThreadName name => exact frame.changeThread_unended _ fun _ => .ok _
  | openConditions capacity combine =>
    simp only [perform, Frame.openConditions]
    split
    · next failed => exact (Conditions.start_unended capacity combine).error failed
    · exact .ok _
  | pushCondition value =>
    simp only [perform, Frame.pushCondition]
    split
    · next failed => exact (frame.conditions.push_unended value _).error failed
    · exact .ok _
  | resolveConditions => exact frame.conditions.value_unended
  | resolveTarget target => exact frame.resolveTarget_unended site target
  | jump target => exact frame.jump_unended site target
  | setPc address => exact frame.setPc_unended site address
  | call target => exact frame.call_unended site target
  | ret => exact frame.ret_unended site

/-! ## 4. Behaviours -/

namespace Program

variable {α β : Type}

/-- The program does not make an error up: it gives up with the error only after an operation has
answered with it. -/
inductive PassesOn (error : Error) : Program α → Prop where
  | finish {result : Except Error α} (other : result ≠ .error error) : PassesOn error (.finish result)
  | ask {operation : Operation} {next : Except Error operation.Answer → Program α}
      (rest : ∀ answer, answer ≠ .error error → PassesOn error (next answer)) :
      PassesOn error (.ask operation next)

namespace PassesOn

variable {error : Error}

/-- An error that no operation answers with is not the end of such a program. -/
theorem run_ne {program : Program α} (passes : program.PassesOn error) {site : Site}
    (others : ∀ (operation : Operation) frame, (operation.perform site frame).1 ≠ .error error)
    (frame : Frame) : (program.run site frame).1 ≠ .error error := by
  induction passes generalizing frame with
  | finish other => exact other
  | ask rest ih => exact ih _ (others _ frame) _

end PassesOn

/-- The program acts only through its context. It is a sequence of operations, each chosen by the
answers to those before, and may go on after one that has failed. If it gives up, it does so with an
error that it has come by: one that was known at first, or one that an operation has answered with. -/
inductive ThroughContext : (Error → Prop) → Program α → Prop where
  | succeed {known : Error → Prop} (value : α) : ThroughContext known (.finish (.ok value))
  | giveUp {known : Error → Prop} {error : Error} (isKnown : known error) :
      ThroughContext known (.finish (.error error))
  | ask {known : Error → Prop} {operation : Operation}
      {next : Except Error operation.Answer → Program α}
      (rest : ∀ answer, ThroughContext (fun error => known error ∨ answer = .error error)
        (next answer)) :
      ThroughContext known (.ask operation next)

namespace ThroughContext

variable {known : Error → Prop}

/-- Who acts only through the context makes up no error. -/
theorem passesOn {program : Program α} (acts : program.ThroughContext known) {error : Error}
    (unknown : ¬ known error) : program.PassesOn error := by
  induction acts with
  | succeed value => exact .finish nofun
  | giveUp isKnown =>
    refine .finish fun same => ?_
    cases same
    exact unknown isKnown
  | ask _ ih => exact .ask fun answer other => ih answer (not_or.2 ⟨unknown, other⟩)

theorem mono {program : Program α} (acts : program.ThroughContext known) {more : Error → Prop}
    (implied : ∀ error, known error → more error) : program.ThroughContext more := by
  induction acts generalizing more with
  | succeed value => exact .succeed value
  | giveUp isKnown => exact .giveUp (implied _ isKnown)
  | ask _ ih => exact .ask fun answer => ih answer fun error => Or.imp_left (implied error)

theorem lift {result : Except Error α} (isKnown : ∀ error, result = .error error → known error) :
    (Program.finish result).ThroughContext known := by
  cases result with
  | ok value => exact .succeed value
  | error error => exact .giveUp (isKnown error rfl)

theorem perform (operation : Operation) : (Program.perform operation).ThroughContext known :=
  .ask fun _ => .lift fun _ => Or.inr

theorem bind {program : Program α} {next : α → Program β} (first : program.ThroughContext known)
    (rest : ∀ value, (next value).ThroughContext known) : (program >>= next).ThroughContext known := by
  show (program.bind next).ThroughContext known
  induction first with
  | succeed value => exact rest value
  | giveUp isKnown => exact .giveUp isKnown
  | ask _ ih => exact .ask fun answer => ih answer fun value => (rest value).mono fun _ => Or.inl

end ThroughContext

end Program

/-- The errors of what a context offers beside its operations: arguments by name and type, demands on
them, and what can be read in memory, in a thread and in the layout. -/
def Error.ofContext : Error → Bool
  | .typeMismatch .. | .unknownArgument .. | .assertionFailed .. => true
  | .outOfBounds .. | .noThreads | .invalidLocalSlot .. | .invalidJumpTarget .. => true
  | _ => false

namespace Registry

/-- All behaviours of the registry act only through their context. -/
def ThroughContext (registry : Registry Handler) : Prop :=
  ∀ opcode entry handler, registry.entry? opcode = some entry → entry.handler? = some handler →
    ∀ site args, (handler site args).ThroughContext (Error.ofContext · = true)

/-- No behaviour of the registry makes up the verdict that all threads have ended. -/
def Honest (registry : Registry Handler) : Prop :=
  ∀ opcode entry handler, registry.entry? opcode = some entry → entry.handler? = some handler →
    ∀ site args, (handler site args).PassesOn .allThreadsTerminated

theorem ThroughContext.honest {registry : Registry Handler} (acts : registry.ThroughContext) :
    registry.Honest := by
  intro opcode entry handler found bound site args
  exact (acts opcode entry handler found bound site args).passesOn (by decide)

end Registry

/-- An instruction with such a behaviour never ends with the verdict. -/
theorem Machine.Ready.run_unended {machine : Machine} {thread : Thread} {entry : Entry Handler}
    {step : Step} (ready : machine.Ready thread entry step) (honest : machine.registry.Honest)
    (frame : Frame) : Unended (step.run frame).1 := by
  unfold Step.run
  cases bound : step.handler? with
  | none => exact .ok _
  | some handler =>
    have passes := honest _ entry handler ready.known (ready.handler.symm.trans bound) step.site
      step.args
    exact passes.run_ne (fun operation frame => operation.perform_unended step.site frame) frame

/-! ## 5. Built-in behaviours -/

/-- The result is not an error, or one of those that a context has. -/
def Offered {α : Type} (result : Except Error α) : Prop :=
  ∀ error, result = .error error → error.ofContext = true

theorem Offered.of_error {α : Type} {error : Error} (ofContext : error.ofContext = true) :
    Offered (.error error : Except Error α) := by
  rintro _ ⟨⟩
  exact ofContext

theorem Offered.bind {α β : Type} {result : Except Error α} (offered : Offered result)
    {next : α → Except Error β} (rest : ∀ value, Offered (next value)) :
    Offered (result >>= next) := by
  cases result with
  | ok value => exact rest value
  | error error => exact .of_error (offered error rfl)

namespace Arguments

variable (args : Arguments) (name : String)

theorem get_offered : Offered (args.get name) := by
  unfold get
  split
  · nofun
  · exact .of_error rfl

theorem int_offered : Offered (args.int name) := by
  refine (args.get_offered name).bind fun argument => ?_
  cases argument.value with
  | int value => nofun
  | float value => exact .of_error rfl
  | text value => exact .of_error rfl

theorem text_offered : Offered (args.text name) := by
  refine (args.get_offered name).bind fun argument => ?_
  cases argument.value with
  | text value => nofun
  | int value => exact .of_error rfl
  | float value => exact .of_error rfl

theorem place_offered : Offered (args.place name) := by
  refine (args.get_offered name).bind fun argument => ?_
  cases argument.place? with
  | none => exact .of_error rfl
  | some place => nofun

end Arguments

namespace Behaviour

theorem intValue_offered (site : Site) (argument : ArgValue) : Offered (intValue site argument) := by
  unfold intValue
  split
  · nofun
  · nofun
  · exact .of_error rfl

theorem setLocals_throughContext {known : Error → Prop} (id index : Nat) (values : List ArgValue) :
    (setLocals id index values).ThroughContext known := by
  induction values generalizing index with
  | nil => exact .succeed _
  | cons value rest ih => exact .bind (.perform _) fun _ => ih _

end Behaviour

open Program Behaviour in
theorem Builtin.handler_throughContext (builtin : Builtin) (site : Site) (args : Arguments) :
    (builtin.handler site args).ThroughContext (Error.ofContext · = true) := by
  cases builtin with
  | wait =>
    exact .bind (.lift (args.int_offered _)) fun _ => .bind (.perform _) fun _ => .perform _
  | terminateThisScript | returnFromGosub => exact .perform _
  | startNewScript =>
    exact .bind (.lift (args.int_offered _)) fun _ =>
      .bind (.perform _) fun _ => .bind (.perform _) fun _ => .succeed _
  | startNewScriptWithArgs =>
    simp only [handler, Behaviour.startNewScriptWithArgs]
    split
    · refine .bind ?_ fun _ => .bind (.lift (intValue_offered site _)) fun _ =>
        .bind (.perform _) fun _ => .bind (.perform _) fun _ => setLocals_throughContext _ _ _
      unfold Program.ensure
      split
      · exact .succeed _
      · exact .giveUp rfl
    · exact .giveUp rfl
  | scriptName => exact .bind (.lift (args.text_offered _)) fun _ => .perform _
  | startMission =>
    refine .bind (.lift (args.int_offered _)) fun mission => ?_
    cases missionStart? site mission with
    | none => exact .giveUp rfl
    | some start => exact .bind (.perform _) fun _ => .succeed _
  | goto | gosub => exact .bind (.lift (args.int_offered _)) fun _ => .perform _
  | gotoIfFalse =>
    refine .bind (.perform _) fun holds => ?_
    cases holds with
    | true => exact .succeed _
    | false => exact .bind (.lift (args.int_offered _)) fun _ => .perform _
  | andor =>
    refine .bind (.lift (args.int_offered _)) fun mode => ?_
    cases blockShape? mode with
    | none => exact .giveUp rfl
    | some shape => exact .perform _
  | isIntVarGreaterThanNumber | isIntVarEqualToNumber =>
    exact .bind (.lift (args.get_offered _)) fun _ =>
      .bind (.lift (intValue_offered site _)) fun _ =>
        .bind (.lift (args.int_offered _)) fun _ => .perform _
  | setVarInt | setVarFloat | setLocalInt | setLocalFloat =>
    exact .bind (.lift (args.place_offered _)) fun _ =>
      .bind (.lift (args.get_offered _)) fun _ => .perform _
  | addValToIntVar =>
    exact .bind (.lift (args.place_offered _)) fun _ =>
      .bind (.lift (args.get_offered _)) fun _ =>
        .bind (.lift (intValue_offered site _)) fun _ =>
          .bind (.lift (args.get_offered _)) fun _ =>
            .bind (.lift (intValue_offered site _)) fun _ => .perform _

namespace Registry.BuiltinOnly

variable {registry : Registry Handler} (builtinOnly : registry.BuiltinOnly)
include builtinOnly

theorem throughContext : registry.ThroughContext := by
  intro opcode entry handler found bound
  obtain ⟨builtin, _, rfl⟩ := builtinOnly opcode entry handler found bound
  exact builtin.handler_throughContext

theorem honest : registry.Honest := builtinOnly.throughContext.honest

end Registry.BuiltinOnly

end MissionScript
