import MissionScript.Proofs.ValidatedTargets

/-!
# Missions and the threads that belong to them

A negative target counts from the base of the thread that uses it. A thread that is started as a
mission has the start of the mission for its base; any other gets the base of the thread that starts
it. So a base goes down from thread to thread, however many starts lie between and whatever runs in
between.

Who has started whom can be read off the ticks, without a look at threads: each tick that starts a
thread is a birth, and threads are numbered in the order of their births. From the births follows the
mission that a thread belongs to, which is the one of its nearest ancestor that was started as a
mission. This module shows that bases are always the starts of these missions.

Results:
1. `BelongsTo.unique`: births determine the mission that a thread belongs to.
2. `Effect.grows`, `Machine.serve_grows`: what one birth does to the schedule.
3. `Lineage.grow`, `Machine.serveAll_lineage`: bases follow the births, after every request and so
   after every run.
4. `bases_follow_lineage`: what that means for negative targets.
-/

namespace MissionScript

/-! ## 1. Births -/

/-- How a thread came to be: who started it, and as which mission, if as one. -/
structure Birth where
  parent : Nat
  mission? : Option Nat
deriving DecidableEq, Repr

/-- The birth of a thread; the main thread has none. The others are numbered in order. -/
def birthOf? (births : List Birth) : Nat → Option Birth
  | 0 => none
  | id + 1 => births[id]?

/-- The mission that a thread belongs to. It is the one that the thread was started as; if it was not
started as a mission, it is the one that its parent belongs to. The main thread belongs to none. -/
inductive BelongsTo (births : List Birth) : Nat → Option Nat → Prop where
  | main : BelongsTo births 0 none
  | started {id number : Nat} {birth : Birth} (born : birthOf? births id = some birth)
      (isMission : birth.mission? = some number) : BelongsTo births id (some number)
  | inherited {id : Nat} {mission? : Option Nat} {birth : Birth}
      (born : birthOf? births id = some birth) (noMission : birth.mission? = none)
      (parent : BelongsTo births birth.parent mission?) : BelongsTo births id mission?

theorem birthOf?_append {births : List Birth} (more : List Birth) {id : Nat}
    (old : id ≤ births.length) : birthOf? (births ++ more) id = birthOf? births id := by
  cases id with
  | zero => rfl
  | succ id => exact List.getElem?_append_left old

theorem birthOf?_snoc (births : List Birth) (birth : Birth) :
    birthOf? (births ++ [birth]) (births.length + 1) = some birth :=
  List.getElem?_concat_length

theorem le_length_of_birthOf? {births : List Birth} {id : Nat} {birth : Birth}
    (born : birthOf? births id = some birth) : id ≤ births.length := by
  cases id with
  | zero => exact Nat.zero_le _
  | succ id => exact (List.getElem?_eq_some_iff.1 born).1

namespace BelongsTo

variable {births : List Birth} {id : Nat} {mission? other? : Option Nat}

/-- Later births change nothing. -/
theorem append (belongs : BelongsTo births id mission?) (more : List Birth) :
    BelongsTo (births ++ more) id mission? := by
  have kept {id birth} (born : birthOf? births id = some birth) :
      birthOf? (births ++ more) id = some birth :=
    (birthOf?_append more (le_length_of_birthOf? born)).trans born
  induction belongs with
  | main => exact .main
  | started born isMission => exact .started (kept born) isMission
  | inherited born noMission _ ih => exact .inherited (kept born) noMission ih

/-- A thread belongs to one mission at most. -/
theorem unique (left : BelongsTo births id mission?) (right : BelongsTo births id other?) :
    mission? = other? := by
  induction left with
  | main =>
    cases right with
    | main => rfl
    | started born _ | inherited born _ _ => cases born
  | started born isMission =>
    cases right with
    | main => cases born
    | started again isOther =>
      cases born.symm.trans again
      exact isMission.symm.trans isOther
    | inherited again noMission _ =>
      cases born.symm.trans again
      cases noMission.symm.trans isMission
  | inherited born noMission _ ih =>
    cases right with
    | main => cases born
    | started again isMission =>
      cases born.symm.trans again
      cases noMission.symm.trans isMission
    | inherited again _ parent =>
      cases born.symm.trans again
      exact ih parent

end BelongsTo

/-- The birth that a built-in brings about when it succeeds, if it does. -/
def Builtin.birth? (site : Site) (args : Arguments) : Builtin → Option Birth
  | .startMission => (args.int "mission").toOption.map fun mission =>
      ⟨site.thread, some mission.toInt.toNat⟩
  | .startNewScript | .startNewScriptWithArgs => some ⟨site.thread, none⟩
  | _ => none

/-- The same for an instruction; an opcode without behaviour starts no thread. -/
def Step.birth? (step : Step) : Option Birth :=
  if step.handler?.isSome then
    (Builtin.ofOpcode? step.site.instruction.opcode).bind (Builtin.birth? step.site step.args)
  else none

namespace Machine

/-- The birth that a request brings about, if it does. -/
def birth? (machine : Machine) : Request → Option Birth
  | .tick => machine.tick.result.toOption.bind fun _ => machine.tick.step?.bind Step.birth?
  | .setThreadPc _ _ => none

/-- The births in the course of a list of requests. -/
def births (machine : Machine) : List Request → List Birth
  | [] => []
  | request :: rest => (machine.birth? request).toList ++ (machine.serve request).births rest

end Machine

/-! ## 2. What a birth does -/

/-- The base of a thread: the start of the mission, if there is one, and else another base. -/
def Layout.BaseIs (layout : Layout) (mission? else? base? : Option Nat) : Prop :=
  match mission? with
  | none => base? = else?
  | some number => ∃ mission, layout.mission? number = some mission ∧ base? = some mission.first

/-- Existing threads keep their roles. -/
def Schedule.KeepsRoles (before after : Schedule) : Prop :=
  ∀ id thread, before.thread? id = some thread →
    (after.thread? id).map Thread.role = some thread.role

theorem Schedule.KeepsRoles.trans {first second third : Schedule} (left : first.KeepsRoles second)
    (right : second.KeepsRoles third) : first.KeepsRoles third := by
  intro id thread found
  obtain ⟨between, isBetween, sameRole⟩ := Option.map_eq_some_iff.1 (left id thread found)
  rw [right id between isBetween, sameRole]

/-- A schedule has grown by the thread that was born, if one was; all others keep their roles. -/
structure Schedule.Grows (layout : Layout) (birth? : Option Birth) (before after : Schedule) :
    Prop where
  length : after.threads.length = before.threads.length + birth?.toList.length
  kept : before.KeepsRoles after
  born : ∀ birth, birth? = some birth → ∃ parent child,
    before.thread? birth.parent = some parent ∧ after.thread? before.nextId = some child ∧
    child.isMission = birth.mission?.isSome ∧
    layout.BaseIs birth.mission? parent.base? child.base?

namespace Schedule.Grows

variable {layout : Layout} {birth? : Option Birth} {before between after : Schedule}

/-- Edits touch neither roles nor the number of threads. -/
theorem edit {touched : Nat → Prop} (grows : before.Grows layout birth? between)
    (edits : between.EditsOnly touched after) : before.Grows layout birth? after where
  length := edits.length.trans grows.length
  kept id thread found := (edits.roles id).trans (grows.kept id thread found)
  born birth isBirth := by
    obtain ⟨parent, child, isParent, isChild, asMission, base⟩ := grows.born birth isBirth
    obtain ⟨edited, isEdited, sameRole⟩ : ∃ edited, after.thread? before.nextId = some edited ∧
        edited.role = child.role := by
      refine Option.map_eq_some_iff.1 ((edits.roles _).trans ?_)
      rw [isChild, Option.map_some]
    simp only [Thread.role, Prod.mk.injEq] at sameRole
    refine ⟨parent, edited, isParent, isEdited, sameRole.2.1.trans asMission, ?_⟩
    rw [sameRole.2.2]
    exact base

theorem refl (layout : Layout) (schedule : Schedule) : schedule.Grows layout none schedule where
  length := rfl
  kept _ _ found := by rw [found, Option.map_some]
  born _ isBirth := by cases isBirth

end Schedule.Grows

section Births

variable {site : Site} {args : Arguments} {before after : Frame}

/-- The role of a thread that was started. -/
theorem Frame.startThread_role {pc id : Nat} {isMission : Bool}
    (success : before.startThread site pc isMission = (.ok id, after)) :
    ∃ parent child, before.schedule.thread? site.thread = some parent ∧
      after.schedule.thread? before.schedule.nextId = some child ∧ child.isMission = isMission ∧
      child.base? = if isMission then some pc else parent.base? := by
  obtain ⟨parent, isParent, seen⟩ := startThread_view Thread.role (fun _ _ => rfl) success
  obtain ⟨child, isChild, role⟩ := Option.map_eq_some_iff.1 seen
  simp only [Thread.role, Prod.mk.injEq] at role
  obtain ⟨_, asMission, base⟩ := role
  refine ⟨parent, child, isParent, isChild, asMission.trans ?_, base.trans ?_⟩
  · cases isMission <;> rfl
  · cases isMission <;> rfl

theorem Builtin.birth?_eq_none {builtin : Builtin} (noStarter : builtin ∉ starters) :
    builtin.birth? site args = none := by
  cases builtin with
  | startMission | startNewScript | startNewScriptWithArgs => exact absurd (by decide) noStarter
  | _ => rfl

/-- Each built-in makes the schedule grow by the birth that it brings about. -/
theorem Effect.grows {builtin : Builtin} (effect : Effect site args before builtin after) :
    before.schedule.Grows site.layout (builtin.birth? site args) after.schedule := by
  have turn := effect.reach.turn
  have kept : before.schedule.KeepsRoles after.schedule := fun _ _ found => turn.roles found
  by_cases isStarter : builtin ∈ Builtin.starters
  · have grown : after.schedule.threads.length = before.schedule.threads.length + 1 := by
      rw [turn.length, decide_eq_true isStarter]
      rfl
    cases effect with
    | startNewScript given resolved started =>
      obtain ⟨parent, child, isParent, isChild, asMission, base⟩ := Frame.startThread_role started
      refine ⟨grown, kept, ?_⟩
      rintro _ ⟨⟩
      exact ⟨parent, child, isParent, isChild, asMission, base⟩
    | startNewScriptWithArgs given nonempty few number resolved start set =>
      -- The thread has been started, and then its local variables were set.
      obtain ⟨startTurn, rfl, _, _⟩ := Frame.startThread_turn start
      obtain ⟨parent, child, isParent, isChild, asMission, base⟩ := Frame.startThread_role start
      refine Schedule.Grows.edit ⟨startTurn.length, fun _ _ found => startTurn.roles found, ?_⟩
        (Frame.setLocals_edits set).1
      rintro _ ⟨⟩
      exact ⟨parent, child, isParent, isChild, asMission, base⟩
    | @startMission number _ _ _ given found started =>
      have isBirth : Builtin.startMission.birth? site args =
          some ⟨site.thread, some number.toInt.toNat⟩ := by
        rw [Builtin.birth?, given]
        rfl
      obtain ⟨parent, child, isParent, isChild, asMission, base⟩ := Frame.startThread_role started
      obtain ⟨mission, isMission, rfl⟩ := Behaviour.mission?_of_missionStart? found
      rw [isBirth]
      refine ⟨grown, kept, ?_⟩
      rintro _ ⟨⟩
      exact ⟨parent, child, isParent, isChild, asMission, mission, isMission, base⟩
    | setVariable kind =>
      have apart : ∀ builtin ∈ [Builtin.setVarInt, .setVarFloat, .setLocalInt, .setLocalFloat],
        builtin ∉ Builtin.starters := by decide
      exact absurd isStarter (apart _ kind)
    | _ => exact absurd isStarter (by decide)
  · rw [Builtin.birth?_eq_none isStarter]
    refine ⟨?_, kept, fun _ isBirth => by cases isBirth⟩
    rw [turn.length, decide_eq_false isStarter]
    rfl

end Births

namespace Machine

variable {machine : Machine}

/-- A request makes the schedule grow by the birth that it brings about. -/
theorem serve_grows (builtinOnly : machine.registry.BuiltinOnly) (request : Request) :
    machine.schedule.Grows machine.layout (machine.birth? request)
      (machine.serve request).schedule := by
  cases request with
  | setThreadPc id pc =>
    have unborn := Schedule.Grows.refl machine.layout machine.schedule
    rcases machine.serve_setThreadPc id pc with same | moved
    · rw [same]
      exact unborn
    · rw [moved]
      exact unborn.edit (.modify (fun _ _ => rfl) fun _ _ => rfl)
  | tick =>
    cases result : machine.tick.result with
    | error error =>
      rw [birth?, result, serve, tick_schedule_of_error result]
      exact .refl _ _
    | ok record =>
      obtain ⟨step, after, prepared, ran, accepted, _⟩ := tick_of_ok result
      obtain ⟨thread, entry, ready⟩ := prepare_ready prepared
      have isBirth : machine.birth? .tick = step.birth? := by
        rw [birth?, result, tick_step?_of_prepared prepared]
        rfl
      have grows : machine.schedule.Grows machine.layout step.birth? after.schedule := by
        unfold Step.birth?
        rcases ready.effect builtinOnly ran with ⟨unbound, rfl⟩ | ⟨builtin, isOpcode, bound, effect⟩
        · rw [unbound]
          exact .refl _ _
        · rw [bound, ← isOpcode, Builtin.ofOpcode?_opcode]
          have sameLayout : step.site.layout = machine.layout := ready.layout
          exact sameLayout ▸ effect.grows
      obtain ⟨schedule, advanced, edits⟩ := machine.cleared.accept_edits step after
      have accepts := grows.edit edits
      rw [isBirth, serve, accepted, advanced]
      exact ⟨accepts.length, accepts.kept, accepts.born⟩

end Machine

/-! ## 3. Runs -/

/-- The threads are those that were born, and their bases follow from the births. -/
structure Lineage (layout : Layout) (births : List Birth) (schedule : Schedule) : Prop where
  length : schedule.threads.length = births.length + 1
  based : ∀ id thread, schedule.thread? id = some thread →
    ∃ mission?, BelongsTo births id mission? ∧ layout.BaseIs mission? none thread.base?
  asMission : ∀ id thread, schedule.thread? id = some thread →
    thread.isMission = ((birthOf? births id).bind Birth.mission?).isSome

namespace Lineage

variable {layout : Layout} {births : List Birth} {schedule before after : Schedule}

theorem le_length (lineage : Lineage layout births schedule) {id : Nat} {thread : Thread}
    (found : schedule.thread? id = some thread) : id ≤ births.length := by
  have inside : id < schedule.threads.length := (List.getElem?_eq_some_iff.1 found).1
  rw [lineage.length] at inside
  exact Nat.le_of_lt_succ inside

/-- A new thread gets its base from its mission, or else from the mission of its parent. -/
theorem based_of_birth {birth : Birth} {id : Nat} {parent child : Thread}
    (born : birthOf? births id = some birth)
    (belongs : ∃ mission?, BelongsTo births birth.parent mission? ∧
      layout.BaseIs mission? none parent.base?)
    (base : layout.BaseIs birth.mission? parent.base? child.base?) :
    ∃ mission?, BelongsTo births id mission? ∧ layout.BaseIs mission? none child.base? := by
  cases isMission : birth.mission? with
  | some number =>
    rw [isMission] at base
    exact ⟨some number, .started born isMission, base⟩
  | none =>
    obtain ⟨mission?, parentBelongs, parentBase⟩ := belongs
    rw [isMission] at base
    have sameBase : child.base? = parent.base? := base
    rw [sameBase]
    exact ⟨mission?, .inherited born isMission parentBelongs, parentBase⟩

/-- Bases follow from the births when one more thread is born, or none. -/
theorem grow {birth? : Option Birth} (lineage : Lineage layout births before)
    (grows : before.Grows layout birth? after) :
    Lineage layout (births ++ birth?.toList) after := by
  have length : after.threads.length = (births ++ birth?.toList).length + 1 := by
    rw [grows.length, lineage.length, List.length_append, Nat.add_right_comm]
  -- A thread is old and has kept its role, or it is the one that was born.
  have cases {id : Nat} {thread : Thread} (found : after.thread? id = some thread) :
      (∃ old, before.thread? id = some old ∧ thread.role = old.role) ∨
        ∃ birth, birth? = some birth ∧ id = before.nextId := by
    cases isOld : before.thread? id with
    | some old =>
      have sameRole := grows.kept id old isOld
      rw [found] at sameRole
      exact Or.inl ⟨old, rfl, Option.some.inj sameRole⟩
    | none =>
      have inside : id < after.threads.length := (List.getElem?_eq_some_iff.1 found).1
      have outside : before.nextId ≤ id := List.getElem?_eq_none_iff.1 isOld
      rw [grows.length] at inside
      cases birth? with
      | none => exact absurd inside (Nat.not_lt.2 outside)
      | some birth => exact Or.inr ⟨birth, rfl, Nat.le_antisymm (Nat.le_of_lt_succ inside) outside⟩
  have isNew {birth : Birth} (isBirth : birth? = some birth) :
      birthOf? (births ++ birth?.toList) before.nextId = some birth := by
    rw [isBirth, Schedule.nextId, lineage.length]
    exact birthOf?_snoc births birth
  refine ⟨length, ?_, ?_⟩
  · intro id thread found
    rcases cases found with ⟨old, isOld, sameRole⟩ | ⟨birth, isBirth, rfl⟩
    · obtain ⟨mission?, belongs, base⟩ := lineage.based id old isOld
      simp only [Thread.role, Prod.mk.injEq] at sameRole
      rw [sameRole.2.2]
      exact ⟨mission?, belongs.append _, base⟩
    · obtain ⟨parent, child, isParent, isChild, _, base⟩ := grows.born birth isBirth
      cases found.symm.trans isChild
      obtain ⟨mission?, belongs, parentBase⟩ := lineage.based _ parent isParent
      exact based_of_birth (isNew isBirth) ⟨mission?, belongs.append _, parentBase⟩ base
  · intro id thread found
    rcases cases found with ⟨old, isOld, sameRole⟩ | ⟨birth, isBirth, rfl⟩
    · simp only [Thread.role, Prod.mk.injEq] at sameRole
      rw [sameRole.2.1, lineage.asMission id old isOld,
        birthOf?_append _ (lineage.le_length isOld)]
    · obtain ⟨parent, child, _, isChild, asMission, _⟩ := grows.born birth isBirth
      cases found.symm.trans isChild
      rw [isNew isBirth, asMission]
      rfl

/-- A negative target stands for an address behind the start of the mission that the running thread
belongs to. -/
theorem resolveTarget (lineage : Lineage layout births schedule) {site : Site} {frame : Frame}
    (sameThreads : frame.schedule = schedule) {target : Int32} (negative : target.toInt < 0)
    {address : Nat} (success : frame.resolveTarget site target = .ok address) :
    ∃ number mission, BelongsTo births site.thread (some number) ∧
      layout.mission? number = some mission ∧ address = mission.first + target.toInt.natAbs := by
  rcases Frame.resolveTarget_eq success with ⟨nonneg, _⟩ | ⟨_, thread, base, found, isBase, rfl⟩
  · exact absurd negative (Int.not_lt.2 nonneg)
  · rw [sameThreads] at found
    obtain ⟨mission?, belongs, baseIs⟩ := lineage.based _ thread found
    cases mission? with
    | none => cases isBase.symm.trans baseIs
    | some number =>
      obtain ⟨mission, isMission, based⟩ := baseIs
      cases isBase.symm.trans based
      exact ⟨number, mission, belongs, isMission, rfl⟩

end Lineage

namespace Machine

variable {machine loaded : Machine} {births : List Birth}

/-- At first there is only the main thread. -/
theorem load_lineage {bytes : Array UInt8} {registry : Registry Handler} {config : Config}
    (load : Machine.load bytes registry config = .ok loaded) :
    Lineage loaded.layout [] loaded.schedule := by
  obtain ⟨layout, code, _, _, rfl⟩ := load_eq_ok load
  refine ⟨rfl, ?_, ?_⟩
  · rintro (_ | id) thread ⟨⟩
    exact ⟨none, .main, rfl⟩
  · rintro (_ | id) thread ⟨⟩
    rfl

theorem serveAll_lineage (builtinOnly : machine.registry.BuiltinOnly)
    (lineage : Lineage machine.layout births machine.schedule) (requests : List Request) :
    Lineage machine.layout (births ++ machine.births requests)
      (machine.serveAll requests).schedule := by
  induction requests generalizing machine births with
  | nil =>
    rw [Machine.births, List.append_nil]
    exact lineage
  | cons request rest ih =>
    have same := machine.serveAll_sameScript [request]
    have sameRegistry : (machine.serve request).registry = machine.registry := same.registry
    have sameLayout : (machine.serve request).layout = machine.layout := same.layout
    have grown := lineage.grow (serve_grows builtinOnly request)
    rw [← sameLayout] at grown ⊢
    rw [Machine.births, ← List.append_assoc]
    exact ih (sameRegistry ▸ builtinOnly) grown

/-- No run changes the role of a thread. -/
theorem serveAll_keepsRoles (builtinOnly : machine.registry.BuiltinOnly)
    (requests : List Request) : machine.schedule.KeepsRoles (machine.serveAll requests).schedule := by
  refine (serveAll_invariant (fun other => other.registry.BuiltinOnly ∧
    machine.schedule.KeepsRoles other.schedule) ?_ ⟨builtinOnly, ?_⟩ requests).2
  · rintro other request ⟨stillOnly, kept⟩
    have sameRegistry : (other.serve request).registry = other.registry :=
      (other.serveAll_sameScript [request]).registry
    exact ⟨sameRegistry ▸ stillOnly, kept.trans (serve_grows stillOnly request).kept⟩
  · exact (Schedule.Grows.refl machine.layout machine.schedule).kept

/-- Where a tick sends a thread by a target, that target has been looked up. -/
theorem TransfersTo.resolveTarget (builtinOnly : machine.registry.BuiltinOnly)
    {record : TickRecord} (success : machine.tick.result = .ok record) {builtin : Builtin}
    (isTransfer : builtin ∈ Builtin.transfers) (noMission : builtin ≠ .startMission)
    (opcode : record.opcode = builtin.opcode) {step : Step} (ran : machine.tick.step? = some step)
    {target : Int32} (given : step.args.target? step.site builtin = some target) {address : Nat}
    (transfers : machine.TransfersTo record address) :
    step.site.thread = record.thread ∧
      machine.cleared.frame.resolveTarget step.site target = .ok address := by
  obtain ⟨step, after, prepared, succeeded, accepted, rfl⟩ := tick_of_ok success
  cases ran.symm.trans (tick_step?_of_prepared prepared)
  obtain ⟨thread, entry, ready⟩ := prepare_ready prepared
  refine ⟨rfl, ?_⟩
  obtain ⟨_, effect, sends⟩ := transfers.effect ready builtinOnly succeeded accepted opcode
  rcases effect.destination isTransfer rfl sends with ⟨_, isTarget, resolved⟩ | ⟨isMission, _⟩
  · cases given.symm.trans isTarget
    exact resolved
  · exact absurd isMission noMission

end Machine

/-- Bases follow the lineage of threads. Load a script with built-in behaviours only, and let its host
ask for any ticks and moves of threads. Each thread then belongs to one mission or to none. Its base is
the start of that mission, or it has none. The threads that are missions are those that were started
as one. Neither ever changes again. A negative target that is found stands for an address that many
bytes behind the start of the mission of the thread that uses it, and there a tick sends a thread by
this target. -/
theorem bases_follow_lineage {bytes : Array UInt8} {registry : Registry Handler} {config : Config}
    {loaded : Machine} (load : Machine.load bytes registry config = .ok loaded)
    (builtinOnly : registry.BuiltinOnly) (requests : List Request) :
    let machine := loaded.serveAll requests
    let births := loaded.births requests
    (∀ id thread, machine.schedule.thread? id = some thread →
      (∃ mission?, BelongsTo births id mission?) ∧
      (∀ mission?, BelongsTo births id mission? →
        loaded.layout.BaseIs mission? none thread.base?) ∧
      thread.isMission = ((birthOf? births id).bind Birth.mission?).isSome) ∧
    (∀ more id thread, machine.schedule.thread? id = some thread →
      ∃ later, (loaded.serveAll (requests ++ more)).schedule.thread? id = some later ∧
        later.base? = thread.base? ∧ later.isMission = thread.isMission) ∧
    (∀ (site : Site) (frame : Frame) (target : Int32) (address : Nat),
      frame.schedule = machine.schedule → target.toInt < 0 →
      frame.resolveTarget site target = .ok address →
      ∃ number mission, BelongsTo births site.thread (some number) ∧
        loaded.layout.mission? number = some mission ∧
        address = mission.first + target.toInt.natAbs) ∧
    ∀ record step builtin target address, machine.tick.result = .ok record →
      machine.tick.step? = some step → record.opcode = Builtin.opcode builtin →
      builtin ∈ [.goto, .gotoIfFalse, .gosub, .startNewScript, .startNewScriptWithArgs] →
      step.args.target? step.site builtin = some target → target.toInt < 0 →
      machine.TransfersTo record address →
      ∃ number mission, BelongsTo births record.thread (some number) ∧
        loaded.layout.mission? number = some mission ∧
        address = mission.first + target.toInt.natAbs := by
  intro machine births
  have loadedOnly : loaded.registry.BuiltinOnly := Machine.load_registry load ▸ builtinOnly
  have machineOnly : machine.registry.BuiltinOnly :=
    Machine.serveAll_registry load requests ▸ builtinOnly
  have lineage : Lineage loaded.layout births machine.schedule :=
    Machine.serveAll_lineage loadedOnly (Machine.load_lineage load) requests
  refine ⟨?_, ?_, ?_, ?_⟩
  · intro id thread found
    obtain ⟨mission?, belongs, base⟩ := lineage.based id thread found
    refine ⟨⟨mission?, belongs⟩, ?_, lineage.asMission id thread found⟩
    intro other? alsoBelongs
    rw [alsoBelongs.unique belongs]
    exact base
  · intro more id thread found
    have isLater : loaded.serveAll (requests ++ more) = machine.serveAll more :=
      List.foldl_append
    obtain ⟨later, stillFound, sameRole⟩ := Option.map_eq_some_iff.1
      (Machine.serveAll_keepsRoles machineOnly more id thread found)
    simp only [Thread.role, Prod.mk.injEq] at sameRole
    exact ⟨later, isLater ▸ stillFound, sameRole.2.2, sameRole.2.1⟩
  · intro site frame target address sameThreads negative resolved
    exact lineage.resolveTarget sameThreads negative resolved
  · intro record step builtin target address success ran opcode isLabelled given negative transfers
    have labelled : ∀ builtin ∈ [Builtin.goto, .gotoIfFalse, .gosub, .startNewScript,
      .startNewScriptWithArgs], builtin ∈ Builtin.transfers ∧ builtin ≠ .startMission := by decide
    obtain ⟨isTransfer, noMission⟩ := labelled builtin isLabelled
    obtain ⟨isRunner, resolved⟩ :=
      transfers.resolveTarget machineOnly success isTransfer noMission opcode ran given
    rw [← isRunner]
    exact lineage.resolveTarget rfl negative resolved

/-! ## A thread that is two starts away from its mission -/

namespace MissionLineageExample

/-- There are two missions, and main code starts the second one, at address 64. It starts a thread at 68
that starts one at 72, which jumps to where it stands. All these addresses are given by negative
targets. -/
def script : Array UInt8 := #[
  0x02, 0x00, 0x01, 0x0C, 0x00, 0x00, 0x00, 0x6D,
  0x00, 0x00, 0x00, 0x00,
  0x02, 0x00, 0x01, 0x18, 0x00, 0x00, 0x00, 0x00,
  0x00, 0x00, 0x00, 0x00,
  0x02, 0x00, 0x01, 0x34, 0x00, 0x00, 0x00, 0x00,
  0x00, 0x00, 0x00, 0x00, 0x00, 0x00, 0x00, 0x00, 0x02, 0x00, 0x00, 0x00,
  0x3C, 0x00, 0x00, 0x00, 0x40, 0x00, 0x00, 0x00,
  0x17, 0x04, 0x04, 0x01,
  0x02, 0x00, 0x04, 0x38,
  0x01, 0x00, 0x04, 0x00,
  0xD7, 0x00, 0x04, 0xFC,
  0xD7, 0x00, 0x04, 0xF8,
  0x02, 0x00, 0x04, 0xF8]

/-- The jump is about to be carried out. -/
def beforeJump : List Request := List.replicate 6 .tick

/-- Three threads have been started, and the last of them jumps by a negative target to address 72. -/
abbrev JumpsBack (loaded : Machine) : Prop :=
  loaded.births beforeJump = [⟨0, some 1⟩, ⟨1, none⟩, ⟨2, none⟩] ∧
  (∃ record ∈ (loaded.serveAll beforeJump).tick.result.toOption, record.thread = 3 ∧
    record.opcode = Builtin.goto.opcode ∧ (loaded.serveAll beforeJump).TransfersTo record 72) ∧
  ∃ step ∈ (loaded.serveAll beforeJump).tick.step?, step.args.target? step.site .goto = some (-8)

end MissionLineageExample

open MissionLineageExample in
/-- The last thread is no mission. It has its base from the second mission, by way of the thread that
has started it, and jumps to the address eight behind the start of that mission. -/
theorem base_inherited_twice :
    ∃ registry loaded thread record mission, Registry.builtin = .ok registry ∧
      Machine.load script registry {} = .ok loaded ∧
      loaded.births beforeJump = [⟨0, some 1⟩, ⟨1, none⟩, ⟨2, none⟩] ∧
      loaded.layout.mission? 1 = some mission ∧
      (loaded.serveAll beforeJump).schedule.thread? 3 = some thread ∧ thread.isMission = false ∧
      thread.base? = some mission.first ∧
      (loaded.serveAll beforeJump).tick.result = .ok record ∧ record.thread = 3 ∧
      (loaded.serveAll beforeJump).TransfersTo record 72 ∧ 72 = mission.first + 8 := by
  obtain ⟨registry, loaded, built, load, isBirths, ⟨record, ok, isThread, isGoto, transfers⟩,
      step, ran, given⟩ :=
    Machine.exists_loaded_of_evaluation Registry.builtin script {} JumpsBack (by decide +kernel)
  have success := except_toOption_eq_some.1 ok
  obtain ⟨roles, _, _, leads⟩ :=
    bases_follow_lineage load (Registry.builtin_builtinOnly built) beforeJump
  rw [isBirths] at roles leads
  -- The thread was started by one that was started by the mission.
  have belongs : BelongsTo [⟨0, some 1⟩, ⟨1, none⟩, ⟨2, none⟩] 3 (some 1) :=
    .inherited rfl rfl (.inherited rfl rfl (.started rfl rfl))
  obtain ⟨_, _, prepared, _, _, rfl⟩ := Machine.tick_of_ok success
  obtain ⟨thread, _, ready⟩ := Machine.prepare_ready prepared
  have found : (loaded.serveAll beforeJump).schedule.thread? 3 = some thread := isThread ▸ ready.found
  obtain ⟨_, based, asMission⟩ := roles 3 thread found
  obtain ⟨mission, isMission, base⟩ := based (some 1) belongs
  obtain ⟨number, other, alsoBelongs, isOther, lands⟩ := leads _ step .goto (-8) 72 success ran isGoto
    (by decide) given (by decide) transfers
  rw [isThread] at alsoBelongs
  cases alsoBelongs.unique belongs
  cases isMission.symm.trans isOther
  exact ⟨registry, loaded, thread, _, mission, built, load, isBirths, isMission, found, asMission,
    base, success, isThread, transfers, lands⟩

end MissionScript
