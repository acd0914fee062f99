import MissionScript.Proofs.BuiltinEffects
import MissionScript.Proofs.Layouts
import MissionScript.Proofs.LinearScan
import MissionScript.Proofs.Operations

/-!
# Control-flow integrity

With validated jumps and no other behaviours than the built-in ones, control never gets into the
middle of an instruction: the place of every thread, and every place it will return to, lies before
main code, is the start of an instruction that the code map has recorded, or is the end of memory.

The argument has two halves. The first is about the built-ins: for any set of allowed addresses, a
built-in that starts with all places allowed leaves them allowed, as long as targets, mission starts
and the address behind the instruction are (`Effect.within`). The second is about the script: the
address behind an instruction is allowed when the instruction itself stands at an allowed address,
because the bytes of code are those that the code map was made from, and the decoder looks at no
others (`Machine.next_allowed`).
-/

namespace MissionScript

/-- The thread stands at an allowed address and returns to allowed addresses only. -/
structure Thread.Within (allowed : Nat → Prop) (thread : Thread) : Prop where
  pc : allowed thread.pc
  returns : ∀ address ∈ thread.returns, allowed address

/-- Wherever an instruction can send a thread, the address is allowed. -/
structure Site.Leads (allowed : Nat → Prop) (site : Site) : Prop where
  target : ∀ (frame : Frame) (target : Int32) (address : Nat),
    frame.resolveTarget site target = .ok address → allowed address
  mission : ∀ mission ∈ site.layout.missions, allowed mission.first
  next : allowed site.instruction.next

/-! ## 1. Built-ins keep to allowed addresses -/

section Effects

variable {allowed : Nat → Prop} {site : Site} {before after : Frame}

theorem Thread.Within.wake (thread : Thread) (wake : Wake) (within : thread.Within allowed) :
    { thread with wake }.Within allowed :=
  ⟨within.pc, within.returns⟩

theorem Thread.Within.setLocal {thread changed : Thread} {index now : Nat} {value : Value}
    (within : thread.Within allowed) (success : thread.setLocal index value now = .ok changed) :
    changed.Within allowed := by
  obtain ⟨_, _, rfl⟩ := Thread.setLocal_eq_ok success
  exact ⟨within.pc, within.returns⟩

namespace Frame

/-- All threads of the frame keep to allowed addresses. -/
def Within (allowed : Nat → Prop) (frame : Frame) : Prop :=
  frame.schedule.Every (Thread.Within allowed)

theorem Within.changeThread (within : before.Within allowed) {id : Nat}
    {change : Thread → Except Error Thread}
    (kept : ∀ thread changed, thread.Within allowed → change thread = .ok changed →
      changed.Within allowed)
    (success : before.changeThread id change = (.ok (), after)) : after.Within allowed := by
  obtain ⟨thread, changed, found, isChanged, rfl⟩ := changeThread_eq_ok.1 success
  exact within.replace id (kept thread changed (within.thread? found) isChanged)

theorem Within.startThread (within : before.Within allowed) {pc id : Nat} {isMission : Bool}
    (isAllowed : allowed pc)
    (success : before.startThread site pc isMission = (.ok id, after)) : after.Within allowed := by
  obtain ⟨starter, _, _, rfl⟩ := startThread_eq_ok.1 success
  have started : (before.startedThread starter pc isMission).Within allowed := by
    cases isMission with
    | true => exact ⟨isAllowed, fun address member => by cases member⟩
    | false => exact ⟨isAllowed, fun address member => by cases member⟩
  have grown : (before.grown starter pc isMission).Every (Thread.Within allowed) :=
    Schedule.Every.append within started
  unfold Within
  simp only
  split
  · exact grown.pass Thread.Within.wake
  · exact grown

theorem Within.setPc (within : before.Within allowed) {address : Nat}
    (isAllowed : allowed address)
    (success : before.setPc site address = (.ok (), after)) : after.Within allowed := by
  obtain ⟨thread, found, rfl⟩ := setPc_eq_ok.1 success
  exact within.replace site.thread ⟨isAllowed, (within.thread? found).returns⟩

theorem Within.call (within : before.Within allowed) (leads : site.Leads allowed) {target : Int32}
    (success : before.call site target = (.ok (), after)) : after.Within allowed := by
  obtain ⟨address, thread, resolved, found, room, rfl⟩ := call_eq_ok.1 success
  refine within.replace site.thread ⟨leads.target before target address resolved, ?_⟩
  intro place member
  have inReturns : place ∈ (thread.called site.instruction.next).returns := member
  rw [Thread.returns_called (thread.length_returns ▸ room)] at inReturns
  rcases List.mem_cons.1 inReturns with rfl | outer
  · exact leads.next
  · exact (within.thread? found).returns place outer

theorem Within.ret (within : before.Within allowed)
    (success : before.ret site = (.ok (), after)) : after.Within allowed := by
  obtain ⟨thread, address, found, returns, rfl⟩ := ret_eq_ok.1 success
  have old := (within.thread? found).returns
  rw [returns] at old
  refine within.replace site.thread ⟨old address List.mem_cons_self, ?_⟩
  intro outer member
  exact old outer (List.mem_cons_of_mem address member)

theorem Within.jump (within : before.Within allowed) (leads : site.Leads allowed) {target : Int32}
    (success : before.jump site target = (.ok (), after)) : after.Within allowed := by
  obtain ⟨address, resolved, set⟩ := jump_eq_ok.1 success
  exact within.setPc (leads.target before target address resolved) set

theorem Within.sleepUntil (within : before.Within allowed) (time : Nat) :
    (before.sleepUntil site time).Within allowed :=
  (Schedule.Every.sleep Thread.Within.wake within site.thread time).pass Thread.Within.wake

/-- An operation that leaves the threads alone leaves their addresses alone. -/
theorem Within.of_schedule_eq {α : Type} {result : Except Error α}
    {performed : Except Error α × Frame} (within : before.Within allowed)
    (same : performed.2.schedule = before.schedule) (success : performed = (result, after)) :
    after.Within allowed := by
  subst success
  unfold Within
  rw [same]
  exact within

theorem Within.assign (within : before.Within allowed) {place : Place} {value : Value}
    (success : before.assign site place value = (.ok (), after)) : after.Within allowed := by
  cases place with
  | global address => exact within.of_schedule_eq (before.allocate_schedule site address value) success
  | slot index => exact within.changeThread (fun _ _ => Thread.Within.setLocal) success

theorem Within.setLocals (within : before.Within allowed) {id index : Nat} {values : List ArgValue}
    (success : (Behaviour.setLocals id index values).run site before = (.ok (), after)) :
    after.Within allowed := by
  induction values generalizing index before with
  | nil =>
    cases success
    exact within
  | cons value rest ih =>
    obtain ⟨_, between, set, remaining⟩ := Program.run_bind_eq_ok.1 success
    exact ih (within.changeThread (fun _ _ => Thread.Within.setLocal) set) remaining

end Frame

/-- The start that was found for a number is that of the mission with this number. -/
theorem Behaviour.mission?_of_missionStart? {id : Int32} {start : Nat}
    (found : missionStart? site id = some start) :
    ∃ mission, site.layout.mission? id.toInt.toNat = some mission ∧ mission.first = start := by
  unfold missionStart? at found
  split at found
  · cases found
  · exact Option.map_eq_some_iff.1 found

theorem Behaviour.missionStart?_mem {id : Int32} {start : Nat}
    (found : missionStart? site id = some start) :
    ∃ mission ∈ site.layout.missions, mission.first = start := by
  obtain ⟨mission, isMission, isStart⟩ := mission?_of_missionStart? found
  exact ⟨mission, List.mem_of_getElem? isMission, isStart⟩

/-- A built-in keeps all threads at allowed addresses. -/
theorem Effect.within {args : Arguments} {builtin : Builtin}
    (effect : Effect site args before builtin after) (leads : site.Leads allowed)
    (within : before.Within allowed) : after.Within allowed := by
  cases effect with
  | wait | terminateThisScript => exact within.sleepUntil _
  | startNewScript _ resolved started =>
    exact within.startThread (leads.target _ _ _ resolved) started
  | startNewScriptWithArgs _ _ _ _ resolved start set =>
    exact (within.startThread (leads.target _ _ _ resolved) start).setLocals set
  | startMission _ found started =>
    obtain ⟨mission, member, rfl⟩ := Behaviour.missionStart?_mem found
    exact within.startThread (leads.mission mission member) started
  | scriptName _ renamed =>
    refine within.changeThread ?_ renamed
    intro thread changed old isChanged
    cases isChanged
    exact ⟨old.pc, old.returns⟩
  | goto _ jumped => exact within.jump leads jumped
  | gotoIfFalse_true holds => exact within.of_schedule_eq before.resolveConditions_schedule holds
  | gotoIfFalse_false fails _ jumped =>
    have resolved := within.of_schedule_eq before.resolveConditions_schedule fails
    exact resolved.jump leads jumped
  | gosub _ called => exact within.call leads called
  | returnFromGosub returned => exact within.ret returned
  | andor _ _ opened => exact within.of_schedule_eq (before.openConditions_schedule _ _) opened
  | isIntVarGreaterThanNumber _ _ _ pushed | isIntVarEqualToNumber _ _ _ pushed =>
    exact within.of_schedule_eq (before.pushCondition_schedule site _) pushed
  | setVariable _ _ _ assigned => exact within.assign assigned
  | addValToIntVar _ _ _ _ _ assigned => exact within.assign assigned

end Effects

/-! ## 2. Ticks keep to allowed addresses -/

namespace Machine

/-- A tick keeps all threads at allowed addresses, when the instruction that it carries out leads to
allowed addresses only. A tick that fails moves no thread. -/
theorem tick_within {machine : Machine} {allowed : Nat → Prop}
    (builtinOnly : machine.registry.BuiltinOnly)
    (leads : ∀ step after, machine.cleared.prepare = .ok step →
      step.run machine.cleared.frame = (.ok (), after) → step.site.Leads allowed)
    (within : machine.schedule.Every (Thread.Within allowed)) :
    machine.tick.machine.schedule.Every (Thread.Within allowed) := by
  cases result : machine.tick.result with
  | error error =>
    rw [tick_schedule_of_error result]
    exact within
  | ok record =>
    obtain ⟨step, after, prepared, ran, accepted, _⟩ := tick_of_ok result
    obtain ⟨thread, entry, ready⟩ := prepare_ready prepared
    have leads := leads step after prepared ran
    have started : machine.cleared.frame.Within allowed := within
    have ended : after.Within allowed := by
      rcases ready.effect builtinOnly ran with ⟨_, rfl⟩ | ⟨builtin, _, _, effect⟩
      · exact started
      · exact effect.within leads started
    rw [accepted]
    unfold accept
    simp only
    -- Unless the instruction has said where its thread goes on, the thread goes on behind it.
    split
    · exact ended
    · exact ended.modify _ fun thread old => ⟨leads.next, old.returns⟩

/-! ## 3. Where a script can go on -/

/-- An address before main code, the start of a recorded instruction, or the end of memory. -/
def Allowed (loaded : Machine) (address : Nat) : Prop :=
  address < loaded.layout.mainCode.start ∨ address ∈ loaded.code.starts ∨
    address = loaded.memory.size

/-- The bytes from the start of main code on are those of the loaded script. -/
def CodeKept (loaded machine : Machine) : Prop :=
  ∀ index, loaded.layout.mainCode.start ≤ index →
    machine.memory.bytes[index]? = loaded.memory.bytes[index]?

theorem codeKept_iff_drop_eq {loaded machine : Machine} :
    loaded.CodeKept machine ↔
      machine.memory.bytes.toList.drop loaded.layout.mainCode.start =
        loaded.memory.bytes.toList.drop loaded.layout.mainCode.start := by
  rw [List.ext_getElem?_iff]
  simp only [List.getElem?_drop, Array.getElem?_toList]
  constructor
  · intro kept index
    exact kept _ (Nat.le_add_right _ index)
  · intro same index notBefore
    have atIndex := same (index - loaded.layout.mainCode.start)
    rw [Nat.add_sub_cancel' notBefore] at atIndex
    exact atIndex

instance (loaded machine : Machine) : Decidable (loaded.CodeKept machine) :=
  decidable_of_iff _ codeKept_iff_drop_eq.symm

/-- What loading has found out: the code map is a chain of instructions from the start of main code
to the end of memory. -/
structure Mapped (loaded : Machine) : Prop where
  start_pos : 0 < loaded.layout.mainCode.start
  start_le : loaded.layout.mainCode.start ≤ loaded.memory.size
  chain : CodeMap.Chain loaded.registry loaded.memory loaded.layout.mainCode.start
    loaded.code.starts.toList

theorem load_mapped {bytes : Array UInt8} {registry : Registry Handler} {config : Config}
    {loaded : Machine} (load : Machine.load bytes registry config = .ok loaded) :
    loaded.Mapped := by
  obtain ⟨layout, code, detect, build, rfl⟩ := load_eq_ok load
  obtain ⟨count, starts, detected⟩ := Layout.detect_detected detect
  exact ⟨detected.mainCode_start_pos, detected.mainCode_start_le, CodeMap.build_chain build⟩

section Script

variable {loaded machine : Machine}

theorem Mapped.startsAt_iff (mapped : loaded.Mapped) (address : Nat) :
    loaded.code.startsAt address = true ↔ address ∈ loaded.code.starts :=
  CodeMap.startsAt_iff_mem mapped.chain.ascending address

/-- Main code starts with an instruction, or it is empty. -/
theorem Mapped.start_allowed (mapped : loaded.Mapped) :
    loaded.Allowed loaded.layout.mainCode.start := by
  rcases Nat.lt_or_ge loaded.layout.mainCode.start loaded.memory.size with inside | past
  · exact Or.inr (Or.inl (Array.mem_toList_iff.1 (mapped.chain.address_mem inside)))
  · exact Or.inr (Or.inr (Nat.le_antisymm mapped.start_le past))

/-- At a recorded start, the decoder finds the instruction that the code map was made from. -/
theorem Mapped.decodes (mapped : loaded.Mapped) (kept : loaded.CodeKept machine) {address : Nat}
    (isStart : address ∈ loaded.code.starts) :
    ∃ instruction, loaded.registry.decode loaded.memory address = .ok instruction ∧
      loaded.registry.decode machine.memory address = .ok instruction ∧
      (instruction.next ∈ loaded.code.starts ∨ instruction.next = loaded.memory.size) := by
  have member := Array.mem_toList_iff.2 isStart
  obtain ⟨recorded, isRecorded, goesOn⟩ := mapped.chain.next_mem member
  have agree : ∀ index, address ≤ index → index < recorded.next →
      machine.memory.bytes[index]? = loaded.memory.bytes[index]? := by
    intro index notBefore _
    exact kept index (Nat.le_trans (mapped.chain.le_of_mem member) notBefore)
  exact ⟨recorded, isRecorded, Registry.decode_congr isRecorded agree,
    goesOn.imp Array.mem_toList_iff.1 id⟩

theorem Mapped.decode_kept (mapped : loaded.Mapped) (kept : loaded.CodeKept machine) {address : Nat}
    (isStart : address ∈ loaded.code.starts) {instruction : Instruction}
    (decoded : loaded.registry.decode machine.memory address = .ok instruction) :
    loaded.registry.decode loaded.memory address = .ok instruction ∧
      (instruction.next ∈ loaded.code.starts ∨ instruction.next = loaded.memory.size) := by
  obtain ⟨recorded, isRecorded, isKept, goesOn⟩ := mapped.decodes kept isStart
  cases decoded.symm.trans isKept
  exact ⟨isRecorded, goesOn⟩

/-- The address behind an instruction at an allowed address is allowed. -/
theorem next_allowed {address : Nat} {instruction : Instruction} (mapped : loaded.Mapped)
    (kept : loaded.CodeKept machine) (sameSize : machine.memory.size = loaded.memory.size)
    (isAllowed : loaded.Allowed address)
    (decoded : loaded.registry.decode machine.memory address = .ok instruction)
    (below : address < loaded.layout.mainCode.start →
      instruction.next ≤ loaded.layout.mainCode.start) :
    loaded.Allowed instruction.next := by
  rcases isAllowed with isBelow | isStart | isEnd
  · rcases Nat.lt_or_eq_of_le (below isBelow) with less | equal
    · exact Or.inl less
    · rw [equal]
      exact mapped.start_allowed
  · obtain ⟨_, goesOn⟩ := mapped.decode_kept kept isStart decoded
    exact Or.inr goesOn
  · -- At the end of memory there is nothing to decode.
    have progress := Registry.decode_lt_next decoded
    have inMemory := Registry.decode_next_le decoded
    omega

/-- An instruction that stands at an allowed address and is carried out leads to allowed addresses:
its targets have been validated, and the address behind it is allowed as well. -/
theorem leads_allowed {thread : Thread} {entry : Entry Handler} {step : Step}
    (mapped : loaded.Mapped) (kept : loaded.CodeKept machine) (same : loaded.SameScript machine)
    (validates : loaded.config.validateJumps = true)
    (missions : ∀ mission ∈ loaded.layout.missions, mission.first ∈ loaded.code.starts)
    (ready : machine.Ready thread entry step) (isAllowed : loaded.Allowed thread.pc)
    (below : step.site.instruction.address < loaded.layout.mainCode.start →
      step.site.instruction.next ≤ loaded.layout.mainCode.start) :
    step.site.Leads loaded.Allowed where
  target := by
    intro frame target address resolved
    obtain ⟨_, valid⟩ := Frame.resolveTarget_lands resolved
    rw [ready.config, ready.layout, ready.code, same.config, same.layout, same.code] at valid
    rcases Nat.lt_or_ge address loaded.layout.mainCode.start with before | inCode
    · exact Or.inl before
    · exact Or.inr (Or.inl ((mapped.startsAt_iff address).1 (valid validates inCode)))
  mission := by
    rw [ready.layout, same.layout]
    intro mission member
    exact Or.inr (Or.inl (missions mission member))
  next := by
    have decoded := ready.decoded
    unfold decode at decoded
    rw [same.registry] at decoded
    rw [Registry.decode_address decoded] at below
    exact next_allowed mapped kept same.size isAllowed decoded below

/-- One tick keeps all threads at allowed addresses. -/
theorem tick_allowed (mapped : loaded.Mapped) (kept : loaded.CodeKept machine)
    (same : loaded.SameScript machine) (validates : loaded.config.validateJumps = true)
    (builtinOnly : loaded.registry.BuiltinOnly)
    (missions : ∀ mission ∈ loaded.layout.missions, mission.first ∈ loaded.code.starts)
    (ends : ∀ record, machine.tick.result = .ok record →
      record.address < loaded.layout.mainCode.start →
      record.address + record.byteLength ≤ loaded.layout.mainCode.start)
    (within : machine.schedule.Every (Thread.Within loaded.Allowed)) :
    machine.tick.machine.schedule.Every (Thread.Within loaded.Allowed) := by
  refine tick_within (same.registry ▸ builtinOnly) ?_ within
  intro step after prepared ran
  obtain ⟨thread, entry, ready⟩ := prepare_ready prepared
  have keptCleared : loaded.CodeKept machine.cleared := kept
  have sameCleared : loaded.SameScript machine.cleared := same.trans machine.cleared_sameScript
  have isAllowed := (Schedule.Every.thread? within ready.found).pc
  refine leads_allowed mapped keptCleared sameCleared validates missions ready isAllowed ?_
  exact ends _ (congrArg Outcome.result (tick_eq_of_succeeded prepared ran))

/-- The machine starts with one thread, at the first address. -/
theorem load_within {bytes : Array UInt8} {registry : Registry Handler} {config : Config}
    (load : Machine.load bytes registry config = .ok loaded) :
    loaded.schedule.Every (Thread.Within loaded.Allowed) := by
  have isStart : loaded.schedule = (Schedule.empty.spawn 0 false).pass := by
    obtain ⟨layout, code, _, _, rfl⟩ := load_eq_ok load
    rfl
  have none : Schedule.empty.Every (Thread.Within loaded.Allowed) := by
    intro thread member
    cases member
  have main : (Thread.ofStart 0 0 0).Within loaded.Allowed :=
    ⟨Or.inl (load_mapped load).start_pos, fun address member => by cases member⟩
  rw [isStart]
  exact (none.append main).pass Thread.Within.wake

end Script

end Machine

/-- Control-flow integrity. Load a script with validated jumps, with built-in behaviours only, and
with every mission's start recorded in the code map. Take any number of ticks, successful or not, in
which the bytes of code keep their loaded values and no instruction that is carried out before main
code reaches over its start. Then the place of every thread, and every place it returns to, is
before main code, the start of a recorded instruction, or the end of memory; the code map and the
size of memory are still those of the loaded script. -/
theorem control_stays_allowed {bytes : Array UInt8} {registry : Registry Handler} {config : Config}
    {loaded : Machine} (load : Machine.load bytes registry config = .ok loaded)
    (validates : config.validateJumps = true) (builtinOnly : registry.BuiltinOnly)
    (missions : ∀ mission ∈ loaded.layout.missions, mission.first ∈ loaded.code.starts)
    (count : Nat)
    (kept : ∀ earlier < count, loaded.CodeKept (loaded.afterTicks earlier))
    (ends : ∀ earlier < count, ∀ record, (loaded.afterTicks earlier).tick.result = .ok record →
      record.address < loaded.layout.mainCode.start →
      record.address + record.byteLength ≤ loaded.layout.mainCode.start) :
    loaded.SameScript (loaded.afterTicks count) ∧
      ∀ thread ∈ (loaded.afterTicks count).schedule.threads,
        loaded.Allowed thread.pc ∧ ∀ address ∈ thread.returns, loaded.Allowed address := by
  have mapped := Machine.load_mapped load
  have settings : loaded.config = config ∧ loaded.registry = registry := by
    obtain ⟨layout, code, _, _, rfl⟩ := Machine.load_eq_ok load
    exact ⟨rfl, rfl⟩
  suffices within : (loaded.afterTicks count).schedule.Every (Thread.Within loaded.Allowed) by
    refine ⟨loaded.afterTicks_sameScript count, ?_⟩
    intro thread member
    exact ⟨(within thread member).pc, (within thread member).returns⟩
  induction count with
  | zero => exact Machine.load_within load
  | succ count ih =>
    have within := ih (fun earlier less => kept earlier (Nat.lt_succ_of_lt less))
      (fun earlier less => ends earlier (Nat.lt_succ_of_lt less))
    exact Machine.tick_allowed mapped (kept count (Nat.lt_succ_self count))
      (loaded.afterTicks_sameScript count) (settings.1 ▸ validates) (settings.2 ▸ builtinOnly)
      missions (ends count (Nat.lt_succ_self count)) within

namespace ControlFlowExample

/-- Main code calls a subroutine and then waits. The subroutine stores a number in a global variable
and starts the mission before it returns; the mission waits and then jumps to where it stands, by a
target that counts from its start. -/
def script : Array UInt8 := #[
  0x02, 0x00, 0x01, 0x0C, 0x00, 0x00, 0x00, 0x6D,
  0x00, 0x00, 0x00, 0x00,
  0x02, 0x00, 0x01, 0x18, 0x00, 0x00, 0x00, 0x00,
  0x00, 0x00, 0x00, 0x00,
  0x02, 0x00, 0x01, 0x30, 0x00, 0x00, 0x00, 0x00,
  0x00, 0x00, 0x00, 0x00, 0x00, 0x00, 0x00, 0x00, 0x01, 0x00, 0x00, 0x00, 0x49, 0x00, 0x00, 0x00,
  0x50, 0x00, 0x04, 0x3C,
  0x01, 0x00, 0x04, 0x00,
  0x02, 0x00, 0x04, 0x30,
  0x04, 0x00, 0x02, 0x08, 0x00, 0x04, 0x05,
  0x17, 0x04, 0x04, 0x00,
  0x51, 0x00,
  0x01, 0x00, 0x04, 0x00,
  0x02, 0x00, 0x04, 0xFC]

/-- Whether a tick starts with the loaded code and carries out no instruction over its start. -/
def staysApart (loaded machine : Machine) : Bool :=
  let start := loaded.layout.mainCode.start
  machine.memory.bytes.toList.drop start == loaded.memory.bytes.toList.drop start &&
    match machine.tick.result with
    | .ok record => start ≤ record.address || record.address + record.byteLength ≤ start
    | .error _ => true

theorem codeKept_of_staysApart {loaded machine : Machine}
    (apart : staysApart loaded machine = true) : loaded.CodeKept machine :=
  Machine.codeKept_iff_drop_eq.2 (eq_of_beq (Bool.and_eq_true_iff.1 apart).1)

theorem ends_of_staysApart {loaded machine : Machine} (apart : staysApart loaded machine = true)
    {record : TickRecord} (success : machine.tick.result = .ok record)
    (below : record.address < loaded.layout.mainCode.start) :
    record.address + record.byteLength ≤ loaded.layout.mainCode.start := by
  have ends := (Bool.and_eq_true_iff.1 apart).2
  simp only [success, Bool.or_eq_true, decide_eq_true_eq] at ends
  omega

/-- After seven ticks one thread is in the subroutine and the other in the mission. -/
abbrev ReachesMission (loaded : Machine) : Prop :=
  loaded.layout.missions ≠ [] ∧
  (∀ mission ∈ loaded.layout.missions, mission.first ∈ loaded.code.starts) ∧
  (∀ earlier < 7, staysApart loaded (loaded.afterTicks earlier) = true) ∧
  (loaded.afterTicks 7).schedule.threads.map (fun thread => (thread.pc, thread.returns)) =
    [(71, [52]), (77, [])]

end ControlFlowExample

open ControlFlowExample in
/-- The script meets the conditions for seven ticks. The return address of the call and the place of
the mission's thread are then recorded starts. -/
theorem subroutine_and_mission_stay_allowed :
    ∃ registry loaded, Registry.builtin = .ok registry ∧
      Machine.load script registry {} = .ok loaded ∧ loaded.layout.missions ≠ [] ∧
      (loaded.afterTicks 7).schedule.threads.map (fun thread => (thread.pc, thread.returns)) =
        [(71, [52]), (77, [])] ∧
      ∀ thread ∈ (loaded.afterTicks 7).schedule.threads,
        loaded.Allowed thread.pc ∧ ∀ address ∈ thread.returns, loaded.Allowed address := by
  obtain ⟨registry, loaded, built, load, nonempty, missions, apart, places⟩ :=
    Machine.exists_loaded_of_evaluation Registry.builtin script {} ReachesMission
      (by decide +kernel)
  have stays := control_stays_allowed load rfl (Registry.builtin_builtinOnly built) missions 7
    (fun earlier less => codeKept_of_staysApart (apart earlier less))
    (fun earlier less _ => ends_of_staysApart (apart earlier less))
  exact ⟨registry, loaded, built, load, nonempty, places, stays.2⟩

end MissionScript
