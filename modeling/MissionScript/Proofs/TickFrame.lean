import MissionScript.Proofs.JumpGraph
import MissionScript.Proofs.Turns

/-!
# What one tick leaves alone

With built-in behaviours only, one look at an instruction tells what its tick can change. The thread
that runs may change in any way but its role; all other threads stay as they are, except that the one
that runs next is awake. One thread is added if the instruction starts one. Memory changes at most in
the global variable that a store names as its first argument, and the condition block only by the
instructions that are about it.

Control may pass in the middle of an instruction, and what the instruction does after that still
reaches its own thread and the one that it has started, not the one that has control by then.

Results:
1. `Arguments.operand_of_place`: the variable that is stored to is the one on the face of the
   instruction.
2. `Machine.Ready.reach_of_opcode`: what an instruction reaches, read off its opcode.
3. `tick_keeps_rest`: what one tick leaves alone, after every run.
-/

namespace MissionScript

/-! ## 1. Stores -/

/-- The address of the global variable that the instruction stores to, if it does. -/
def Instruction.storesTo? (instruction : Instruction) : Option Nat :=
  if instruction.opcode ∈ Builtin.stores.map Builtin.opcode then
    match instruction.args.head?.map Argument.operand with
    | some (.globalVar address) => some address
    | _ => none
  else none

namespace Builtin

variable {builtin : Builtin}

theorem opcode_mem_map {builtins : List Builtin} :
    builtin.opcode ∈ builtins.map opcode ↔ builtin ∈ builtins := by
  constructor
  · intro member
    obtain ⟨other, isMember, same⟩ := List.mem_map.1 member
    exact opcode_injective same ▸ isMember
  · exact List.mem_map_of_mem

theorem params_of_mem_stores (isStore : builtin ∈ stores) :
    builtin.params.head? = some ⟨"var", .single .var⟩ := by
  revert builtin
  decide

end Builtin

namespace Arguments

/-- Only a global variable is resolved to the place of one. -/
theorem operand_of_resolveOne {source : Source} {constraint : Constraint} {index : Nat}
    {argument : Argument} {value : ArgValue} {address : Nat}
    (success : resolveOne source constraint index argument = .ok value)
    (isGlobal : value.place? = some (.global address)) : argument.operand = .globalVar address := by
  unfold resolveOne at success
  simp only at success
  split at success
  · cases success
  · split at success
    · cases success
      cases isGlobal
    · cases success
      cases isGlobal
    · cases success
      cases isGlobal
    · next operand =>
      obtain ⟨held, _, rfl⟩ := except_map_eq_ok.1 success
      cases isGlobal
      exact operand
    · obtain ⟨held, _, rfl⟩ := except_map_eq_ok.1 success
      cases isGlobal
    · cases success

theorem operand_of_place {definition : Definition} {instruction : Instruction} {memory : Memory}
    {thread : Thread} {now address : Nat} {args : Arguments} {name : String}
    {constraint : Constraint} (params : definition.params.head? = some ⟨name, .single constraint⟩)
    (success : resolve definition instruction memory thread now = .ok args)
    (isGlobal : args.place name = .ok (.global address)) :
    instruction.args.head?.map Argument.operand = some (.globalVar address) := by
  obtain ⟨others, isParams⟩ := List.head?_eq_some_iff.1 params
  obtain ⟨⟨named, variadic⟩, resolved, rfl⟩ := except_map_eq_ok.1 success
  rw [isParams] at resolved
  simp only [resolveParams] at resolved
  split at resolved
  · cases resolved
  · next argument rest isArgs =>
    split at resolved
    · cases resolved
    · next value isValue =>
      obtain ⟨tail, _, same⟩ := except_map_eq_ok.1 resolved
      cases same
      obtain ⟨found, isFound, place⟩ := except_bind_eq_ok.1 isGlobal
      have isFirst : value = found := by simpa [get] using isFound
      subst isFirst
      rw [isArgs, List.head?_cons, Option.map_some]
      refine congrArg some (operand_of_resolveOne isValue ?_)
      split at place
      · next isPlace =>
        cases place
        exact isPlace
      · cases place

end Arguments

/-! ## 2. Instructions -/

namespace Machine

/-- Where all built-ins are known and nothing else has a behaviour, the opcode and the first argument
tell what an instruction reaches. -/
theorem Ready.reach_of_opcode {machine : Machine} {thread : Thread} {entry : Entry Handler}
    {step : Step} {before after : Frame} (ready : machine.Ready thread entry step)
    (builtinOnly : machine.registry.BuiltinOnly) (hasBuiltins : machine.registry.HasBuiltins)
    (success : step.run before = (.ok (), after)) :
    let instruction := step.site.instruction
    (∃ passes, before.schedule.Turn step.site
      (instruction.opcode ∈ Builtin.starters.map Builtin.opcode) passes after.schedule) ∧
    (after.memory = before.memory ∨ ∃ address dataType data,
      instruction.storesTo? = some address ∧ data.length = cellWidth ∧
      before.memory.allocate address dataType data = .ok after.memory) ∧
    (after.conditions = before.conditions ∨
      instruction.opcode ∈ Builtin.conditionals.map Builtin.opcode) := by
  intro instruction
  rcases ready.reach builtinOnly success with ⟨unbound, rfl⟩ | ⟨builtin, isOpcode, _, reach⟩
  · -- An instruction without a behaviour is no built-in.
    have noStarter : instruction.opcode ∉ Builtin.starters.map Builtin.opcode := by
      intro member
      obtain ⟨builtin, _, isOpcode⟩ := List.mem_map.1 member
      cases unbound.symm.trans (ready.known_of_opcode hasBuiltins isOpcode).2
    refine ⟨⟨false, ?_⟩, Or.inl rfl, Or.inl rfl⟩
    rw [decide_eq_false noStarter]
    exact .stay (.refl _ _)
  · refine ⟨⟨builtin.passesControl step.site.config, ?_⟩, reach.memory.imp_right ?_,
      reach.conditions.imp_right ?_⟩
    · have sameKind : (instruction.opcode ∈ Builtin.starters.map Builtin.opcode) ↔
          builtin ∈ Builtin.starters := by
        rw [← isOpcode]
        exact Builtin.opcode_mem_map
      rw [decide_eq_decide.2 sameKind]
      exact reach.turn
    · rintro ⟨isStore, address, dataType, data, place, four, made⟩
      have params : entry.definition.params.head? = some ⟨"var", .single .var⟩ := by
        rw [(ready.known_of_opcode hasBuiltins isOpcode).1]
        exact Builtin.params_of_mem_stores isStore
      refine ⟨address, dataType, data, ?_, four, made⟩
      rw [Instruction.storesTo?, ← isOpcode, if_pos (Builtin.opcode_mem_map.2 isStore),
        Arguments.operand_of_place params ready.resolved place]
    · intro isConditional
      rw [← isOpcode]
      exact Builtin.opcode_mem_map.2 isConditional

/-! ## 3. Ticks -/

/-- What the tick of an instruction leaves alone, `runner` being the thread that runs. -/
structure KeepsRest (runner : Nat) (instruction : Instruction) (before after : Machine) :
    Prop where
  /-- Another thread is at most woken, and then it runs next. -/
  others : ∀ id thread, id ≠ runner → before.schedule.thread? id = some thread →
    after.schedule.thread? id =
      some (if after.schedule.current? = some id then { thread with wake := .awake } else thread)
  role : ∃ thread changed, before.schedule.thread? runner = some thread ∧
    after.schedule.thread? runner = some changed ∧ changed.role = thread.role
  length : after.schedule.threads.length = before.schedule.threads.length +
    if instruction.opcode ∈ Builtin.starters.map Builtin.opcode then 1 else 0
  size : after.memory.size = before.memory.size
  bytes : ∀ index, (∀ address, instruction.storesTo? = some address →
      index < address ∨ address + cellWidth ≤ index) →
    after.memory.bytes[index]? = before.memory.bytes[index]?
  cells : ∀ address, instruction.storesTo? ≠ some address →
    after.memory.cell? address = before.memory.cell? address
  conditions : instruction.opcode ∉ Builtin.conditionals.map Builtin.opcode →
    after.conditions = before.conditions
  time : after.schedule.time = before.schedule.time + 1
  ticks : after.ticks = before.ticks + 1

theorem Ready.keepsRest {machine : Machine} {thread : Thread} {entry : Entry Handler} {step : Step}
    {after : Frame} (ready : machine.cleared.Ready thread entry step)
    (builtinOnly : machine.registry.BuiltinOnly) (hasBuiltins : machine.registry.HasBuiltins)
    (ran : step.run machine.cleared.frame = (.ok (), after)) :
    KeepsRest step.site.thread step.site.instruction machine
      (machine.cleared.accept step after) := by
  obtain ⟨⟨passes, turn⟩, memory, conditions⟩ :=
    ready.reach_of_opcode builtinOnly hasBuiltins ran
  obtain ⟨schedule, isSchedule, edits⟩ := machine.cleared.accept_edits step after
  have whole := turn.edit edits
  constructor
  case others =>
    intro id other apart found
    rw [isSchedule]
    exact whole.others ready.current apart found
  case role =>
    have kept := whole.roles ready.found
    obtain ⟨changed, isChanged, sameRole⟩ := Option.map_eq_some_iff.1 kept
    refine ⟨thread, changed, ready.found, ?_, sameRole⟩
    rw [isSchedule]
    exact isChanged
  case length =>
    have grown := whole.length
    simp only [decide_eq_true_eq] at grown
    rw [isSchedule]
    exact grown
  case size =>
    have ranSize : after.memory.size = machine.cleared.memory.size := run_memory_size ran
    exact ranSize
  case bytes =>
    intro index outside
    rcases memory with same | ⟨address, dataType, data, isStore, four, made⟩
    · exact congrArg (fun memory => memory.bytes[index]?) same
    · refine (Memory.allocate_keeps made).1 index ?_
      have apart := outside address isStore
      rw [four]
      omega
  case cells =>
    intro address apart
    rcases memory with same | ⟨stored, dataType, data, isStore, four, made⟩
    · exact congrArg (fun memory => memory.cell? address) same
    · refine (Memory.allocate_keeps made).2 address ?_
      rintro rfl
      exact apart isStore
  case conditions => exact fun notAbout => conditions.resolve_right notAbout
  case time =>
    rw [isSchedule]
    exact congrArg (· + 1) whole.time
  case ticks => rfl

end Machine

/-- Whatever has happened before, a tick that succeeds leaves everything alone but what its
instruction is about. The instruction is the one that stands at the recorded address. -/
theorem tick_keeps_rest {bytes : Array UInt8} {registry : Registry Handler} {config : Config}
    {loaded : Machine} (load : Machine.load bytes registry config = .ok loaded)
    (builtinOnly : registry.BuiltinOnly) (hasBuiltins : registry.HasBuiltins)
    (requests : List Request) {record : TickRecord} :
    let machine := loaded.serveAll requests
    machine.tick.result = .ok record →
    ∃ instruction, machine.decode record.address = .ok instruction ∧
      instruction.opcode = record.opcode ∧
      Machine.KeepsRest record.thread instruction machine machine.tick.machine := by
  intro machine success
  obtain ⟨step, after, prepared, ran, accepted, rfl⟩ := Machine.tick_of_ok success
  obtain ⟨thread, entry, ready⟩ := Machine.prepare_ready prepared
  have isRegistry : machine.registry = registry := Machine.serveAll_registry load requests
  refine ⟨step.site.instruction, ?_, rfl, ?_⟩
  · have isAddress : step.site.instruction.address = thread.pc :=
      Registry.decode_address ready.decoded
    show machine.decode step.site.instruction.address = .ok step.site.instruction
    rw [isAddress]
    exact Registry.decode_congr ready.decoded fun _ _ _ => rfl
  · rw [accepted]
    exact ready.keepsRest (isRegistry ▸ builtinOnly) (isRegistry ▸ hasBuiltins) ran

/-! ## A store and a wait -/

namespace TickFrameExample

/-- The main thread is about to store a number in the subroutine. -/
def beforeStore : List Request := List.replicate 4 .tick

/-- The mission has been started and is about to wait. -/
def beforeWait : List Request := List.replicate 6 .tick

/-- The main thread stores to the global variable at 8. The mission waits, and the main thread has
control afterwards. -/
abbrev StoresAndWaits (loaded : Machine) : Prop :=
  (∃ record ∈ (loaded.serveAll beforeStore).tick.result.toOption,
    record.thread = 0 ∧ record.address = 60) ∧
  ((loaded.serveAll beforeStore).decode 60).toOption.bind Instruction.storesTo? = some 8 ∧
  (∃ record ∈ (loaded.serveAll beforeWait).tick.result.toOption, record.thread = 1) ∧
  (loaded.serveAll beforeWait).tick.machine.schedule.current? = some 0

end TickFrameExample

open ControlFlowExample TickFrameExample in
/-- The store changes memory between addresses 8 and 12 at most. The wait of the mission wakes the main
thread and changes nothing else in it. -/
theorem store_and_wait_keep_rest :
    ∃ registry loaded store wait, Registry.builtin = .ok registry ∧
      Machine.load script registry {} = .ok loaded ∧
      (loaded.serveAll beforeStore).tick.result = .ok store ∧ store.thread = 0 ∧
      (∀ index, index < 8 ∨ 12 ≤ index →
        (loaded.serveAll beforeStore).tick.machine.memory.bytes[index]? =
          (loaded.serveAll beforeStore).memory.bytes[index]?) ∧
      (loaded.serveAll beforeWait).tick.result = .ok wait ∧ wait.thread = 1 ∧
      ∀ thread, (loaded.serveAll beforeWait).schedule.thread? 0 = some thread →
        (loaded.serveAll beforeWait).tick.machine.schedule.thread? 0 =
          some { thread with wake := .awake } := by
  obtain ⟨registry, loaded, built, load, ⟨store, okStore, isMain, address⟩, storesTo,
      ⟨wait, okWait, byMission⟩, current⟩ :=
    Machine.exists_loaded_of_evaluation Registry.builtin script {} StoresAndWaits
      (by decide +kernel)
  have stored := except_toOption_eq_some.1 okStore
  have waited := except_toOption_eq_some.1 okWait
  obtain ⟨storeAt, decoded, _, keptByStore⟩ := tick_keeps_rest load
    (Registry.builtin_builtinOnly built) (Registry.builtin_hasBuiltins built) beforeStore stored
  obtain ⟨_, _, _, keptByWait⟩ := tick_keeps_rest load
    (Registry.builtin_builtinOnly built) (Registry.builtin_hasBuiltins built) beforeWait waited
  refine ⟨registry, loaded, store, wait, built, load, stored, isMain, ?_, waited, byMission, ?_⟩
  · intro index outside
    have target : storeAt.storesTo? = some 8 := by
      rw [address] at decoded
      rw [decoded] at storesTo
      exact storesTo
    refine keptByStore.bytes index fun other isOther => ?_
    cases target.symm.trans isOther
    exact outside
  · intro thread found
    have apart : 0 ≠ wait.thread := by
      rw [byMission]
      decide
    rw [keptByWait.others 0 thread apart found, if_pos current]

end MissionScript
