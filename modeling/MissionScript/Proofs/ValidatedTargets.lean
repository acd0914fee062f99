import MissionScript.Proofs.TickFrame

/-!
# Validated targets

Six built-ins send a thread somewhere: three of them their own thread, three of them a new one. Where
jumps are validated, an address in code should only be reached at the start of an instruction. Five of
the six take a label, and a label is looked up in the code map before it is used. The sixth takes the
number of a mission. Its address comes from the mission table, which is checked when the script is
loaded, for lying in code and in memory and for nothing else.

So validation has one gap, and a script can use it: a mission that starts in the middle of an
instruction is started there (`mission_starts_inside_instruction`). A script without such a mission
cannot (`transfers_validated`).

Results:
1. `Machine.TransfersTo.destination`: the address that a tick sends a thread to has been validated, or
   it is the start of a mission.
2. `transfers_validated`: what validation promises about it.
-/

namespace MissionScript

namespace Machine

variable {machine : Machine} {record : TickRecord}

/-- A tick that says where its thread goes on, or that starts a thread, sends a thread somewhere. -/
theorem exists_transfersTo (builtinOnly : machine.registry.BuiltinOnly)
    (hasBuiltins : machine.registry.HasBuiltins) (success : machine.tick.result = .ok record)
    (moves : record.jumped = true ∨ record.opcode ∈ Builtin.starters.map Builtin.opcode) :
    ∃ address, machine.TransfersTo record address := by
  obtain ⟨step, after, prepared, ran, accepted, rfl⟩ := tick_of_ok success
  obtain ⟨thread, entry, ready⟩ := prepare_ready prepared
  have kept := ready.keepsRest builtinOnly hasBuiltins ran
  rw [← accepted] at kept
  rcases moves with jumped | starts
  · obtain ⟨_, changed, _, isChanged, _⟩ := kept.role
    exact ⟨changed.pc, Or.inl ⟨jumped, congrArg (Option.map Thread.pc) isChanged⟩⟩
  · have isStarter : step.site.instruction.opcode ∈ Builtin.starters.map Builtin.opcode := starts
    have grown : machine.schedule.nextId < machine.tick.machine.schedule.threads.length := by
      rw [kept.length, if_pos isStarter]
      exact Nat.lt_succ_self _
    have isNew := List.getElem?_eq_getElem grown
    exact ⟨_, Or.inr (congrArg (Option.map Thread.pc) isNew)⟩

/-- The address that a thread is sent to has been validated, or it is the start of a mission. -/
theorem TransfersTo.destination (builtinOnly : machine.registry.BuiltinOnly)
    (success : machine.tick.result = .ok record) {builtin : Builtin}
    (isTransfer : builtin ∈ Builtin.transfers) (opcode : record.opcode = builtin.opcode)
    {address : Nat} (transfers : machine.TransfersTo record address) :
    (address < machine.memory.size ∧ (machine.config.validateJumps = true →
      machine.layout.mainCode.start ≤ address → machine.code.startsAt address = true)) ∨
      builtin = .startMission ∧ ∃ mission ∈ machine.layout.missions, mission.first = address := by
  obtain ⟨step, after, prepared, ran, accepted, rfl⟩ := tick_of_ok success
  obtain ⟨thread, entry, ready⟩ := prepare_ready prepared
  obtain ⟨_, effect, sends⟩ := transfers.effect ready builtinOnly ran accepted opcode
  rcases effect.destination isTransfer rfl sends with ⟨target, _, resolved⟩ | started
  · have lands := Frame.resolveTarget_lands resolved
    rw [ready.config, ready.layout, ready.code] at lands
    exact Or.inl lands
  · rw [ready.layout] at started
    exact Or.inr started

/-- What loading has found out about missions. -/
theorem load_mission_inside {bytes : Array UInt8} {registry : Registry Handler} {config : Config}
    {loaded : Machine} (load : Machine.load bytes registry config = .ok loaded) {mission : Mission}
    (member : mission ∈ loaded.layout.missions) :
    loaded.layout.mainCode.start ≤ mission.first ∧ mission.first < loaded.memory.size := by
  obtain ⟨layout, code, detect, _, rfl⟩ := load_eq_ok load
  obtain ⟨_, _, detected⟩ := Layout.detect_detected detect
  exact detected.mission_inside member

end Machine

/-- What validation promises. Load a script with validated jumps and built-in behaviours only, and let
its host ask for any ticks and moves of threads. A tick that jumps by a label, or starts a thread, sends
it to some address. This address lies in memory. If it lies in code, it is the start of a recorded
instruction, except that a mission may have been started at the address that the mission table says. -/
theorem transfers_validated {bytes : Array UInt8} {registry : Registry Handler} {config : Config}
    {loaded : Machine} (load : Machine.load bytes registry config = .ok loaded)
    (validates : config.validateJumps = true) (builtinOnly : registry.BuiltinOnly)
    (hasBuiltins : registry.HasBuiltins) (requests : List Request) {record : TickRecord}
    (success : (loaded.serveAll requests).tick.result = .ok record) {builtin : Builtin}
    (isTransfer : builtin ∈ [.goto, .gotoIfFalse, .gosub, .startNewScript, .startNewScriptWithArgs,
      .startMission])
    (opcode : record.opcode = builtin.opcode) :
    (record.jumped = true ∨ builtin ∈ Builtin.starters →
      ∃ address, (loaded.serveAll requests).TransfersTo record address) ∧
    ∀ address, (loaded.serveAll requests).TransfersTo record address →
      address < loaded.memory.size ∧
        (loaded.layout.mainCode.start ≤ address → address ∈ loaded.code.starts ∨
          builtin = .startMission ∧ ∃ mission ∈ loaded.layout.missions, mission.first = address) := by
  have same := loaded.serveAll_sameScript requests
  have isRegistry : (loaded.serveAll requests).registry = registry :=
    Machine.serveAll_registry load requests
  have isConfig : loaded.config = config := by
    obtain ⟨layout, code, _, _, rfl⟩ := Machine.load_eq_ok load
    rfl
  constructor
  · intro moves
    refine Machine.exists_transfersTo (isRegistry ▸ builtinOnly) (isRegistry ▸ hasBuiltins) success ?_
    rw [opcode]
    exact moves.imp_right Builtin.opcode_mem_map.2
  · intro address transfers
    have destination := transfers.destination (isRegistry ▸ builtinOnly) success isTransfer opcode
    rw [same.size, same.config, same.layout, same.code, isConfig] at destination
    rcases destination with ⟨inside, valid⟩ | ⟨rfl, mission, member, rfl⟩
    · refine ⟨inside, fun inCode => Or.inl ?_⟩
      exact ((Machine.load_mapped load).startsAt_iff address).1 (valid validates inCode)
    · refine ⟨(Machine.load_mission_inside load member).2, fun _ => Or.inr ?_⟩
      exact ⟨rfl, mission, member, rfl⟩

/-! ## A subroutine, and a mission in the middle of an instruction -/

namespace ValidatedTargetsExample

/-- A script before its fourth tick, which is the first one in main code. -/
def inMain (loaded : Machine) : Machine := loaded.serveAll (List.replicate 3 .tick)

/-- Main code starts the mission and jumps to where it stands. According to the mission table, the
mission starts at address 54, which is inside of the jump. -/
def script : Array UInt8 := #[
  0x02, 0x00, 0x01, 0x0C, 0x00, 0x00, 0x00, 0x6D,
  0x00, 0x00, 0x00, 0x00,
  0x02, 0x00, 0x01, 0x18, 0x00, 0x00, 0x00, 0x00,
  0x00, 0x00, 0x00, 0x00,
  0x02, 0x00, 0x01, 0x30, 0x00, 0x00, 0x00, 0x00,
  0x00, 0x00, 0x00, 0x00, 0x00, 0x00, 0x00, 0x00, 0x01, 0x00, 0x00, 0x00, 0x36, 0x00, 0x00, 0x00,
  0x17, 0x04, 0x04, 0x00,
  0x02, 0x00, 0x01, 0x34, 0x00, 0x00, 0x00]

/-- The fourth tick carries out an instruction that sends a thread to an address. -/
abbrev SendsTo (opcode : Opcode) (address : Nat) (loaded : Machine) : Prop :=
  ∃ record ∈ (inMain loaded).tick.result.toOption,
    record.opcode = opcode ∧ (inMain loaded).TransfersTo record address

end ValidatedTargetsExample

open ValidatedTargetsExample in
/-- The call of a subroutine leads to a recorded start. -/
theorem subroutine_validated :
    ∃ registry loaded record, Registry.builtin = .ok registry ∧
      Machine.load ControlFlowExample.script registry {} = .ok loaded ∧
      (inMain loaded).tick.result = .ok record ∧ record.opcode = Builtin.gosub.opcode ∧
      (inMain loaded).TransfersTo record 60 ∧ 60 ∈ loaded.code.starts := by
  obtain ⟨registry, loaded, built, load, ⟨record, ok, opcode, transfers⟩, isMain⟩ :=
    Machine.exists_loaded_of_evaluation Registry.builtin ControlFlowExample.script {}
      (fun loaded => SendsTo Builtin.gosub.opcode 60 loaded ∧ loaded.layout.mainCode.start = 48)
      (by decide +kernel)
  have success := except_toOption_eq_some.1 ok
  refine ⟨registry, loaded, record, built, load, success, opcode, transfers, ?_⟩
  obtain ⟨_, validated⟩ := transfers_validated load rfl (Registry.builtin_builtinOnly built)
    (Registry.builtin_hasBuiltins built) (List.replicate 3 .tick) success (by decide) opcode
  have inCode : loaded.layout.mainCode.start ≤ 60 := by
    rw [isMain]
    decide
  exact ((validated 60 transfers).2 inCode).resolve_right fun isMission => by cases isMission.1

open ValidatedTargetsExample in
/-- Although jumps are validated, the mission is started at an address in code that is not the start of
an instruction. -/
theorem mission_starts_inside_instruction :
    ∃ registry loaded record, Registry.builtin = .ok registry ∧
      Machine.load script registry {} = .ok loaded ∧ loaded.config.validateJumps = true ∧
      (inMain loaded).tick.result = .ok record ∧ record.opcode = Builtin.startMission.opcode ∧
      (inMain loaded).TransfersTo record 54 ∧ loaded.layout.mainCode.start ≤ 54 ∧
      54 ∉ loaded.code.starts := by
  obtain ⟨registry, loaded, built, load, ⟨record, ok, opcode, transfers⟩, isMain, isStarts⟩ :=
    Machine.exists_loaded_of_evaluation Registry.builtin script {}
      (fun loaded => SendsTo Builtin.startMission.opcode 54 loaded ∧
        loaded.layout.mainCode.start = 48 ∧ loaded.code.starts.toList = [48, 52])
      (by decide +kernel)
  have success := except_toOption_eq_some.1 ok
  have validates : loaded.config.validateJumps = true := by
    obtain ⟨layout, code, _, _, rfl⟩ := Machine.load_eq_ok load
    rfl
  refine ⟨registry, loaded, record, built, load, validates, success, opcode, transfers, ?_, ?_⟩
  · rw [isMain]
    decide
  · rw [← Array.mem_toList_iff, isStarts]
    decide

end MissionScript
