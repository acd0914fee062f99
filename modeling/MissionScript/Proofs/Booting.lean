import MissionScript.Proofs.JumpGraph
import MissionScript.Proofs.Regions

/-!
# Booting

A script is accepted for what stands before its code: three jumps, each over one region to the next,
the last one to main code. A script that runs starts at address zero and comes upon these jumps one
after the other. Detection has read them statically. That they can be carried out is another matter:
arguments are resolved, targets are validated against the code map, and the scheduler has to leave
the main thread alone. This module shows that nothing gets in the way: three ticks after it was
loaded, a script stands at the start of its main code, and nothing else has happened.

Main code has to start where the last jump leads, and inside memory. Both can fail for an accepted
script, since the mission table may be shorter than its region.

Results:
1. `Machine.tick_of_jump`: when a jump by a literal is carried out, and what it leaves.
2. `Layout.Introduced.tick_standing`: the jump over a region is carried out.
3. `accepted_script_boots`: the first three ticks.
-/

namespace MissionScript

/-! ## 1. Jumps by a literal -/

/-- A literal is an integer of one of the three widths, and passes as a label. -/
theorem Argument.accepts_of_int {argument : Argument} {target : Int32}
    (literal : argument.operand = .int target) :
    Constraint.intOrVar.accepts argument.dataType = true := by
  obtain ⟨dataType, payload⟩ := argument
  cases dataType with
  | int8 | int16 | int32 => rfl
  | endMarker | float32 | globalVar | localVar | string8 | varString | inlineString => cases literal

/-- A label that is a literal can be resolved whatever variables hold. -/
theorem Arguments.resolve_literal {definition : Definition} {instruction : Instruction}
    {target : Int32} (params : definition.params = [⟨"label", .single .intOrVar⟩])
    (immediate : instruction.immediate? = some target) (memory : Memory) (thread : Thread)
    (now : Nat) :
    ∃ args, resolve definition instruction memory thread now = .ok args ∧
      args.int "label" = .ok target := by
  obtain ⟨argument, rest, isArgs, literal⟩ := Instruction.immediate?_eq_some immediate
  refine ⟨⟨definition.opcode, [("label", ⟨argument.dataType, .int target, none⟩)], []⟩, ?_, rfl⟩
  rw [resolve, params, isArgs]
  simp only [resolveParams, resolveOne, Argument.accepts_of_int literal, literal]
  rfl

/-- A target that is not negative is found if it lies in memory and is valid. -/
theorem Frame.resolveTarget_of_nonneg {site : Site} {frame : Frame} {target : Int32}
    (nonneg : 0 ≤ target.toInt) (inside : target.toInt.toNat < frame.memory.size)
    (valid : site.layout.mainCode.start ≤ target.toInt.toNat →
      site.code.startsAt target.toInt.toNat = true) :
    frame.resolveTarget site target = .ok target.toInt.toNat := by
  unfold resolveTarget
  simp only [if_pos nonneg]
  rw [if_neg (Nat.not_le_of_lt inside), if_neg]
  rintro ⟨_, inCode, unrecorded⟩
  cases unrecorded.symm.trans (valid inCode)

namespace Machine

/-- A jump by a literal that leads to a valid address in memory is carried out: its thread goes on
there, the clock advances, and nothing else happens. -/
theorem tick_of_jump {machine : Machine} (hasBuiltins : machine.registry.HasBuiltins) {id : Nat}
    {thread : Thread} (current : machine.schedule.current? = some id)
    (found : machine.schedule.thread? id = some thread) {jump : Instruction}
    (decoded : machine.decode thread.pc = .ok jump) (opcode : jump.opcode = Builtin.goto.opcode)
    {target : Int32} (immediate : jump.immediate? = some target) (nonneg : 0 ≤ target.toInt)
    (inside : target.toInt.toNat < machine.memory.size)
    (valid : machine.layout.mainCode.start ≤ target.toInt.toNat →
      machine.code.startsAt target.toInt.toNat = true) :
    machine.tick.result = .ok {
      tick := machine.ticks + 1, thread := id, address := thread.pc, opcode := Builtin.goto.opcode
      negated := jump.negated, byteLength := jump.byteLength, jumped := true } ∧
    machine.tick.machine = { machine with
      memory := { machine.memory with dirty := [], journal? := none }
      schedule := (machine.schedule.modify id fun _ =>
        { thread with pc := target.toInt.toNat }).advance
      ticks := machine.ticks + 1 } := by
  obtain ⟨entry, known, _, params, handler⟩ := hasBuiltins .goto
  obtain ⟨args, resolved, label⟩ := Arguments.resolve_literal params immediate
    machine.cleared.memory thread machine.schedule.time
  let site : Site := {
    layout := machine.layout, code := machine.code, config := machine.config
    thread := id, instruction := jump, definition := entry.definition }
  have ready : machine.cleared.Ready thread entry ⟨site, args, entry.handler?⟩ := {
    current, found, resolved
    decoded := Registry.decode_congr decoded fun _ _ _ => rfl
    known := opcode ▸ known
    definition := rfl, handler := rfl, layout := rfl, code := rfl, config := rfl }
  have landed : machine.cleared.frame.jump site target = (.ok (), { machine.cleared.frame with
      schedule := machine.schedule.modify id fun _ => { thread with pc := target.toInt.toNat }
      jumped := true }) :=
    Frame.jump_eq_ok.2 ⟨_, Frame.resolveTarget_of_nonneg nonneg inside valid,
      Frame.setPc_eq_ok.2 ⟨thread, found, rfl⟩⟩
  have ran : Step.run ⟨site, args, entry.handler?⟩ machine.cleared.frame = (.ok (), _) :=
    (ready.run_of_opcode hasBuiltins opcode.symm _).trans
      (Program.run_lift_bind_eq_ok.2 ⟨target, label, landed⟩)
  have isAddress : jump.address = thread.pc := Registry.decode_address decoded
  rw [tick_eq_of_succeeded ready.prepare_eq ran]
  refine ⟨?_, rfl⟩
  simp only [record, site, isAddress, opcode]
  rfl

end Machine

/-! ## 2. Jumps over regions -/

/-- The machine that was loaded, when nothing has happened but that its main thread has come to an
address in a number of ticks. -/
def Machine.standing (loaded : Machine) (pc count : Nat) : Machine :=
  { loaded with
    schedule := ⟨[{ Thread.ofStart 0 0 0 with pc }], some 0, count⟩
    ticks := count }

/-- The record of a jump of the main thread. -/
def TickRecord.ofJump (tick address : Nat) (jump : Instruction) : TickRecord where
  tick
  thread := 0
  address
  opcode := Builtin.goto.opcode
  negated := jump.negated
  byteLength := jump.byteLength
  jumped := true

namespace Layout.Introduced

variable {variant : Variant} {region : Region} {offset : Nat} {jump : Instruction} {target : Int32}
  {span : Span}

/-- A region ends behind the jump over it. -/
theorem offset_lt_stop {H : Type} {registry : Registry H} {memory : Memory}
    (introduced : Introduced registry memory variant region offset jump target span) :
    offset < span.stop :=
  Nat.lt_of_lt_of_le introduced.offset_lt_start introduced.start_le

/-- Where another jump follows there is memory. -/
theorem stop_lt_size {H : Type} {registry : Registry H} {memory : Memory}
    (introduced : Introduced registry memory variant region offset jump target span)
    (notLast : region ≠ .missions) : span.stop < memory.size := by
  have read := except_toOption_eq_some.1 (introduced.followed notLast)
  have fits := (Memory.read_eq_ok_iff.1 read).2.1
  exact Nat.lt_of_lt_of_le (Nat.lt_add_of_pos_right (by decide)) fits

/-- The main thread carries out the jump over a region, when its end is valid. -/
theorem tick_standing {loaded : Machine}
    (introduced : Introduced loaded.registry loaded.memory variant region offset jump target span)
    (hasBuiltins : loaded.registry.HasBuiltins)
    (untouched : loaded.memory.dirty = [] ∧ loaded.memory.journal? = none)
    (inside : span.stop < loaded.memory.size)
    (valid : loaded.layout.mainCode.start ≤ span.stop → loaded.code.startsAt span.stop = true)
    (count : Nat) :
    (loaded.standing offset count).tick.result = .ok (.ofJump (count + 1) offset jump) ∧
      (loaded.standing offset count).tick.machine = loaded.standing span.stop (count + 1) := by
  rw [introduced.stop_eq] at inside valid ⊢
  have outcome := @Machine.tick_of_jump (loaded.standing offset count) hasBuiltins 0 _ rfl rfl jump
    introduced.decoded introduced.opcode target introduced.immediate introduced.nonneg inside valid
  have sameMemory : { loaded.memory with dirty := [], journal? := none } = loaded.memory := by
    rw [← untouched.1, ← untouched.2]
  refine ⟨outcome.1, outcome.2.trans ?_⟩
  simp only [Machine.standing, sameMemory]
  rfl

end Layout.Introduced

/-! ## 3. The first three ticks -/

namespace Machine

/-- A script that was loaded stands at address zero. -/
theorem load_standing {bytes : Array UInt8} {registry : Registry Handler} {config : Config}
    {loaded : Machine} (load : Machine.load bytes registry config = .ok loaded) :
    loaded = loaded.standing 0 0 := by
  obtain ⟨layout, code, _, _, rfl⟩ := load_eq_ok load
  rfl

end Machine

/-- Accepted scripts boot. Load a script with a registry that has the built-ins, and let main code
start where the mission table ends, inside memory. The first three ticks succeed. They carry out the
jumps at address zero and behind the first two regions, in the main thread. Afterwards the main
thread is at the start of main code and the clock at three; memory, conditions and all else are as
they were loaded. -/
theorem accepted_script_boots {bytes : Array UInt8} {registry : Registry Handler} {config : Config}
    {loaded : Machine} (load : Machine.load bytes registry config = .ok loaded)
    (hasBuiltins : registry.HasBuiltins)
    (adjoining : loaded.layout.mainCode.start = loaded.layout.missionTable.stop)
    (inside : loaded.layout.missionTable.stop < loaded.memory.size) :
    ∃ first second third,
      loaded.decode 0 = .ok first ∧
      loaded.decode loaded.layout.globals.stop = .ok second ∧
      loaded.decode loaded.layout.models.stop = .ok third ∧
      loaded.records [.tick, .tick, .tick] = [.ofJump 1 0 first,
        .ofJump 2 loaded.layout.globals.stop second, .ofJump 3 loaded.layout.models.stop third] ∧
      loaded.run 3 = (.ok (), loaded.standing loaded.layout.mainCode.start 3) := by
  obtain ⟨isRegistry, untouched, count, starts, detected⟩ : loaded.registry = registry ∧
      (loaded.memory.dirty = [] ∧ loaded.memory.journal? = none) ∧ ∃ count starts,
        Layout.Detected loaded.registry loaded.memory config.variant loaded.layout count starts := by
    obtain ⟨layout, code, detect, _, rfl⟩ := Machine.load_eq_ok load
    exact ⟨rfl, ⟨rfl, rfl⟩, Layout.detect_detected detect⟩
  rw [← isRegistry] at hasBuiltins
  obtain ⟨first, _, globals⟩ := detected.globals
  obtain ⟨second, _, models⟩ := detected.models
  obtain ⟨third, _, table⟩ := detected.missionTable
  -- The first two jumps stay before main code, where targets are not looked up.
  have beforeCode : loaded.layout.models.stop < loaded.layout.mainCode.start :=
    adjoining ▸ table.offset_lt_stop
  have globalsFirst : loaded.layout.globals.stop < loaded.layout.mainCode.start :=
    Nat.lt_trans models.offset_lt_stop beforeCode
  -- The last one leads to main code, and its start is the first in the code map.
  have mapped := Machine.load_mapped load
  have startsCode : loaded.code.startsAt loaded.layout.missionTable.stop = true := by
    rw [mapped.startsAt_iff, ← adjoining]
    exact Array.mem_toList_iff.1 (mapped.chain.address_mem (adjoining ▸ inside))
  obtain ⟨firstOk, afterFirst⟩ := globals.tick_standing hasBuiltins untouched
    (globals.stop_lt_size (by decide)) (fun inCode => absurd globalsFirst (Nat.not_lt.2 inCode)) 0
  obtain ⟨secondOk, afterSecond⟩ := models.tick_standing hasBuiltins untouched
    (models.stop_lt_size (by decide)) (fun inCode => absurd beforeCode (Nat.not_lt.2 inCode)) 1
  obtain ⟨thirdOk, afterThird⟩ := table.tick_standing hasBuiltins untouched inside
    (fun _ => startsCode) 2
  rw [← Machine.load_standing load] at firstOk afterFirst
  refine ⟨first, second, third, globals.decoded, models.decoded, table.decoded, ?_, ?_⟩
  · rw [Machine.records_tick_of_ok firstOk, afterFirst, Machine.records_tick_of_ok secondOk,
      afterSecond, Machine.records_tick_of_ok thirdOk]
    rfl
  · rw [Machine.run_succ_of_ok firstOk, afterFirst, Machine.run_succ_of_ok secondOk, afterSecond,
      Machine.run_succ_of_ok thirdOk, afterThird, adjoining]
    rfl

namespace BootingExample

/-- The jumps over the regions are written in three widths, and the first of them is negated. Main
code is a jump to itself. -/
def script : Array UInt8 := #[
  0x02, 0x80, 0x04, 0x05, 0x6D,
  0x02, 0x00, 0x05, 0x0F, 0x00, 0x00,
  0x00, 0x00, 0x00, 0x00,
  0x02, 0x00, 0x01, 0x23, 0x00, 0x00, 0x00, 0x00,
  0x00, 0x00, 0x00, 0x00, 0x00, 0x00, 0x00, 0x00, 0x00, 0x00, 0x00, 0x00,
  0x02, 0x00, 0x04, 0x23]

/-- Where the regions end, main code starts and memory ends. -/
abbrev Outlined (loaded : Machine) : Prop :=
  loaded.layout.globals.stop = 5 ∧ loaded.layout.models.stop = 15 ∧
  loaded.layout.missionTable.stop = 35 ∧ loaded.layout.mainCode.start = 35 ∧ loaded.memory.size = 39

end BootingExample

open BootingExample in
/-- The three jumps are carried out, and the script stands at its main code. -/
theorem jumps_of_three_widths_boot :
    ∃ registry loaded, Registry.builtin = .ok registry ∧
      Machine.load script registry {} = .ok loaded ∧ loaded.layout.mainCode.start = 35 ∧
      (loaded.records [.tick, .tick, .tick]).map TickRecord.address = [0, 5, 15] ∧
      loaded.run 3 = (.ok (), loaded.standing 35 3) := by
  obtain ⟨registry, loaded, built, load, globals, models, table, code, size⟩ :=
    Machine.exists_loaded_of_evaluation Registry.builtin script {} Outlined (by decide +kernel)
  have adjoining := code.trans table.symm
  have inside : loaded.layout.missionTable.stop < loaded.memory.size := by
    rw [table, size]
    decide
  obtain ⟨first, second, third, _, _, _, records, ran⟩ :=
    accepted_script_boots load (Registry.builtin_hasBuiltins built) adjoining inside
  refine ⟨registry, loaded, built, load, code, ?_, code ▸ ran⟩
  rw [records, globals, models]
  rfl

end MissionScript
