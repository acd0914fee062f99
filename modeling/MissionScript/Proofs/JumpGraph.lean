import MissionScript.Proofs.ControlFlow
import MissionScript.Proofs.MissionRanges

/-!
# The static jump graph

The code map knows jumps before the script runs. It goes by the literal on the face of an instruction,
and it counts a negative one from the start of the mission that the instruction stands in. An
instruction that runs goes by other things: by the value that its argument was resolved to, and, for
a negative value, by the base that its thread carries along.

The two agree wherever they can be compared: where the argument is a literal, and where it is not
negative or the thread's base is the start of the mission around the instruction. Every jump that is
carried out, and every start of a thread, is then in the code map.

Results:
1. `CodeMap.mem_sourcesOf_iff`: the sources of an address are the instructions with a literal target
   that stands for it.
2. `Layout.resolveTarget_of_frame`: where the two can be compared, they find the same address.
3. `Arguments.resolve_labelled`: a label that is a literal is resolved to itself.
4. `Effect.destination`: where the address that a thread is sent to comes from.
5. `executed_jumps_recorded`: the agreement, over whole runs.
-/

namespace MissionScript

/-! ## 1. Recorded jumps -/

namespace CodeMap

section Recorded

variable {H : Type} (registry : Registry H) (memory : Memory) (layout? : Option Layout)

/-- The jump that the instruction at an address makes by a literal target. -/
def jumpAt? (source : Nat) : Option Jump :=
  match registry.decode memory source with
  | .error _ => none
  | .ok instruction =>
    (literalTarget? instruction).bind fun target =>
      (resolveTarget layout? source target).toOption.map (Jump.mk source)

/-- The map holds the jumps of the instructions at its starts, in their order, and no others. -/
def Complete (map : CodeMap) : Prop :=
  map.jumps.toList = map.starts.toList.filterMap (jumpAt? registry memory layout?)

end Recorded

variable {H : Type} {registry : Registry H} {memory : Memory} {layout? : Option Layout}

theorem jumpAt?_eq_some_iff {source : Nat} {jump : Jump} :
    jumpAt? registry memory layout? source = some jump ↔
      jump.source = source ∧ ∃ instruction target,
        registry.decode memory source = .ok instruction ∧
        literalTarget? instruction = some target ∧
        resolveTarget layout? source target = .ok jump.target := by
  obtain ⟨origin, landing⟩ := jump
  unfold jumpAt?
  cases decoded : registry.decode memory source with
  | error error => simp
  | ok instruction =>
    cases literal : literalTarget? instruction with
    | none => simp [literal]
    | some target =>
      cases resolved : resolveTarget layout? source target with
      | error error => simp [literal, resolved, Except.toOption]
      | ok address => simp [literal, resolved, Except.toOption, eq_comm]

/-- With an instruction, its jump is added. -/
theorem add_jumps {map longer : CodeMap} {instruction : Instruction}
    (decoded : registry.decode memory instruction.address = .ok instruction)
    (added : map.add layout? instruction = .ok longer) :
    longer.jumps.toList =
      map.jumps.toList ++ (jumpAt? registry memory layout? instruction.address).toList := by
  unfold add at added
  unfold jumpAt?
  rw [decoded]
  cases literal : literalTarget? instruction with
  | none =>
    simp only [literal] at added
    cases added
    simp [literal]
  | some target =>
    cases resolved : resolveTarget layout? instruction.address target with
    | error error =>
      simp only [literal, resolved] at added
      cases added
    | ok address =>
      simp only [literal, resolved] at added
      cases added
      simp [literal, resolved, Except.toOption]

theorem Complete.add {map longer : CodeMap} {instruction : Instruction}
    (complete : map.Complete registry memory layout?)
    (decoded : registry.decode memory instruction.address = .ok instruction)
    (added : map.add layout? instruction = .ok longer) :
    longer.Complete registry memory layout? := by
  unfold Complete
  rw [add_jumps decoded added, add_starts added, complete, Array.toList_push,
    List.filterMap_append, List.filterMap_cons, List.filterMap_nil]
  cases jumpAt? registry memory layout? instruction.address <;> rfl

theorem Scans.complete {address : Nat} {map result : CodeMap}
    (scans : Scans registry memory layout? address map (.ok result))
    (complete : map.Complete registry memory layout?) :
    result.Complete registry memory layout? := by
  generalize outcome : Except.ok result = value at scans
  induction scans with
  | stop past =>
    cases outcome
    exact complete
  | unreadable | unresolved => cases outcome
  | step inside decoded added _ ih =>
    have isAddress := Registry.decode_address decoded
    exact ih (complete.add (isAddress ▸ decoded) added) outcome

theorem build_complete {start : Nat} {map : CodeMap}
    (success : build registry memory start layout? = .ok map) :
    map.Complete registry memory layout? :=
  (scans_iff_eq_build.2 success.symm).complete rfl

/-- The sources of an address are the recorded instructions with a literal target that stands for
it. -/
theorem mem_sourcesOf_iff {map : CodeMap} (complete : map.Complete registry memory layout?)
    {source address : Nat} :
    source ∈ map.sourcesOf address ↔ source ∈ map.starts ∧ ∃ instruction target,
      registry.decode memory source = .ok instruction ∧
      literalTarget? instruction = some target ∧
      resolveTarget layout? source target = .ok address := by
  unfold sourcesOf
  simp only [List.mem_map, List.mem_filter, beq_iff_eq, ← Array.mem_toList_iff]
  rw [complete]
  simp only [List.mem_filterMap, jumpAt?_eq_some_iff]
  constructor
  · rintro ⟨jump, ⟨⟨first, isStart, rfl, found⟩, rfl⟩, rfl⟩
    exact ⟨isStart, found⟩
  · rintro ⟨isStart, found⟩
    exact ⟨⟨source, address⟩, ⟨⟨source, isStart, rfl, found⟩, rfl⟩, rfl⟩

end CodeMap

/-! ## 2. Missions around an address -/

namespace Layout

/-- The running thread counts negative targets from the start of the mission around an address. -/
def BasedAt (layout : Layout) (thread : Thread) (address : Nat) : Prop :=
  ∃ mission ∈ layout.missions, mission.contains address = true ∧ thread.base? = some mission.first

instance (layout : Layout) (thread : Thread) (address : Nat) :
    Decidable (layout.BasedAt thread address) :=
  inferInstanceAs (Decidable (∃ mission ∈ layout.missions, _))

end Layout

/-! ## 3. Resolved targets -/

/-- What a target that was found stands for. -/
theorem Frame.resolveTarget_eq {site : Site} {frame : Frame} {target : Int32} {address : Nat}
    (success : frame.resolveTarget site target = .ok address) :
    (0 ≤ target.toInt ∧ address = target.toInt.toNat) ∨
      (target.toInt < 0 ∧ ∃ thread base, frame.schedule.thread? site.thread = some thread ∧
        thread.base? = some base ∧ address = base + target.toInt.natAbs) := by
  unfold resolveTarget at success
  by_cases nonneg : 0 ≤ target.toInt
  · simp only [if_pos nonneg] at success
    split at success
    · cases success
    · split at success
      · cases success
      · cases success
        exact Or.inl ⟨nonneg, rfl⟩
  · simp only [if_neg nonneg] at success
    cases found : frame.schedule.thread? site.thread with
    | none =>
      simp only [found] at success
      cases success
    | some thread =>
      cases based : thread.base? with
      | none =>
        simp only [found, based] at success
        cases success
      | some base =>
        simp only [found, based] at success
        split at success
        · cases success
        · split at success
          · cases success
          · cases success
            exact Or.inr ⟨Int.lt_of_not_ge nonneg, thread, base, rfl, based, rfl⟩

/-- The running instruction and the code map find the same address for a target, when it is not
negative or the thread is based at the mission around the instruction. -/
theorem Layout.resolveTarget_of_frame {layout : Layout} {starts : List Nat} {size : Nat}
    (missions : layout.missions = missionRanges starts size) {site : Site} {frame : Frame}
    {target : Int32} {source address : Nat}
    (comparable : 0 ≤ target.toInt ∨ ∃ running,
      frame.schedule.thread? site.thread = some running ∧ layout.BasedAt running source)
    (success : frame.resolveTarget site target = .ok address) :
    layout.resolveTarget source target = .ok address := by
  unfold resolveTarget
  rcases Frame.resolveTarget_eq success with ⟨nonneg, rfl⟩ | ⟨negative, other, base, same, isBase, rfl⟩
  · rw [if_pos nonneg]
  · rw [if_neg (Int.not_le_of_gt negative)]
    rcases comparable with nonneg | ⟨running, found, mission, member, around, based⟩
    · omega
    · cases found.symm.trans same
      cases based.symm.trans isBase
      unfold missionContaining?
      cases first : layout.missions.find? fun mission => mission.contains source with
      | none => exact absurd around (List.find?_eq_none.1 first mission member)
      | some other =>
        -- The mission that is found need not be the one of the thread, but it starts where that does.
        rw [missions] at member first
        have contains : other.contains source = true := by simpa using List.find?_some first
        have sameStart :=
          missionRanges_first_eq (List.mem_of_find?_eq_some first) member contains around
        simp only [sameStart]

/-! ## 4. Resolved labels -/

namespace Builtin

/-- The built-ins whose first argument names the address where a thread goes on or starts. -/
def jumps : List Builtin := [.goto, .gotoIfFalse, .startNewScript, .startNewScriptWithArgs]

/-- The built-ins that send their own thread or a new one to an address of their choice. -/
def transfers : List Builtin :=
  [.goto, .gotoIfFalse, .gosub, .startNewScript, .startNewScriptWithArgs, .startMission]

theorem ofOpcode?_opcode (builtin : Builtin) : ofOpcode? builtin.opcode = some builtin := by
  cases builtin <;> rfl

theorem opcode_injective {left right : Builtin} (same : left.opcode = right.opcode) :
    left = right := by
  have found := ofOpcode?_opcode left
  rw [same, ofOpcode?_opcode] at found
  exact (Option.some.inj found).symm

theorem hasTarget_of_mem_jumps {builtin : Builtin} (isJump : builtin ∈ jumps) :
    (Flow.ofOpcode builtin.opcode).hasTarget = true := by
  revert builtin
  decide

theorem transfers_of_mem_jumps {builtin : Builtin} (isJump : builtin ∈ jumps) :
    builtin ∈ transfers := by
  revert builtin
  decide

/-- All jumps but one take the label as their only argument; that one takes more after it. -/
theorem params_of_mem_jumps {builtin : Builtin} (isJump : builtin ∈ jumps)
    (single : builtin ≠ .startNewScriptWithArgs) :
    builtin.params = [⟨"label", .single .intOrVar⟩] := by
  revert builtin
  decide

end Builtin

/-- A jump by its flow class is one of four instructions. -/
theorem Flow.hasTarget_ofOpcode_iff {opcode : Opcode} :
    (Flow.ofOpcode opcode).hasTarget = true ↔ ∃ builtin ∈ Builtin.jumps, opcode = builtin.opcode := by
  constructor
  · intro isJump
    unfold ofOpcode at isJump
    cases found : Builtin.ofOpcode? opcode with
    | none =>
      rw [found] at isJump
      cases isJump
    | some builtin =>
      rw [found] at isJump
      have isOpcode : builtin.opcode = opcode := by simpa using List.find?_some found
      refine ⟨builtin, ?_, isOpcode.symm⟩
      revert isJump
      cases builtin <;> decide
  · rintro ⟨builtin, member, rfl⟩
    exact Builtin.hasTarget_of_mem_jumps member

/-- The literal on the face of an instruction is its first argument. -/
theorem Instruction.immediate?_eq_some {instruction : Instruction} {target : Int32}
    (immediate : instruction.immediate? = some target) :
    ∃ argument rest, instruction.args = argument :: rest ∧ argument.operand = .int target := by
  obtain ⟨argument, isHead, isInt⟩ := Option.bind_eq_some_iff.1 immediate
  obtain ⟨rest, isArgs⟩ := List.head?_eq_some_iff.1 isHead
  refine ⟨argument, rest, isArgs, ?_⟩
  cases operand : argument.operand with
  | int number =>
    rw [operand] at isInt
    exact congrArg Operand.int (Option.some.inj isInt)
  | endMarker | float | text | globalVar | localVar =>
    rw [operand] at isInt
    cases isInt

namespace Arguments

/-- The label among the arguments of a jump is the given number. -/
def Labelled (args : Arguments) (builtin : Builtin) (target : Int32) : Prop :=
  if builtin = .startNewScriptWithArgs then
    args.variadic.head?.map ArgValue.value = some (.int target)
  else args.int "label" = .ok target

/-- The number by which a built-in names its target: the first of its further arguments where a thread
is started with some, and else the label. -/
def target? (args : Arguments) (site : Site) : Builtin → Option Int32
  | .startNewScriptWithArgs =>
    args.variadic.head?.bind fun label => (Behaviour.intValue site label).toOption
  | _ => (args.int "label").toOption

variable {source : Source} {name : String} {constraint : Constraint} {index : Nat}
  {argument : Argument} {target : Int32}

theorem Labelled.int {args : Arguments} {builtin : Builtin} (labelled : args.Labelled builtin target)
    (single : builtin ≠ .startNewScriptWithArgs) : args.int "label" = .ok target := by
  rw [Labelled, if_neg single] at labelled
  exact labelled

/-- A label that is a number is the target. -/
theorem Labelled.target?_eq {args : Arguments} {builtin : Builtin}
    (labelled : args.Labelled builtin target) (site : Site) :
    args.target? site builtin = some target := by
  unfold target?
  split
  · rw [Labelled, if_pos rfl] at labelled
    obtain ⟨label, isHead, value⟩ := Option.map_eq_some_iff.1 labelled
    rw [isHead, Option.bind_some, Behaviour.intValue, value]
    rfl
  · next single =>
    rw [labelled.int single]
    rfl

/-- A literal is resolved to itself. -/
theorem resolveOne_int {value : ArgValue} (literal : argument.operand = .int target)
    (success : resolveOne source constraint index argument = .ok value) :
    value.value = .int target := by
  unfold resolveOne at success
  simp only [literal] at success
  split at success
  · cases success
  · cases success
    rfl

theorem resolveParams_single {rest : List Argument} {named : List (String × ArgValue)}
    {variadic : List ArgValue} (literal : argument.operand = .int target)
    (success : resolveParams source [⟨name, .single constraint⟩] index (argument :: rest) =
      .ok (named, variadic)) :
    ∃ value : ArgValue, named = [(name, value)] ∧ value.value = .int target := by
  simp only [resolveParams] at success
  cases resolved : resolveOne source constraint index argument with
  | error error =>
    rw [resolved] at success
    cases success
  | ok value =>
    rw [resolved] at success
    cases success
    exact ⟨value, rfl, resolveOne_int literal resolved⟩

theorem resolveParams_variadic {rest : List Argument} {named : List (String × ArgValue)}
    {variadic : List ArgValue} (literal : argument.operand = .int target)
    (success : resolveParams source [⟨name, .variadic constraint⟩] index (argument :: rest) =
      .ok (named, variadic)) :
    variadic.head?.map ArgValue.value = some (.int target) := by
  -- An end marker is no literal, so the label is among the arguments that are taken.
  have notEnd : argument.isEnd = false := by
    refine Bool.eq_false_iff.2 fun isEnd => ?_
    rw [Argument.operand, Argument.isEnd_iff.1 isEnd] at literal
    cases literal
  simp only [resolveParams, List.takeWhile_cons, notEnd, Bool.not_false, if_true, resolveEach]
    at success
  cases resolved : resolveOne source constraint index argument with
  | error error =>
    simp only [resolved] at success
    cases success
  | ok value =>
    simp only [resolved] at success
    split at success
    · cases success
    · next values others =>
      obtain ⟨tail, _, rfl⟩ := except_map_eq_ok.1 others
      cases success
      exact congrArg some (resolveOne_int literal resolved)

/-- A label that is a literal is resolved to itself. -/
theorem resolve_labelled {definition : Definition} {instruction : Instruction} {memory : Memory}
    {thread : Thread} {now : Nat} {args : Arguments} {builtin : Builtin}
    (isJump : builtin ∈ Builtin.jumps) (params : definition.params = builtin.params)
    (immediate : instruction.immediate? = some target)
    (success : resolve definition instruction memory thread now = .ok args) :
    args.Labelled builtin target := by
  obtain ⟨argument, rest, isArgs, literal⟩ := Instruction.immediate?_eq_some immediate
  obtain ⟨⟨named, variadic⟩, resolved, rfl⟩ := except_map_eq_ok.1 success
  rw [params, isArgs] at resolved
  unfold Labelled
  split
  · next withArgs =>
    subst withArgs
    exact resolveParams_variadic literal resolved
  · next single =>
    rw [Builtin.params_of_mem_jumps isJump single] at resolved
    obtain ⟨value, rfl, isTarget⟩ := resolveParams_single literal resolved
    simp [int, get, isTarget, bind, Except.bind, pure, Except.pure]

end Arguments

/-! ## 5. Where an instruction sends threads -/

/-- The thread under a number stands at an address. -/
def Schedule.StandsAt (schedule : Schedule) (id address : Nat) : Prop :=
  (schedule.thread? id).map Thread.pc = some address

instance (schedule : Schedule) (id address : Nat) : Decidable (schedule.StandsAt id address) :=
  inferInstanceAs (Decidable (_ = _))

theorem Schedule.not_standsAt_nextId (schedule : Schedule) (address : Nat) :
    ¬ schedule.StandsAt schedule.nextId address := by
  rw [StandsAt, thread?_nextId]
  intro impossible
  cases impossible

section Sending

variable {site : Site} {args : Arguments} {before after : Frame} {address : Nat}

namespace Frame

/-- An instruction sends a thread to an address: it has said that its own thread goes on there, or has
started another one there. -/
def Sends (site : Site) (before after : Frame) (address : Nat) : Prop :=
  (after.jumped = true ∧ after.schedule.StandsAt site.thread address) ∨
    after.schedule.StandsAt before.schedule.nextId address

theorem jump_sends {target : Int32} (success : before.jump site target = (.ok (), after))
    (sends : before.Sends site after address) :
    before.resolveTarget site target = .ok address := by
  obtain ⟨found, resolved, set⟩ := jump_eq_ok.1 success
  obtain ⟨thread, isThread, rfl⟩ := setPc_eq_ok.1 set
  rcases sends with ⟨_, own⟩ | new
  · rw [Schedule.StandsAt, Schedule.thread?_modify_self, isThread] at own
    cases own
    exact resolved
  · rw [← Schedule.nextId_modify before.schedule site.thread] at new
    exact absurd new (Schedule.not_standsAt_nextId _ address)

theorem call_sends {target : Int32} (success : before.call site target = (.ok (), after))
    (sends : before.Sends site after address) :
    before.resolveTarget site target = .ok address := by
  obtain ⟨found, thread, resolved, isThread, _, rfl⟩ := call_eq_ok.1 success
  rcases sends with ⟨_, own⟩ | new
  · rw [Schedule.StandsAt, Schedule.thread?_modify_self, isThread] at own
    cases own
    exact resolved
  · rw [← Schedule.nextId_modify before.schedule site.thread] at new
    exact absurd new (Schedule.not_standsAt_nextId _ address)

/-- What can be seen of a new thread, apart from waking, is as it was started. -/
theorem startThread_view {α : Type} (view : Thread → α)
    (ignores : ∀ thread wake, view { thread with wake } = view thread) {pc id : Nat}
    {isMission : Bool} (success : before.startThread site pc isMission = (.ok id, after)) :
    ∃ starter, before.schedule.thread? site.thread = some starter ∧
      (after.schedule.thread? before.schedule.nextId).map view =
        some (view (before.startedThread starter pc isMission)) := by
  obtain ⟨starter, found, _, rfl⟩ := startThread_eq_ok.1 success
  have grown : ((before.grown starter pc isMission).thread? before.schedule.nextId).map view =
      some (view (before.startedThread starter pc isMission)) := by
    rw [show (before.grown starter pc isMission).thread? before.schedule.nextId = _ from
      Schedule.thread?_append _ _ _, if_pos rfl]
    rfl
  refine ⟨starter, found, ?_⟩
  simp only
  split
  · rw [Schedule.map_thread?_pass view ignores]
    exact grown
  · exact grown

/-- A new thread stands where it was started. -/
theorem startThread_standsAt {pc id : Nat} {isMission : Bool}
    (success : before.startThread site pc isMission = (.ok id, after)) :
    after.jumped = before.jumped ∧ after.schedule.StandsAt before.schedule.nextId pc := by
  obtain ⟨starter, _, stands⟩ := startThread_view Thread.pc (fun _ _ => rfl) success
  obtain ⟨_, _, _, rfl⟩ := startThread_eq_ok.1 success
  refine ⟨rfl, stands.trans ?_⟩
  cases isMission <;> rfl

/-- Values for its local variables do not move a thread. -/
theorem setLocals_pc {id index : Nat} {values : List ArgValue}
    (success : (Behaviour.setLocals id index values).run site before = (.ok (), after)) :
    after.jumped = before.jumped ∧ ∀ other,
      (after.schedule.thread? other).map Thread.pc = (before.schedule.thread? other).map Thread.pc := by
  induction values generalizing index before with
  | nil =>
    cases success
    exact ⟨rfl, fun _ => rfl⟩
  | cons value rest ih =>
    obtain ⟨_, between, set, remaining⟩ := Program.run_bind_eq_ok.1 success
    obtain ⟨thread, changed, found, isChanged, rfl⟩ := changeThread_eq_ok.1 set
    obtain ⟨_, _, rfl⟩ := Thread.setLocal_eq_ok isChanged
    obtain ⟨sameJumped, samePc⟩ := ih remaining
    refine ⟨sameJumped, fun other => ?_⟩
    rw [samePc other, Schedule.thread?_modify]
    by_cases same : id = other
    · subst same
      simp [found]
    · simp [same]

/-- Starting a thread sends only that thread, and where it was started. -/
theorem startThread_sends {pc id : Nat} {isMission : Bool}
    (success : before.startThread site pc isMission = (.ok id, after))
    (fresh : before.jumped = false) (sends : before.Sends site after address) : pc = address := by
  obtain ⟨sameJumped, stands⟩ := startThread_standsAt success
  rcases sends with ⟨isJumped, _⟩ | new
  · cases fresh.symm.trans (sameJumped.symm.trans isJumped)
  · exact Option.some.inj (stands.symm.trans new)

theorem Sends.of_setLocals {started : Frame} {id index : Nat} {values : List ArgValue}
    (sends : before.Sends site after address)
    (success : (Behaviour.setLocals id index values).run site started = (.ok (), after)) :
    before.Sends site started address := by
  obtain ⟨sameJumped, samePc⟩ := setLocals_pc success
  unfold Sends Schedule.StandsAt at *
  rw [samePc, samePc, sameJumped] at sends
  exact sends

end Frame

/-- The address that a thread is sent to has been looked up as the target among the arguments, or it is
the start of a mission that was asked for by its number. -/
theorem Effect.destination {builtin : Builtin} (effect : Effect site args before builtin after)
    (isTransfer : builtin ∈ Builtin.transfers) (fresh : before.jumped = false)
    (sends : before.Sends site after address) :
    (∃ target, args.target? site builtin = some target ∧
      before.resolveTarget site target = .ok address) ∨
      builtin = .startMission ∧ ∃ mission ∈ site.layout.missions, mission.first = address := by
  cases effect with
  | goto given jumped =>
    exact Or.inl ⟨_, congrArg Except.toOption given, Frame.jump_sends jumped sends⟩
  | gotoIfFalse_true holds =>
    -- The conditions hold, so the thread goes on behind the instruction.
    obtain rfl : before.resolveConditions.2 = after := congrArg Prod.snd holds
    rcases sends with ⟨isJumped, _⟩ | new
    · cases fresh.symm.trans isJumped
    · exact absurd new (before.schedule.not_standsAt_nextId address)
  | @gotoIfFalse_false _ resolved _ fails given jumped =>
    obtain rfl : before.resolveConditions.2 = resolved := congrArg Prod.snd fails
    have sameThreads : before.resolveConditions.2.Sends site after address := sends
    have found := Frame.jump_sends jumped sameThreads
    exact Or.inl ⟨_, congrArg Except.toOption given, found⟩
  | gosub given called =>
    exact Or.inl ⟨_, congrArg Except.toOption given, Frame.call_sends called sends⟩
  | startNewScript given resolved started =>
    cases Frame.startThread_sends started fresh sends
    exact Or.inl ⟨_, congrArg Except.toOption given, resolved⟩
  | startNewScriptWithArgs given _ _ number resolved start set =>
    cases Frame.startThread_sends start fresh (sends.of_setLocals set)
    refine Or.inl ⟨_, ?_, resolved⟩
    rw [Arguments.target?, given]
    exact congrArg Except.toOption number
  | startMission given found started =>
    cases Frame.startThread_sends started fresh sends
    exact Or.inr ⟨rfl, Behaviour.missionStart?_mem found⟩
  | setVariable kind =>
    have apart : ∀ builtin ∈ [Builtin.setVarInt, .setVarFloat, .setLocalInt, .setLocalFloat],
      builtin ∉ Builtin.transfers := by decide
    exact absurd isTransfer (apart _ kind)
  | _ => exact absurd isTransfer (by decide)

end Sending

/-! ## 6. Ticks -/

namespace Machine

/-- What loading has recorded: the code map holds the jumps of the script, and the missions are the
ranges between their starts. -/
theorem load_complete {bytes : Array UInt8} {registry : Registry Handler} {config : Config}
    {loaded : Machine} (load : Machine.load bytes registry config = .ok loaded) :
    loaded.code.Complete loaded.registry loaded.memory (some loaded.layout) ∧
      ∃ starts, loaded.layout.missions = Layout.missionRanges starts loaded.memory.size := by
  obtain ⟨layout, code, detect, build, rfl⟩ := load_eq_ok load
  obtain ⟨_, starts, detected⟩ := Layout.detect_detected detect
  exact ⟨CodeMap.build_complete build, starts, detected.missions⟩

/-- The tick has sent a thread to an address: its own, by a jump, or a new one. -/
def TransfersTo (machine : Machine) (record : TickRecord) (address : Nat) : Prop :=
  (record.jumped = true ∧ machine.tick.machine.schedule.StandsAt record.thread address) ∨
    machine.tick.machine.schedule.StandsAt machine.schedule.nextId address

instance (machine : Machine) (record : TickRecord) (address : Nat) :
    Decidable (machine.TransfersTo record address) :=
  inferInstanceAs (Decidable (_ ∨ _))

variable {machine : Machine} {address : Nat}

/-- Where a tick sends a thread, its instruction has sent it. -/
theorem TransfersTo.sends {thread : Thread} {entry : Entry Handler} {step : Step} {after : Frame}
    (ready : machine.cleared.Ready thread entry step)
    (accepted : machine.tick.machine = machine.cleared.accept step after)
    (transfers : machine.TransfersTo (machine.cleared.record step after) address) :
    machine.cleared.frame.Sends step.site after address := by
  unfold TransfersTo at transfers
  rw [accepted] at transfers
  cases jumped : after.jumped with
  | true =>
    have same : (machine.cleared.accept step after).schedule = after.schedule.advance := by
      simp [accept, jumped]
    rw [same] at transfers
    exact transfers.imp (fun own => ⟨jumped, own.2⟩) id
  | false =>
    refine transfers.elim (fun own => ?_) fun new => Or.inr ?_
    · cases jumped.symm.trans own.1
    · -- The thread that goes on behind the instruction is older than the new one.
      have older : step.site.thread ≠ machine.schedule.nextId :=
        Nat.ne_of_lt (List.getElem?_eq_some_iff.1 ready.found).1
      have same : (machine.cleared.accept step after).schedule.thread? machine.schedule.nextId =
          after.schedule.thread? machine.schedule.nextId := by
        simp only [accept, jumped, Bool.false_eq_true, if_false]
        show (after.schedule.modify _ _).thread? _ = _
        rw [Schedule.thread?_modify]
        simp [older]
      unfold Schedule.StandsAt at new ⊢
      rw [same] at new
      exact new

/-- The instruction that sends a thread somewhere has a behaviour, and so has had its effect. -/
theorem TransfersTo.effect {thread : Thread} {entry : Entry Handler} {step : Step} {after : Frame}
    (ready : machine.cleared.Ready thread entry step)
    (builtinOnly : machine.registry.BuiltinOnly)
    (ran : step.run machine.cleared.frame = (.ok (), after))
    (accepted : machine.tick.machine = machine.cleared.accept step after) {builtin : Builtin}
    (opcode : step.site.instruction.opcode = builtin.opcode)
    (transfers : machine.TransfersTo (machine.cleared.record step after) address) :
    step.handler? = some builtin.handler ∧
      Effect step.site step.args machine.cleared.frame builtin after ∧
      machine.cleared.frame.Sends step.site after address := by
  have sends := transfers.sends ready accepted
  rcases ready.effect builtinOnly ran with ⟨_, rfl⟩ | ⟨other, isOpcode, bound, effect⟩
  · rcases sends with ⟨isJumped, _⟩ | new
    · cases isJumped
    · exact absurd new (machine.schedule.not_standsAt_nextId address)
  · cases Builtin.opcode_injective (isOpcode.trans opcode)
    exact ⟨bound, effect, sends⟩

/-- A jump by a literal that is carried out has found the address that it leads to. -/
theorem resolveTarget_of_transfersTo (standard : machine.registry.Standard) {record : TickRecord}
    (success : machine.tick.result = .ok record) {builtin : Builtin}
    (isJump : builtin ∈ Builtin.jumps) (opcode : record.opcode = builtin.opcode)
    {instruction : Instruction} (decoded : machine.decode record.address = .ok instruction)
    {target : Int32} (immediate : instruction.immediate? = some target)
    (transfers : machine.TransfersTo record address) :
    instruction.opcode = builtin.opcode ∧ ∃ site : Site, site.thread = record.thread ∧
      machine.cleared.frame.resolveTarget site target = .ok address := by
  obtain ⟨step, after, prepared, ran, accepted, rfl⟩ := tick_of_ok success
  obtain ⟨thread, entry, ready⟩ := prepare_ready prepared
  obtain rfl : instruction = step.site.instruction := by
    have again : machine.decode thread.pc = .ok step.site.instruction :=
      Registry.decode_congr ready.decoded fun _ _ _ => rfl
    have isAddress : step.site.instruction.address = thread.pc := Registry.decode_address ready.decoded
    rw [← isAddress] at again
    exact Except.ok.inj (decoded.symm.trans again)
  refine ⟨opcode, step.site, rfl, ?_⟩
  obtain ⟨bound, effect, sends⟩ := transfers.effect ready standard.builtinOnly ran accepted opcode
  obtain ⟨other, sameOpcode, _, params⟩ :=
    standard _ entry _ ready.known (ready.handler.symm.trans bound)
  cases Builtin.opcode_injective (sameOpcode.trans opcode)
  have labelled := Arguments.resolve_labelled isJump params immediate ready.resolved
  rcases effect.destination (Builtin.transfers_of_mem_jumps isJump) rfl sends with
    ⟨_, isTarget, resolved⟩ | ⟨rfl, _⟩
  · cases (labelled.target?_eq step.site).symm.trans isTarget
    exact resolved
  · exact absurd isJump (by decide)

end Machine

/-- The static jump graph holds every jump by a literal that is carried out. Load a script with
built-in behaviours only, let its host ask for any ticks and moves of threads, and let the bytes of
code then be those of the loaded script. Whenever a tick at a recorded start jumps by a literal target
or starts a thread by one, the code map has recorded the jump, provided that the target is not negative
or that the running thread is based at the mission around the instruction. -/
theorem executed_jumps_recorded {bytes : Array UInt8} {registry : Registry Handler}
    {config : Config} {loaded : Machine} (load : Machine.load bytes registry config = .ok loaded)
    (standard : registry.Standard) (requests : List Request)
    (kept : loaded.CodeKept (loaded.serveAll requests)) {record : TickRecord}
    (success : (loaded.serveAll requests).tick.result = .ok record)
    (isStart : record.address ∈ loaded.code.starts) {builtin : Builtin}
    (isJump : builtin ∈ [.goto, .gotoIfFalse, .startNewScript, .startNewScriptWithArgs])
    (opcode : record.opcode = builtin.opcode) {instruction : Instruction}
    (decoded : (loaded.serveAll requests).decode record.address = .ok instruction)
    {target : Int32} (immediate : instruction.immediate? = some target) {address : Nat}
    (transfers : (loaded.serveAll requests).TransfersTo record address)
    (comparable : 0 ≤ target.toInt ∨ ∃ running,
      (loaded.serveAll requests).schedule.thread? record.thread = some running ∧
      loaded.layout.BasedAt running record.address) :
    record.address ∈ (loaded.serveAll requests).code.sourcesOf address := by
  have same := loaded.serveAll_sameScript requests
  obtain ⟨complete, starts, missions⟩ := Machine.load_complete load
  rw [same.code, CodeMap.mem_sourcesOf_iff complete]
  -- The code map was made from the instruction that is carried out.
  have static : loaded.registry.decode loaded.memory record.address = .ok instruction := by
    unfold Machine.decode at decoded
    rw [same.registry] at decoded
    exact ((Machine.load_mapped load).decode_kept kept isStart decoded).1
  have standardNow : (loaded.serveAll requests).registry.Standard := by
    rw [same.registry, Machine.load_registry load]
    exact standard
  obtain ⟨isOpcode, site, isThread, resolved⟩ := Machine.resolveTarget_of_transfersTo standardNow
    success isJump opcode decoded immediate transfers
  have literal : CodeMap.literalTarget? instruction = some target := by
    rw [CodeMap.literalTarget?, isOpcode, if_pos (Builtin.hasTarget_of_mem_jumps isJump), immediate]
  refine ⟨isStart, instruction, target, static, literal, ?_⟩
  rw [← isThread] at comparable
  exact Layout.resolveTarget_of_frame missions comparable resolved

namespace JumpGraphExample

/-- Main code starts the mission and ends. The mission starts another script, by a target that counts
from its own start, and then jumps to where it stands, by another one. -/
def script : Array UInt8 := #[
  0x02, 0x00, 0x01, 0x0C, 0x00, 0x00, 0x00, 0x6D,
  0x00, 0x00, 0x00, 0x00,
  0x02, 0x00, 0x01, 0x18, 0x00, 0x00, 0x00, 0x00,
  0x00, 0x00, 0x00, 0x00,
  0x02, 0x00, 0x01, 0x30, 0x00, 0x00, 0x00, 0x00,
  0x00, 0x00, 0x00, 0x00, 0x00, 0x00, 0x00, 0x00, 0x01, 0x00, 0x00, 0x00, 0x36, 0x00, 0x00, 0x00,
  0x17, 0x04, 0x04, 0x00,
  0x4E, 0x00,
  0x4F, 0x00, 0x04, 0xF5, 0x04, 0x05, 0x00,
  0x02, 0x00, 0x04, 0xF9,
  0x4E, 0x00]

/-- What the fifth tick carries out. -/
def record : TickRecord where
  tick := 5
  thread := 1
  address := 54
  opcode := Builtin.startNewScriptWithArgs.opcode
  negated := false
  byteLength := 7
  jumped := false

/-- The script before its fifth tick. -/
def inMission (loaded : Machine) : Machine := loaded.serveAll (List.replicate 4 .tick)

/-- The fifth tick starts a thread by a negative literal, and the thread that carries it out is based
at the mission. -/
abbrev StartsByLiteral (loaded : Machine) : Prop :=
  loaded.CodeKept (inMission loaded) ∧ (inMission loaded).tick.result.toOption = some record ∧
  54 ∈ loaded.code.starts ∧
  (∃ instruction ∈ ((inMission loaded).decode 54).toOption, instruction.immediate? = some (-11)) ∧
  (inMission loaded).TransfersTo record 65 ∧
  ∃ running ∈ (inMission loaded).schedule.thread? 1, loaded.layout.BasedAt running 54

end JumpGraphExample

open JumpGraphExample in
/-- The fifth tick starts a thread at address 65, eleven behind the start of its mission. The code map
has recorded this before the script ran. -/
theorem mission_start_recorded :
    ∃ registry loaded, Registry.builtin = .ok registry ∧
      Machine.load script registry {} = .ok loaded ∧
      (inMission loaded).tick.result = .ok record ∧
      (inMission loaded).TransfersTo record 65 ∧
      54 ∈ (inMission loaded).code.sourcesOf 65 := by
  obtain ⟨registry, loaded, built, load, kept, ticked, isStart,
      ⟨instruction, isInstruction, immediate⟩, transfers, running, found, based⟩ :=
    Machine.exists_loaded_of_evaluation Registry.builtin script {} StartsByLiteral
      (by decide +kernel)
  have success : (inMission loaded).tick.result = .ok record := except_toOption_eq_some.1 ticked
  have isJump : Builtin.startNewScriptWithArgs ∈ Builtin.jumps := by decide
  refine ⟨registry, loaded, built, load, success, transfers, ?_⟩
  exact executed_jumps_recorded load (Registry.builtin_standard built) (List.replicate 4 .tick)
    kept success isStart isJump rfl (except_toOption_eq_some.1 isInstruction) immediate transfers
    (Or.inr ⟨running, found, based⟩)

end MissionScript
