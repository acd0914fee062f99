import MissionScript.Proofs.JumpGraph

/-!
# Jump sources

Building the code map either fails at one address or answers, for every address, which instructions
jump there. Both are said here without the map: from a start, the linear chain comes to one address
after the other as long as the instruction there can be decoded, and an address on the chain passes
when its instruction can be decoded and the literal target that it may name stands for an address.

Results:
1. `CodeMap.resolveTarget_eq_ok_iff` and `CodeMap.resolveTarget_eq_error_iff`: which targets stand
   for an address, and for which one.
2. `CodeMap.build_eq_ok_iff` and `CodeMap.build_eq_error_iff`: building succeeds exactly when every
   address on the chain passes, and else reports the first one that does not.
3. `CodeMap.sourcesOf_ascending`: the sources of an address are in ascending order.
4. `jump_sources_exact`: both together, with the sources named one by one.
-/

namespace MissionScript

namespace CodeMap

section Chain

variable {H : Type} (registry : Registry H) (memory : Memory) (layout? : Option Layout)

/-! ## 1. The linear chain -/

/-- The walk over the code from the first address comes to the second one. It looks at nothing but
where instructions end, so it goes on behind a jump that leads nowhere. -/
inductive OnChain : Nat → Nat → Prop where
  | here {address : Nat} (inside : address < memory.size) : OnChain address address
  | later {address place : Nat} {instruction : Instruction} (inside : address < memory.size)
      (decoded : registry.decode memory address = .ok instruction)
      (rest : OnChain instruction.next place) :
      OnChain address place

/-- The instruction is a jump by its flow class, and its first argument is an integer literal. -/
structure Names (instruction : Instruction) (target : Int32) : Prop where
  isJump : (Flow.ofOpcode instruction.opcode).hasTarget = true
  literal : instruction.args.head?.map Argument.operand = some (.int target)

/-- A target is not negative, or the instruction that names it stands in a mission. -/
def Resolvable (source : Nat) (target : Int32) : Prop :=
  0 ≤ target.toInt ∨
    ∃ layout, layout? = some layout ∧ ∃ mission ∈ layout.missions, mission.contains source = true

/-- The address that a target stands for, in an instruction at `source`. -/
inductive StandsFor (source : Nat) (target : Int32) : Nat → Prop where
  | absolute (nonneg : 0 ≤ target.toInt) : StandsFor source target target.toInt.toNat
  | relative {layout : Layout} {mission : Mission} (negative : target.toInt < 0)
      (known : layout? = some layout) (around : layout.missionContaining? source = some mission) :
      StandsFor source target (mission.first + target.toInt.natAbs)

/-- The instruction at an address can be decoded, and if it names a target, that can be resolved. -/
def Passes (address : Nat) : Prop :=
  ∃ instruction, registry.decode memory address = .ok instruction ∧
    ∀ target, Names instruction target → Resolvable layout? address target

/-- What is wrong with an address that does not pass. -/
inductive FailsWith (address : Nat) : Error → Prop where
  | unreadable {error : Error} (failed : registry.decode memory address = .error error) :
      FailsWith address error
  | unresolved {instruction : Instruction} {target : Int32}
      (decoded : registry.decode memory address = .ok instruction)
      (names : Names instruction target) (lost : ¬ Resolvable layout? address target) :
      FailsWith address (.invalidJumpTarget target.toInt address)

/-- The first address on the chain that does not pass, and what is wrong with it. -/
structure FirstFailure (start address : Nat) (error : Error) : Prop where
  onChain : OnChain registry memory start address
  fails : FailsWith registry memory layout? address error
  earlier : ∀ place, OnChain registry memory start place → place < address →
    Passes registry memory layout? place

end Chain

variable {H : Type} {registry : Registry H} {memory : Memory} {layout? : Option Layout}

/-- A chain goes up. -/
theorem OnChain.le {address place : Nat} (onChain : OnChain registry memory address place) :
    address ≤ place := by
  induction onChain with
  | here => exact Nat.le_refl _
  | later _ decoded _ ih => exact Nat.le_trans (Nat.le_of_lt (Registry.decode_lt_next decoded)) ih

theorem OnChain.inside {address place : Nat} (onChain : OnChain registry memory address place) :
    address < memory.size := by
  cases onChain with
  | here inside | later inside => exact inside

/-- The starts of a chain to the end of memory are the addresses that the walk comes to. -/
theorem Chain.mem_iff_onChain {address place : Nat} {starts : List Nat}
    (chain : Chain registry memory address starts) :
    place ∈ starts ↔ OnChain registry memory address place := by
  induction chain with
  | stop past =>
    exact iff_of_false List.not_mem_nil fun onChain => Nat.not_lt_of_le past onChain.inside
  | @step address instruction starts inside decoded _ ih =>
    rw [List.mem_cons, ih]
    constructor
    · rintro (rfl | later)
      · exact .here inside
      · exact .later inside decoded later
    · intro onChain
      cases onChain with
      | here => exact Or.inl rfl
      | later _ again rest =>
        cases decoded.symm.trans again
        exact Or.inr rest

/-! ## 2. Targets -/

theorem names_iff_of_jumps {instruction : Instruction} {target : Int32} :
    Names instruction target ↔
      (∃ builtin ∈ Builtin.jumps, instruction.opcode = builtin.opcode) ∧
        instruction.args.head?.map Argument.operand = some (.int target) := by
  rw [← Flow.hasTarget_ofOpcode_iff]
  constructor
  · rintro ⟨isJump, literal⟩
    exact ⟨isJump, literal⟩
  · rintro ⟨isJump, literal⟩
    exact ⟨isJump, literal⟩

theorem names_iff {instruction : Instruction} {target : Int32} :
    Names instruction target ↔ literalTarget? instruction = some target := by
  unfold literalTarget? Instruction.immediate?
  constructor
  · rintro ⟨isJump, literal⟩
    obtain ⟨argument, isHead, isInt⟩ := Option.map_eq_some_iff.1 literal
    rw [if_pos isJump, isHead, Option.bind_some, isInt]
    rfl
  · intro found
    by_cases isJump : (Flow.ofOpcode instruction.opcode).hasTarget = true
    · rw [if_pos isJump] at found
      obtain ⟨argument, rest, isArgs, isInt⟩ := Instruction.immediate?_eq_some found
      refine ⟨isJump, ?_⟩
      rw [isArgs, List.head?_cons, Option.map_some, isInt]
    · rw [if_neg isJump] at found
      cases found

theorem resolvable_iff {source : Nat} {target : Int32} :
    Resolvable layout? source target ↔ ∃ address, StandsFor layout? source target address := by
  constructor
  · rintro (nonneg | ⟨layout, known, mission, member, contains⟩)
    · exact ⟨_, .absolute nonneg⟩
    · by_cases nonneg : 0 ≤ target.toInt
      · exact ⟨_, .absolute nonneg⟩
      · cases around : layout.missionContaining? source with
        | none => exact absurd contains (List.find?_eq_none.1 around mission member)
        | some first => exact ⟨_, .relative (Int.lt_of_not_ge nonneg) known around⟩
  · rintro ⟨_, nonneg | ⟨_, known, around⟩⟩
    · exact Or.inl nonneg
    · exact Or.inr ⟨_, known, _, List.mem_of_find?_eq_some around, by simpa using List.find?_some around⟩

theorem resolveTarget_eq_ok_iff {source address : Nat} {target : Int32} :
    resolveTarget layout? source target = .ok address ↔ StandsFor layout? source target address := by
  unfold resolveTarget Layout.resolveTarget
  constructor
  · intro success
    by_cases nonneg : 0 ≤ target.toInt
    · simp only [if_pos nonneg] at success
      cases layout? <;> cases success <;> exact .absolute nonneg
    · simp only [if_neg nonneg] at success
      cases layout? with
      | none => cases success
      | some layout =>
        cases around : layout.missionContaining? source with
        | none =>
          simp only [around] at success
          cases success
        | some mission =>
          simp only [around] at success
          cases success
          exact .relative (Int.lt_of_not_ge nonneg) rfl around
  · rintro (nonneg | ⟨negative, rfl, around⟩)
    · cases layout? <;> simp only [if_pos nonneg]
    · simp only [if_neg (Int.not_le_of_gt negative), around]

/-- Whatever target cannot be resolved is reported with the instruction that names it. -/
theorem resolveTarget_error {source : Nat} {target : Int32} {error : Error}
    (failed : resolveTarget layout? source target = .error error) :
    error = .invalidJumpTarget target.toInt source := by
  unfold resolveTarget Layout.resolveTarget at failed
  split at failed
  · split at failed
    · cases failed
    · split at failed
      · cases failed
      · exact (Except.error.inj failed).symm
  · split at failed
    · cases failed
    · exact (Except.error.inj failed).symm

theorem resolveTarget_eq_error_iff {source : Nat} {target : Int32} {error : Error} :
    resolveTarget layout? source target = .error error ↔
      ¬ Resolvable layout? source target ∧ error = .invalidJumpTarget target.toInt source := by
  rw [resolvable_iff]
  constructor
  · intro failed
    refine ⟨?_, resolveTarget_error failed⟩
    rintro ⟨address, standsFor⟩
    cases failed.symm.trans (resolveTarget_eq_ok_iff.2 standsFor)
  · rintro ⟨lost, rfl⟩
    cases resolved : resolveTarget layout? source target with
    | ok address => exact absurd ⟨address, resolveTarget_eq_ok_iff.1 resolved⟩ lost
    | error error => rw [resolveTarget_error resolved]

/-! ## 3. Success and failure -/

/-- An instruction cannot be added exactly when it names a target that cannot be resolved. -/
theorem add_eq_error_iff {map : CodeMap} {instruction : Instruction} {error : Error} :
    map.add layout? instruction = .error error ↔
      ∃ target, Names instruction target ∧ ¬ Resolvable layout? instruction.address target ∧
        error = .invalidJumpTarget target.toInt instruction.address := by
  simp only [names_iff, ← resolveTarget_eq_error_iff]
  unfold add
  cases literal : literalTarget? instruction with
  | none => simp
  | some target =>
    cases resolved : resolveTarget layout? instruction.address target with
    | error failure => simp [resolved]
    | ok address => simp [resolved]

theorem passes_of_add {address : Nat} {map longer : CodeMap} {instruction : Instruction}
    (decoded : registry.decode memory address = .ok instruction)
    (added : map.add layout? instruction = .ok longer) :
    Passes registry memory layout? address := by
  refine ⟨instruction, decoded, fun target names => Classical.byContradiction fun lost => ?_⟩
  rw [← Registry.decode_address decoded] at lost
  cases added.symm.trans (add_eq_error_iff.2 ⟨target, names, lost, rfl⟩)

theorem FailsWith.not_passes {address : Nat} {error : Error}
    (fails : FailsWith registry memory layout? address error) :
    ¬ Passes registry memory layout? address := by
  rintro ⟨instruction, decoded, resolvable⟩
  cases fails with
  | unreadable failed => cases failed.symm.trans decoded
  | unresolved again names lost =>
    cases again.symm.trans decoded
    exact lost (resolvable _ names)

theorem FailsWith.unique {address : Nat} {error other : Error}
    (fails : FailsWith registry memory layout? address error)
    (otherwise : FailsWith registry memory layout? address other) : error = other := by
  cases fails with
  | unreadable failed =>
    cases otherwise with
    | unreadable again => exact Except.error.inj (failed.symm.trans again)
    | unresolved decoded => cases failed.symm.trans decoded
  | unresolved decoded names =>
    cases otherwise with
    | unreadable failed => cases failed.symm.trans decoded
    | unresolved again named =>
      cases decoded.symm.trans again
      cases (names_iff.1 names).symm.trans (names_iff.1 named)
      rfl

/-- Of two first failures neither comes before the other. -/
theorem FirstFailure.unique {start address place : Nat} {error other : Error}
    (first : FirstFailure registry memory layout? start address error)
    (again : FirstFailure registry memory layout? start place other) : error = other := by
  rcases Nat.lt_trichotomy address place with before | rfl | after
  · exact absurd (again.earlier address first.onChain before) first.fails.not_passes
  · exact first.fails.unique again.fails
  · exact absurd (first.earlier place again.onChain after) again.fails.not_passes

/-- A walk that comes to the end has come through addresses that pass. -/
theorem Scans.passes {address : Nat} {map result : CodeMap}
    (scans : Scans registry memory layout? address map (.ok result)) {place : Nat}
    (onChain : OnChain registry memory address place) :
    Passes registry memory layout? place := by
  generalize outcome : Except.ok result = value at scans
  induction scans with
  | stop past => exact absurd onChain.inside (Nat.not_lt_of_le past)
  | unreadable | unresolved => cases outcome
  | step _ decoded added _ ih =>
    cases onChain with
    | here => exact passes_of_add decoded added
    | later _ again rest =>
      cases decoded.symm.trans again
      exact ih rest outcome

/-- A walk that breaks off does so at the first address that does not pass. -/
theorem Scans.firstFailure {address : Nat} {map : CodeMap} {error : Error}
    (scans : Scans registry memory layout? address map (.error error)) :
    ∃ place, FirstFailure registry memory layout? address place error := by
  generalize outcome : (Except.error error : Except Error CodeMap) = value at scans
  induction scans with
  | stop => cases outcome
  | @unreadable address _ _ inside failed =>
    cases outcome
    refine ⟨address, .here inside, .unreadable failed, fun place onChain before => ?_⟩
    exact absurd onChain.le (Nat.not_le_of_lt before)
  | @unresolved address _ instruction _ inside decoded failed =>
    cases outcome
    obtain ⟨target, names, lost, rfl⟩ := add_eq_error_iff.1 failed
    rw [Registry.decode_address decoded] at lost ⊢
    refine ⟨address, .here inside, .unresolved decoded names lost, fun place onChain before => ?_⟩
    exact absurd onChain.le (Nat.not_le_of_lt before)
  | @step address _ _ instruction _ inside decoded added _ ih =>
    obtain ⟨place, onChain, fails, earlier⟩ := ih outcome
    refine ⟨place, .later inside decoded onChain, fails, fun other otherOnChain before => ?_⟩
    cases otherOnChain with
    | here => exact passes_of_add decoded added
    | later _ again rest =>
      cases decoded.symm.trans again
      exact earlier other rest before

theorem build_eq_ok_iff {start : Nat} :
    (∃ map, build registry memory start layout? = .ok map) ↔
      ∀ address, OnChain registry memory start address →
        Passes registry memory layout? address := by
  constructor
  · rintro ⟨map, success⟩ address onChain
    exact (scans_iff_eq_build.2 success.symm).passes onChain
  · intro passes
    cases outcome : build registry memory start layout? with
    | ok map => exact ⟨map, rfl⟩
    | error error =>
      obtain ⟨address, first⟩ := (scans_iff_eq_build.2 outcome.symm).firstFailure
      exact absurd (passes address first.onChain) first.fails.not_passes

theorem build_eq_error_iff {start : Nat} {error : Error} :
    build registry memory start layout? = .error error ↔
      ∃ address, FirstFailure registry memory layout? start address error := by
  constructor
  · intro failed
    exact (scans_iff_eq_build.2 failed.symm).firstFailure
  · rintro ⟨address, first⟩
    cases outcome : build registry memory start layout? with
    | ok map =>
      exact absurd (build_eq_ok_iff.1 ⟨map, outcome⟩ address first.onChain) first.fails.not_passes
    | error other =>
      obtain ⟨place, again⟩ := (scans_iff_eq_build.2 outcome.symm).firstFailure
      rw [again.unique first]

/-! ## 4. Sources -/

/-- The sources of an address are in ascending order, since the starts are. -/
theorem sourcesOf_ascending {map : CodeMap} (sorted : map.starts.toList.Pairwise (· < ·))
    (complete : map.Complete registry memory layout?) (target : Nat) :
    (map.sourcesOf target).Pairwise (· < ·) := by
  have jumps : map.jumps.toList.Pairwise fun left right => left.source < right.source := by
    rw [complete, List.pairwise_filterMap]
    refine sorted.imp fun {first second} less left isLeft right isRight => ?_
    rw [(jumpAt?_eq_some_iff.1 isLeft).1, (jumpAt?_eq_some_iff.1 isRight).1]
    exact less
  exact List.pairwise_map.2 (jumps.filter _)

end CodeMap

/-- Building the code map succeeds exactly when every address on the linear chain passes, and else it
reports what is wrong with the first one that does not. When it succeeds, the sources of an address
are, in ascending order, the jumps and the starts of scripts on the chain with an integer literal as
first argument that stands for the address: the literal itself, or so far behind the start of the
mission that the instruction stands in. -/
theorem jump_sources_exact {H : Type} (registry : Registry H) (memory : Memory) (start : Nat)
    (layout? : Option Layout) :
    ((∃ map, CodeMap.build registry memory start layout? = .ok map) ↔
      ∀ address, CodeMap.OnChain registry memory start address →
        CodeMap.Passes registry memory layout? address) ∧
    (∀ error, CodeMap.build registry memory start layout? = .error error ↔
      ∃ address, CodeMap.FirstFailure registry memory layout? start address error) ∧
    ∀ map, CodeMap.build registry memory start layout? = .ok map → ∀ target,
      (map.sourcesOf target).Pairwise (· < ·) ∧
      ∀ source, source ∈ map.sourcesOf target ↔
        CodeMap.OnChain registry memory start source ∧
          ∃ instruction number, registry.decode memory source = .ok instruction ∧
            (∃ builtin ∈ Builtin.jumps, instruction.opcode = builtin.opcode) ∧
            instruction.args.head?.map Argument.operand = some (.int number) ∧
            CodeMap.StandsFor layout? source number target := by
  refine ⟨CodeMap.build_eq_ok_iff, fun _ => CodeMap.build_eq_error_iff, ?_⟩
  intro map success target
  have chain := CodeMap.build_chain success
  have complete := CodeMap.build_complete success
  refine ⟨CodeMap.sourcesOf_ascending chain.ascending complete target, fun source => ?_⟩
  rw [CodeMap.mem_sourcesOf_iff complete, ← Array.mem_toList_iff, chain.mem_iff_onChain]
  simp only [← CodeMap.names_iff, CodeMap.resolveTarget_eq_ok_iff, CodeMap.names_iff_of_jumps,
    and_assoc]

namespace JumpSourcesExample

/-- A jump to 9, a start of a script at 9, a jump to two bytes behind the start of its mission and a
jump to where a variable says. -/
def memory : Memory := Memory.ofBytes #[
  0x02, 0x00, 0x01, 0x09, 0x00, 0x00, 0x00,
  0x4F, 0x00, 0x04, 0x09, 0x00,
  0x02, 0x00, 0x04, 0xFE,
  0x02, 0x00, 0x02, 0x09, 0x00]

/-- One mission, from the second instruction on. -/
def layout : Layout := { (default : Layout) with missions := [⟨7, 20⟩] }

end JumpSourcesExample

open JumpSourcesExample in
/-- Three of the four instructions are sources of the address, the third one by way of its mission.
Without a layout the third one is where building fails. -/
theorem three_sources_of_nine :
    (∃ map, CodeMap.build LinearScanExample.registry memory 0 (some layout) = .ok map ∧
      map.sourcesOf 9 = [0, 7, 12] ∧ (map.sourcesOf 9).Pairwise (· < ·) ∧
      CodeMap.OnChain LinearScanExample.registry memory 0 12 ∧
      ∃ instruction number,
        LinearScanExample.registry.decode memory 12 = .ok instruction ∧
        (∃ builtin ∈ Builtin.jumps, instruction.opcode = builtin.opcode) ∧
        instruction.args.head?.map Argument.operand = some (.int number) ∧
        CodeMap.StandsFor (some layout) 12 number 9) ∧
    ∃ address, CodeMap.FirstFailure LinearScanExample.registry memory none 0 address
      (.invalidJumpTarget (-2) 12) := by
  have success : CodeMap.build LinearScanExample.registry memory 0 (some layout) =
      .ok ⟨#[0, 7, 12, 16], #[⟨0, 9⟩, ⟨7, 9⟩, ⟨12, 9⟩]⟩ := rfl
  have failed : CodeMap.build LinearScanExample.registry memory 0 none =
      .error (.invalidJumpTarget (-2) 12) := rfl
  obtain ⟨ascending, sources⟩ :=
    (jump_sources_exact LinearScanExample.registry memory 0 (some layout)).2.2 _ success 9
  refine ⟨⟨_, success, by decide, ascending, (sources 12).1 (by decide)⟩, ?_⟩
  exact ((jump_sources_exact LinearScanExample.registry memory 0 none).2.1 _).1 failed

end MissionScript
