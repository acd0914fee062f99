import MissionScript.Proofs.ConditionBlocks

/-!
# Condition blocks as bounded lists

A block keeps its answers in slots, some of them empty, and looks for the first empty slot when an
answer comes. Seen from outside it is simpler than that: a list of answers with a bound on its length
(`Tally`). Answers go to the end of the list, and the block can be resolved once the list is as long as
its bound. This module shows that nobody who opens, fills and resolves blocks can tell the two apart,
in whatever order this is done and whether or not the single calls succeed.

Results:
1. `Conditions.ofTally?_injective`: slots hold neither less nor more than a tally does.
2. `Conditions.call_ofTally?`: each call does to the slots what it does to the tally.
3. `Conditions.callAll_ofTally?`: so does every sequence of calls.
4. `block_is_bounded_list`: the state after any calls, and what any further call does there.
-/

namespace MissionScript

/-! ## 1. Tallies -/

/-- The answers that a block has so far, in order, at most as many as it was opened for. -/
structure Tally where
  capacity : Nat
  combine : Combine
  answers : List Bool
  positive : 0 < capacity
  bounded : capacity ≤ 8
  fits : answers.length ≤ capacity

namespace Tally

/-- A block that was just opened. -/
def opened (capacity : Nat) (combine : Combine) (valid : 0 < capacity ∧ capacity ≤ 8) : Tally :=
  ⟨capacity, combine, [], valid.1, valid.2, Nat.zero_le capacity⟩

/-- One more answer. -/
def append (tally : Tally) (answer : Bool) (room : tally.answers.length < tally.capacity) : Tally :=
  { tally with
    answers := tally.answers ++ [answer]
    fits := Nat.le_trans (Nat.le_of_eq List.length_append) room }

/-- The answers, and empty slots up to the capacity. -/
def slots (tally : Tally) : List (Option Bool) :=
  tally.answers.map some ++ List.replicate (tally.capacity - tally.answers.length) none

/-- One more answer fills the first empty slot. -/
theorem slots_append (tally : Tally) (answer : Bool) (room : tally.answers.length < tally.capacity) :
    ∃ empty, tally.slots = tally.answers.map some ++ none :: empty ∧
      (tally.append answer room).slots = tally.answers.map some ++ some answer :: empty := by
  obtain ⟨missing, isMissing⟩ : ∃ missing, tally.capacity - tally.answers.length = missing + 1 :=
    Nat.exists_eq_succ_of_ne_zero (by omega)
  have lessMissing : tally.capacity - (tally.append answer room).answers.length = missing := by
    simp only [append, List.length_append, List.length_singleton]
    omega
  refine ⟨List.replicate missing none, ?_, ?_⟩
  · rw [slots, isMissing, List.replicate_succ]
  · have capacity : (tally.append answer room).capacity = tally.capacity := rfl
    rw [slots, capacity, lessMissing]
    simp only [append, List.map_append, List.map_singleton, List.append_assoc, List.singleton_append]

/-- Whether all answers hold, or some answer does. -/
def verdict (tally : Tally) : Bool :=
  match tally.combine with
  | .all => decide (∀ answer ∈ tally.answers, answer = true)
  | .any => decide (∃ answer ∈ tally.answers, answer = true)

theorem apply_answers (tally : Tally) : tally.combine.apply tally.answers = tally.verdict := by
  unfold verdict
  cases tally.combine with
  | all => exact Bool.eq_iff_iff.2 (List.all_eq_true.trans decide_eq_true_iff.symm)
  | any => exact Bool.eq_iff_iff.2 (List.any_eq_true.trans decide_eq_true_iff.symm)

end Tally

/-- What can be asked of the condition block. -/
inductive Conditions.Call where
  | start (capacity : Nat) (combine : Combine)
  | push (value negated : Bool)
  | resolve
deriving DecidableEq, Repr

/-- The reply of a bounded list to a call, and the list after it; no list is there while no block is
open. Opening is refused for a number of answers outside one to eight, and otherwise drops the list that
was there. An answer, inverted when it is negated, goes to the end of a list that is not full. A block is
resolved when its list is full, and is gone in any case. What is refused otherwise changes nothing. -/
def Tally.respond (tally? : Option Tally) :
    Conditions.Call → Except ConditionMisuse (Option Bool) × Option Tally
  | .start capacity combine =>
    if valid : 0 < capacity ∧ capacity ≤ 8 then (.ok none, some (.opened capacity combine valid))
    else (.error .badCount, tally?)
  | .push value negated =>
    match tally? with
    | none => (.error .noBlock, none)
    | some tally =>
      if room : tally.answers.length < tally.capacity then
        (.ok none, some (tally.append (xor value negated) room))
      else (.error .tooMany, some tally)
  | .resolve =>
    match tally? with
    | none => (.error .notOpen, none)
    | some tally =>
      if tally.answers.length = tally.capacity then (.ok (some tally.verdict), none)
      else (.error .tooFew, none)

/-! ## 2. Slots and tallies -/

/-- The first empty slot is looked for behind all answers. -/
theorem fillFirst?_answers (value : Bool) (answers : List Bool) (slots : List (Option Bool)) :
    fillFirst? value (answers.map some ++ slots) =
      (fillFirst? value slots).map (answers.map some ++ ·) := by
  induction answers with
  | nil => exact Option.map_id'.symm
  | cons answer rest ih => rw [List.map_cons, List.cons_append, fillFirst?, ih, Option.map_map]; rfl

theorem filterMap_slots (answers : List Bool) (missing : Nat) :
    (answers.map some ++ List.replicate missing none).filterMap id = answers := by
  rw [List.filterMap_append, List.filterMap_map, List.filterMap_replicate_of_none rfl, List.append_nil]
  exact List.filterMap_some

namespace Conditions

/-- The block with the slots of a tally. -/
def ofTally? : Option Tally → Conditions
  | none => closed
  | some tally => ⟨some ⟨tally.combine, tally.slots⟩⟩

theorem slots?_ofTally? (tally? : Option Tally) : (ofTally? tally?).slots? = tally?.map Tally.slots := by
  cases tally? <;> rfl

theorem ofTally?_injective {left right : Option Tally} (same : ofTally? left = ofTally? right) :
    left = right := by
  cases left with
  | none =>
    cases right with
    | none => rfl
    | some right => cases same
  | some left =>
    cases right with
    | none => cases same
    | some right =>
      obtain ⟨sameCombine, sameSlots⟩ := Block.mk.inj (Option.some.inj (Conditions.mk.inj same))
      have sameAnswers : left.answers = right.answers := by
        rw [← filterMap_slots left.answers, ← filterMap_slots right.answers]
        exact congrArg (List.filterMap id) sameSlots
      have sameLength := congrArg List.length sameSlots
      have leftFits := left.fits
      have rightFits := right.fits
      simp only [Tally.slots, List.length_append, List.length_map, List.length_replicate] at sameLength
      have sameCapacity : left.capacity = right.capacity := by omega
      cases left
      cases right
      cases sameCombine
      cases sameAnswers
      cases sameCapacity
      rfl

/-! ## 3. Calls -/

/-- The reply to a call that either gives the next state or fails; then the state stays. -/
def keeping (conditions : Conditions) :
    Except Error Conditions → Except Error (Option Bool) × Conditions
  | .ok after => (.ok none, after)
  | .error error => (.error error, conditions)

/-- Carries out a call: the truth value if one was asked for, and the state after the call. -/
def call (conditions : Conditions) : Call → Except Error (Option Bool) × Conditions
  | .start capacity combine => conditions.keeping (start capacity combine)
  | .push value negated => conditions.keeping (conditions.push value negated)
  | .resolve => (conditions.resolve.1.map some, conditions.resolve.2)

/-- The state after a sequence of calls, whether or not they succeed. -/
def callAll (conditions : Conditions) (calls : List Call) : Conditions :=
  calls.foldl (fun conditions call => (conditions.call call).2) conditions

theorem start_of_valid {capacity : Nat} (combine : Combine) (valid : 0 < capacity ∧ capacity ≤ 8) :
    start capacity combine = .ok (ofTally? (some (.opened capacity combine valid))) := by
  have notRefused : ¬ (capacity = 0 ∨ maxConditions < capacity) := by
    unfold maxConditions
    omega
  rw [start, if_neg notRefused]
  rfl

theorem start_of_not_valid {capacity : Nat} (combine : Combine)
    (notValid : ¬ (0 < capacity ∧ capacity ≤ 8)) :
    start capacity combine = .error (.conditionMisuse .badCount) := by
  have refused : capacity = 0 ∨ maxConditions < capacity := by
    unfold maxConditions
    omega
  rw [start, if_pos refused]

/-- With room, the first empty slot is right behind the answers. -/
theorem push_of_room {tally : Tally} (value negated : Bool)
    (room : tally.answers.length < tally.capacity) :
    (ofTally? (some tally)).push value negated =
      .ok (ofTally? (some (tally.append (xor value negated) room))) := by
  obtain ⟨empty, before, after⟩ := tally.slots_append (xor value negated) room
  have fills : fillFirst? (value != negated) tally.slots =
      some (tally.append (xor value negated) room).slots := by
    rw [before, after, fillFirst?_answers]
    rfl
  simp only [push, ofTally?, fills]
  rfl

/-- A full block has no empty slot. -/
theorem push_of_full {tally : Tally} (value negated : Bool)
    (full : ¬ tally.answers.length < tally.capacity) :
    (ofTally? (some tally)).push value negated = .error (.conditionMisuse .tooMany) := by
  have noneLeft : tally.capacity - tally.answers.length = 0 := by omega
  have fails : fillFirst? (value != negated) tally.slots = none := by
    rw [Tally.slots, noneLeft, fillFirst?_answers]
    rfl
  simp only [push, ofTally?, fails]

theorem value_ofTally (tally : Tally) :
    (ofTally? (some tally)).value =
      if tally.answers.length = tally.capacity then .ok tally.verdict
      else .error (.conditionMisuse .tooFew) := by
  have fits := tally.fits
  have full_iff : tally.capacity - tally.answers.length = 0 ↔
      tally.answers.length = tally.capacity := by omega
  simp only [value, ofTally?, Tally.slots, filled?_filling, full_iff]
  by_cases full : tally.answers.length = tally.capacity
  · rw [if_pos full, if_pos full, ← tally.apply_answers]
  · rw [if_neg full, if_neg full]

/-- Every call does to the slots what it does to the tally, and has the same reply. -/
theorem call_ofTally? (tally? : Option Tally) (call : Call) :
    (ofTally? tally?).call call =
      ((Tally.respond tally? call).1.mapError Error.conditionMisuse,
        ofTally? (Tally.respond tally? call).2) := by
  cases call with
  | start capacity combine =>
    rw [Conditions.call, Tally.respond]
    by_cases valid : 0 < capacity ∧ capacity ≤ 8
    · rw [start_of_valid combine valid, dif_pos valid]
      rfl
    · rw [start_of_not_valid combine valid, dif_neg valid]
      rfl
  | push value negated =>
    cases tally? with
    | none => rfl
    | some tally =>
      rw [Conditions.call, Tally.respond]
      by_cases room : tally.answers.length < tally.capacity
      · rw [push_of_room value negated room, dif_pos room]
        rfl
      · rw [push_of_full value negated room, dif_neg room]
        rfl
  | resolve =>
    cases tally? with
    | none => rfl
    | some tally =>
      rw [Conditions.call, Tally.respond, resolve, value_ofTally]
      split <;> rfl

/-- What each call does, a sequence of calls does. -/
theorem callAll_ofTally? (tally? : Option Tally) (calls : List Call) :
    (ofTally? tally?).callAll calls =
      ofTally? (calls.foldl (fun tally? call => (Tally.respond tally? call).2) tally?) := by
  induction calls generalizing tally? with
  | nil => rfl
  | cons call rest ih =>
    rw [callAll, List.foldl_cons, List.foldl_cons, call_ofTally? tally? call]
    exact ih (Tally.respond tally? call).2

end Conditions

/-- Make any calls, starting with no open block. The state is then that of one tally and of no other, the
one that the same calls make of no tally: its slots are the answers in order and then empty slots. Every
further call gets the reply that the tally gives, and leaves the state of the tally after it. -/
theorem block_is_bounded_list (calls : List Conditions.Call) :
    let state := Conditions.closed.callAll calls
    let tally? := calls.foldl (fun tally? call => (Tally.respond tally? call).2) none
    (∀ other?, state = .ofTally? other? ↔ other? = tally?) ∧
      state.slots? = tally?.map Tally.slots ∧
      ∀ call, (state.call call).1 = (Tally.respond tally? call).1.mapError Error.conditionMisuse ∧
        (state.call call).2 = .ofTally? (Tally.respond tally? call).2 := by
  intro state tally?
  have isTally : state = .ofTally? tally? := Conditions.callAll_ofTally? none calls
  refine ⟨fun other? => ⟨fun isOther => ?_, fun same => same ▸ isTally⟩, ?_, fun call => ?_⟩
  · exact Conditions.ofTally?_injective (isOther.symm.trans isTally)
  · rw [isTally, Conditions.slots?_ofTally?]
  · rw [isTally, Conditions.call_ofTally?]
    exact ⟨rfl, rfl⟩

end MissionScript
