import MissionScript.Error

/-!
# Condition blocks

A block opens with a number of empty slots. Each condition fills the first empty slot; resolving
the block combines the slots into one truth value. Resolving closes the block, also when some slot
is still empty and there is no truth value.
-/

namespace MissionScript

/-- How the conditions of a block combine. -/
inductive Combine where
  | all
  | any
deriving DecidableEq, Repr, Inhabited

/-- The greatest number of conditions in a block. -/
def maxConditions : Nat := 8

/-- A block that is being filled. -/
structure Block where
  combine : Combine
  slots : List (Option Bool)
deriving DecidableEq, Repr

structure Conditions where
  block? : Option Block
deriving DecidableEq, Repr

/-- Fills the first empty slot; there is no answer when all are filled. -/
def fillFirst? (value : Bool) : List (Option Bool) → Option (List (Option Bool))
  | [] => none
  | none :: rest => some (some value :: rest)
  | some filled :: rest => (fillFirst? value rest).map (some filled :: ·)

/-- Filling a slot keeps the number of slots. -/
theorem length_of_fillFirst? {value : Bool} {slots filled : List (Option Bool)}
    (found : fillFirst? value slots = some filled) : filled.length = slots.length := by
  induction slots generalizing filled with
  | nil => simp [fillFirst?] at found
  | cons slot rest ih =>
    cases slot with
    | none =>
      simp only [fillFirst?, Option.some.injEq] at found
      simp [← found]
    | some earlier =>
      simp only [fillFirst?, Option.map_eq_some_iff] at found
      obtain ⟨tail, filledTail, rfl⟩ := found
      simp [ih filledTail]

/-- The values in the slots, if all are filled. -/
def filled? : List (Option Bool) → Option (List Bool)
  | [] => some []
  | none :: _ => none
  | some value :: rest => (filled? rest).map (value :: ·)

def Combine.apply : Combine → List Bool → Bool
  | .all, values => values.all id
  | .any, values => values.any id

namespace Conditions

/-- No block is open. -/
def closed : Conditions := ⟨none⟩

def isOpen (conditions : Conditions) : Bool := conditions.block?.isSome

def slots? (conditions : Conditions) : Option (List (Option Bool)) := conditions.block?.map Block.slots

/-- Opens a block in place of any block that is open. -/
def start (capacity : Nat) (combine : Combine) : Except Error Conditions :=
  if capacity = 0 ∨ maxConditions < capacity then .error (.conditionMisuse .badCount)
  else .ok ⟨some ⟨combine, List.replicate capacity none⟩⟩

/-- Records a condition, inverted when it is negated. -/
def push (conditions : Conditions) (value negated : Bool) : Except Error Conditions :=
  match conditions.block? with
  | none => .error (.conditionMisuse .noBlock)
  | some block =>
    match fillFirst? (value != negated) block.slots with
    | none => .error (.conditionMisuse .tooMany)
    | some slots => .ok ⟨some { block with slots }⟩

/-- The truth value of the open block. -/
def value (conditions : Conditions) : Except Error Bool :=
  match conditions.block? with
  | none => .error (.conditionMisuse .notOpen)
  | some block =>
    match filled? block.slots with
    | none => .error (.conditionMisuse .tooFew)
    | some values => .ok (block.combine.apply values)

/-- The truth value of the open block, and the state after resolving it: closed in every case. -/
def resolve (conditions : Conditions) : Except Error Bool × Conditions := (conditions.value, closed)

end Conditions

end MissionScript
