import MissionScript.Thread

/-!
# Call stacks

A thread keeps its return addresses in eight slots, from the bottom, and counts how many of them are in
use. A return only lowers the count, so the slots above it hold addresses that are left over. This
module shows that nothing of this can be seen: the slots in use are a list, `Thread.returns`, that
calls and returns change at its head.

Results:
1. `Thread.callStack_eq_take`: the call stack is the lower part of the slots.
2. `Thread.pushReturn_eq` and `Thread.returns_called`: what a call does to the list, and when it fails.
3. `Thread.popReturn_eq_ok_iff` and `Thread.popReturn_eq_error_iff`: the same for a return.
-/

namespace MissionScript

namespace Thread

variable {thread : Thread} {address : Nat} {rest : List Nat}

theorem length_callStack (thread : Thread) : thread.callStack.length = thread.depth := by
  rw [callStack, List.length_map, List.length_range]

theorem length_returns (thread : Thread) : thread.returns.length = thread.depth := by
  rw [returns, List.length_reverse, length_callStack]

theorem reverse_returns (thread : Thread) : thread.returns.reverse = thread.callStack :=
  List.reverse_reverse _

/-- As long as calls are not nested too deeply, the call stack is what the lower slots hold. -/
theorem callStack_eq_take (shallow : thread.depth ≤ callDepth) :
    thread.callStack = thread.stack.toList.take thread.depth := by
  refine List.ext_getElem? fun level => ?_
  rw [callStack, List.getElem?_map, List.getElem?_take]
  by_cases inUse : level < thread.depth
  · have room : level < callDepth := Nat.lt_of_lt_of_le inUse shallow
    rw [List.getElem?_range inUse, if_pos inUse, Vector.getElem?_toList, Option.map_some, returnAt,
      Vector.getElem?_eq_getElem room, Option.getD_some]
  · rw [if_neg inUse, List.getElem?_eq_none (by simpa using inUse), Option.map_none]

/-! ## 1. Calls -/

/-- A call writes above the slots in use. -/
theorem returnAt_called (room : thread.depth < callDepth) {level : Nat} :
    (thread.called address).returnAt level =
      if level = thread.depth then address else thread.returnAt level := by
  unfold returnAt called
  by_cases top : level = thread.depth
  · rw [if_pos top, top, Vector.getElem?_setIfInBounds_self_of_lt room, Option.getD_some]
  · rw [if_neg top, Vector.getElem?_setIfInBounds_ne (Ne.symm top)]

theorem callStack_called (room : thread.depth < callDepth) :
    (thread.called address).callStack = thread.callStack ++ [address] := by
  have below : (List.range thread.depth).map (thread.called address).returnAt =
      thread.callStack := by
    refine List.map_congr_left fun level member => ?_
    rw [returnAt_called room, if_neg (Nat.ne_of_lt (List.mem_range.1 member))]
  show (List.range (thread.depth + 1)).map _ = _
  rw [List.range_succ, List.map_append, below, List.map_singleton, returnAt_called room, if_pos rfl]

theorem returns_called (room : thread.depth < callDepth) :
    (thread.called address).returns = address :: thread.returns := by
  rw [returns, callStack_called room, List.reverse_concat, returns]

/-- A call fails when eight calls are open. -/
theorem pushReturn_eq (thread : Thread) (address : Nat) :
    thread.pushReturn address = if callDepth ≤ thread.returns.length then
      .error (.callStackOverflow callDepth) else .ok (thread.called address) := by
  rw [length_returns]
  rfl

/-! ## 2. Returns -/

/-- A return leaves the slots alone, and with them what is returned to later. -/
theorem callStack_eq_concat (isOpen : thread.depth ≠ 0) :
    thread.callStack = thread.returned.callStack ++ [thread.returnAt (thread.depth - 1)] := by
  have depth : thread.depth = thread.depth - 1 + 1 := (Nat.succ_pred_eq_of_ne_zero isOpen).symm
  rw [callStack, depth, List.range_succ, List.map_append]
  rfl

theorem returns_eq_cons (isOpen : thread.depth ≠ 0) :
    thread.returns = thread.returnAt (thread.depth - 1) :: thread.returned.returns := by
  rw [returns, callStack_eq_concat isOpen, List.reverse_concat, returns]

theorem depth_eq_zero_iff : thread.depth = 0 ↔ thread.returns = [] := by
  rw [← length_returns, List.length_eq_zero_iff]

/-- A return gives the innermost address and leaves the others. -/
theorem popReturn_eq_ok_iff {after : Thread} :
    thread.popReturn = .ok (address, after) ↔
      thread.returns = address :: after.returns ∧ after = thread.returned := by
  unfold popReturn
  by_cases closed : thread.depth = 0
  · rw [if_pos closed, depth_eq_zero_iff.1 closed]
    simp
  · rw [if_neg closed, returns_eq_cons closed]
    constructor
    · intro popped
      cases popped
      exact ⟨rfl, rfl⟩
    · rintro ⟨same, rfl⟩
      rw [(List.cons.inj same).1]

/-- A return fails when no call is open. -/
theorem popReturn_eq_error_iff {error : Error} :
    thread.popReturn = .error error ↔ thread.returns = [] ∧ error = .callStackUnderflow := by
  unfold popReturn
  rw [← depth_eq_zero_iff]
  by_cases closed : thread.depth = 0
  · simp [closed, eq_comm]
  · simp [closed]

end Thread

end MissionScript
