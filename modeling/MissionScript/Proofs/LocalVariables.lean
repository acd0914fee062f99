import MissionScript.Machine.Frame
import MissionScript.Proofs.Results

/-!
# Local variables and timers

A thread reads its timers and its variables under one range of indices, but keeps them differently:
a variable as the value that was stored, a timer as the time at which it reads zero. A timer that is
read is therefore the difference of two times, taken in 64 bits and then cut down to 32.

Results:
1. `signed64_of_bounds` and `toInt_clampInt32`: the two changes of width. Below a quarter of the
   range of times no difference leaves the 64 bits.
2. `Thread.setLocal_refused` and `Thread.getLocal_eq_error_iff`: what is refused.
3. `Thread.Elsewhere.getLocal_eq`: what is read under an index does not depend on what is stored under
   others.
4. `variables_keep_and_timers_count`: what is read after any such stores.
-/

namespace MissionScript

/-! ## 1. Changes of width -/

theorem signed64_of_bounds {value : Int} (low : -0x8000000000000000 ≤ value)
    (high : value < 0x8000000000000000) : signed64 value = value := by
  unfold signed64
  rw [Int.bmod_eq_of_le] <;> omega

theorem toInt_clampInt32 (value : Int) :
    (clampInt32 value).toInt = max (-0x80000000) (min 0x7FFFFFFF value) := by
  unfold clampInt32
  exact Int32.toInt_ofInt_of_le (by omega) (by omega)

/-- The value is an integer, the one of 32 bits that is nearest to an exact one. -/
def Value.Clamps (value : Value) (exact : Int) : Prop :=
  ∃ number, value = .int number ∧ number.toInt = max (-0x80000000) (min 0x7FFFFFFF exact)

/-- An index of a timer. -/
def IsTimer (index : Nat) : Prop := localSlots ≤ index ∧ index < localSlots + timerSlots

theorem IsTimer.inside {index : Nat} (isTimer : IsTimer index) : index - localSlots < timerSlots :=
  Nat.sub_lt_left_of_lt_add isTimer.1 isTimer.2

theorem slot_cases (index : Nat) :
    index < localSlots ∨ IsTimer index ∨ localSlots + timerSlots ≤ index := by
  rcases Nat.lt_or_ge index localSlots with isVariable | notVariable
  · exact Or.inl isVariable
  · rcases Nat.lt_or_ge index (localSlots + timerSlots) with isTimer | behind
    · exact Or.inr (Or.inl ⟨notVariable, isTimer⟩)
    · exact Or.inr (Or.inr behind)

namespace Thread

variable {thread changed : Thread} {index now : Nat} {value : Value}

/-! ## 2. Storing -/

theorem setLocal_of_lt (isVariable : index < localSlots) :
    thread.setLocal index value now =
      .ok { thread with locals := thread.locals.insert index value } :=
  if_pos isVariable

theorem setLocal_of_number (isTimer : IsTimer index) {elapsed : Int}
    (isNumber : value.elapsed? = some elapsed) :
    thread.setLocal index value now = .ok { thread with
      timers := thread.timers.setIfInBounds (index - localSlots) (signed64 (now - elapsed)) } := by
  unfold setLocal
  rw [if_neg (Nat.not_lt_of_le isTimer.1), if_pos isTimer.2, isNumber]

theorem setLocal_of_text (isTimer : IsTimer index) (noNumber : value.elapsed? = none) :
    thread.setLocal index value now = .error (slotError index) := by
  unfold setLocal
  rw [if_neg (Nat.not_lt_of_le isTimer.1), if_pos isTimer.2, noNumber]

theorem setLocal_of_behind (behind : localSlots + timerSlots ≤ index) :
    thread.setLocal index value now = .error (slotError index) := by
  unfold setLocal
  rw [if_neg (Nat.not_lt_of_le (Nat.le_trans (Nat.le_add_right _ _) behind)),
    if_neg (Nat.not_lt_of_le behind)]

/-- Behind the timers everything is refused, and for a timer text. -/
theorem setLocal_refused
    (refused : localSlots + timerSlots ≤ index ∨ IsTimer index ∧ ∃ text, value = .text text) :
    thread.setLocal index value now = .error (slotError index) := by
  rcases refused with behind | ⟨isTimer, text, rfl⟩
  · exact setLocal_of_behind behind
  · exact setLocal_of_text isTimer rfl

/-! ## 3. Reading -/

theorem getLocal_of_lt (isVariable : index < localSlots) :
    thread.getLocal index now = .ok ((thread.locals.get? index).getD (.int 0)) :=
  if_pos isVariable

theorem getLocal_of_base (notVariable : localSlots ≤ index) {base : Int}
    (isBase : thread.timers[index - localSlots]? = some base) :
    thread.getLocal index now = .ok (.int (clampInt32 (signed64 (now - base)))) := by
  unfold getLocal
  rw [if_neg (Nat.not_lt_of_le notVariable), isBase]

theorem getLocal_of_behind (behind : localSlots + timerSlots ≤ index) :
    thread.getLocal index now = .error (slotError index) := by
  unfold getLocal
  rw [if_neg (Nat.not_lt_of_le (Nat.le_trans (Nat.le_add_right _ _) behind)),
    Vector.getElem?_eq_none (Nat.le_sub_of_add_le' behind)]

/-- A read is refused behind the timers and nowhere else. -/
theorem getLocal_eq_error_iff {error : Error} :
    thread.getLocal index now = .error error ↔
      localSlots + timerSlots ≤ index ∧ error = slotError index := by
  constructor
  · intro failed
    rcases slot_cases index with isVariable | isTimer | behind
    · rw [getLocal_of_lt isVariable] at failed
      cases failed
    · rw [getLocal_of_base isTimer.1 (Vector.getElem?_eq_getElem isTimer.inside)] at failed
      cases failed
    · rw [getLocal_of_behind behind] at failed
      exact ⟨behind, (Except.error.inj failed).symm⟩
  · rintro ⟨behind, rfl⟩
    exact getLocal_of_behind behind

/-- A timer reads the time since its base, as long as the difference fits into 64 bits. -/
theorem getLocal_clamps (notVariable : localSlots ≤ index) {base : Int}
    (isBase : thread.timers[index - localSlots]? = some base) (low : -0x4000000000000000 ≤ base)
    (high : base < 0x8000000000000000) (early : now < 0x4000000000000000) :
    ∃ value, thread.getLocal index now = .ok value ∧ value.Clamps (now - base) := by
  refine ⟨_, getLocal_of_base notVariable isBase, _, rfl, ?_⟩
  rw [toInt_clampInt32, signed64_of_bounds (by omega) (by omega)]

/-- A timer that was set to a number reads that number and the time since then. -/
theorem getLocal_of_stored (isTimer : IsTimer index) {later : Nat} (notBefore : now ≤ later)
    (early : later < 0x4000000000000000) {number : Int32}
    (success : thread.setLocal index (.int number) now = .ok changed) :
    ∃ value, changed.getLocal index later = .ok value ∧
      value.Clamps (number.toInt + (later - now)) := by
  have low := number.le_toInt
  have high := number.toInt_lt
  have isBase : changed.timers[index - localSlots]? = some (now - number.toInt) := by
    rw [setLocal_of_number isTimer rfl] at success
    cases success
    rw [Vector.getElem?_setIfInBounds_self_of_lt isTimer.inside,
      signed64_of_bounds (by omega) (by omega)]
  obtain ⟨value, read, clamps⟩ :=
    getLocal_clamps isTimer.1 isBase (by omega) (by omega) early
  refine ⟨value, read, ?_⟩
  rw [show number.toInt + ((later : Int) - now) = later - (now - number.toInt) by omega]
  exact clamps

/-- A timer that was never set reads the time since its thread was born. -/
theorem getLocal_of_born (isTimer : IsTimer index) {born later : Nat} (notAfter : born ≤ later)
    (early : later < 0x4000000000000000)
    (unset : thread.timers = Vector.replicate timerSlots (signed64 born)) :
    ∃ value, thread.getLocal index later = .ok value ∧ value.Clamps (later - born) := by
  have isBase : thread.timers[index - localSlots]? = some (born : Int) := by
    rw [unset, Vector.getElem?_replicate, if_pos isTimer.inside,
      signed64_of_bounds (by omega) (by omega)]
  exact getLocal_clamps isTimer.1 isBase (by omega) (by omega) early

/-! ## 4. Stores under other indices -/

/-- A store under an index is not seen under another. -/
theorem getLocal_setLocal_of_ne {other later : Nat} (apart : index ≠ other)
    (success : thread.setLocal index value now = .ok changed) :
    changed.getLocal other later = thread.getLocal other later := by
  rcases slot_cases index with isVariable | isTimer | behind
  · rw [setLocal_of_lt isVariable] at success
    cases success
    simp only [getLocal, Table.get?_insert, if_neg apart]
  · cases isNumber : value.elapsed? with
    | none =>
      rw [setLocal_of_text isTimer isNumber] at success
      cases success
    | some elapsed =>
      rw [setLocal_of_number isTimer isNumber] at success
      cases success
      unfold getLocal
      split
      · rfl
      · next notVariable =>
        have notBefore := isTimer.1
        have timersApart : index - localSlots ≠ other - localSlots := by omega
        rw [Vector.getElem?_setIfInBounds_ne timersApart]
  · rw [setLocal_of_behind behind] at success
    cases success

end Thread

/-- One store to a local variable or timer, at a time. -/
structure LocalStore where
  index : Nat
  value : Value
  time : Nat
deriving DecidableEq, Repr

namespace Thread

/-- Makes stores in order. -/
def setAll (thread : Thread) (stores : List LocalStore) : Except Error Thread :=
  stores.foldlM (fun thread store => thread.setLocal store.index store.value store.time) thread

/-- A thread comes from another by stores that all succeed, none of them under the given index. -/
def Elsewhere (index : Nat) (before after : Thread) : Prop :=
  ∃ stores, (∀ store ∈ stores, store.index ≠ index) ∧ before.setAll stores = .ok after

theorem Elsewhere.getLocal_eq {index : Nat} {before after : Thread}
    (elsewhere : Elsewhere index before after) (later : Nat) :
    after.getLocal index later = before.getLocal index later := by
  obtain ⟨stores, apart, success⟩ := elsewhere
  refine foldlM_invariant (fun thread => thread.getLocal index later = before.getLocal index later)
    rfl ?_ success
  intro store member thread next same stored
  exact (getLocal_setLocal_of_ne (apart store member) stored).trans same

end Thread

/-- What is read under an index after any stores under others. A variable reads the value that was
stored there. A timer that was set to a number reads that number and the time since then, and one that
was never set the time since its thread was born, cut down to 32 bits. Behind the timers nothing is
read or stored, and no text is stored in a timer: the operation fails and the frame stays as it was. -/
theorem variables_keep_and_timers_count (thread : Thread) (index now later : Nat)
    (notBefore : now ≤ later) (early : later < 0x4000000000000000) :
    (index < localSlots → ∀ value, ∃ changed, thread.setLocal index value now = .ok changed ∧
      ∀ after, Thread.Elsewhere index changed after → after.getLocal index later = .ok value) ∧
    (IsTimer index → ∀ number : Int32, ∃ changed,
      thread.setLocal index (.int number) now = .ok changed ∧
      ∀ after, Thread.Elsewhere index changed after →
        ∃ value, after.getLocal index later = .ok value ∧
          value.Clamps (number.toInt + (later - now))) ∧
    (IsTimer index → ∀ id pc born, born ≤ later →
      ∀ fresh ∈ [Thread.ofStart id pc born, Thread.ofMission id pc born],
      ∀ after, Thread.Elsewhere index fresh after →
        ∃ value, after.getLocal index later = .ok value ∧ value.Clamps (later - born)) ∧
    (localSlots + timerSlots ≤ index →
      thread.getLocal index later = .error (.invalidLocalSlot index 34)) ∧
    ∀ value, (localSlots + timerSlots ≤ index ∨ IsTimer index ∧ ∃ text, value = .text text) →
      thread.setLocal index value now = .error (.invalidLocalSlot index 34) ∧
      ∀ site frame id, frame.schedule.thread? id = some thread →
        (Operation.setThreadLocal id index value).perform site frame =
          (.error (.invalidLocalSlot index 34), frame) := by
  refine ⟨?_, ?_, ?_, ?_, ?_⟩
  · intro isVariable value
    refine ⟨_, Thread.setLocal_of_lt isVariable, fun after elsewhere => ?_⟩
    rw [elsewhere.getLocal_eq, Thread.getLocal_of_lt isVariable, Table.get?_insert, if_pos rfl]
    rfl
  · intro isTimer number
    refine ⟨_, Thread.setLocal_of_number isTimer rfl, fun after elsewhere => ?_⟩
    rw [elsewhere.getLocal_eq]
    exact Thread.getLocal_of_stored isTimer notBefore early (Thread.setLocal_of_number isTimer rfl)
  · intro isTimer id pc born notAfter fresh isFresh after elsewhere
    rw [elsewhere.getLocal_eq]
    apply Thread.getLocal_of_born isTimer notAfter early
    simp only [List.mem_cons, List.not_mem_nil, or_false] at isFresh
    rcases isFresh with rfl | rfl <;> rfl
  · exact Thread.getLocal_of_behind
  · intro value refused
    refine ⟨Thread.setLocal_refused refused, fun site frame id found => ?_⟩
    simp only [Operation.perform, Frame.changeThread, found, Thread.setLocal_refused refused]
    rfl

namespace LocalVariablesExample

/-- A thread that was born at time 5. -/
def thread : Thread := .ofStart 0 0 5

/-- The first timer, a text and a float that is no number. -/
def stores : List LocalStore :=
  [⟨32, .int (-7), 20⟩, ⟨3, .text "taxi", 30⟩, ⟨31, .float ⟨0x7FC00001⟩, 40⟩]

end LocalVariablesExample

open LocalVariablesExample in
/-- The second timer is set close to the greatest number, and after other stores it has stopped there.
On a thread where it was never set it counts from the birth of the thread. -/
theorem timer_stops_at_greatest :
    10 ≤ 100 ∧ 100 < 0x4000000000000000 ∧
      (∃ changed after value, thread.setLocal 33 (.int 2147483600) 10 = .ok changed ∧
        changed.setAll stores = .ok after ∧ after.getLocal 33 100 = .ok value ∧
        value.Clamps 2147483690 ∧ value = .int 2147483647) ∧
      ∃ after value, thread.setAll stores = .ok after ∧ after.getLocal 33 100 = .ok value ∧
        value.Clamps 95 := by
  have notBefore : 10 ≤ 100 := by decide
  have early : 100 < 0x4000000000000000 := by decide
  have isTimer : IsTimer 33 := ⟨by decide, by decide⟩
  obtain ⟨_, set, unset, _⟩ := variables_keep_and_timers_count thread 33 10 100 notBefore early
  obtain ⟨changed, stored, reads⟩ := set isTimer 2147483600
  have apart : ∀ store ∈ stores, store.index ≠ 33 := by decide
  cases stored
  obtain ⟨value, read, clamps⟩ := reads _ ⟨stores, apart, rfl⟩
  obtain ⟨count, counted, counts⟩ :=
    unset isTimer 0 0 5 (by decide) thread List.mem_cons_self _ ⟨stores, apart, rfl⟩
  refine ⟨notBefore, early, ⟨_, _, value, rfl, rfl, read, clamps, ?_⟩, _, count, rfl, counted, counts⟩
  cases read
  decide

end MissionScript
