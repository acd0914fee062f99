import MissionScript.Proofs.LocalVariables

/-!
# The range of timers

A timer takes two differences: when it is set, of the time and what it is to read, and when it is read,
of the time and the base that was stored. Both are taken in 64 bits. A floating point number can be as
great as 64 bits allow, and then a difference leaves them.

The first one may leave them without harm, since the second one comes back. What is read is wrong only
when it is itself too great: the timer then stands at the least number instead of the greatest.

Results:
1. `signed64_eq_iff` and `signed64_sub_signed64`: what fits, and why leaving the range once is harmless.
2. `Single.truncate_within_iff`: how the bits of a floating point number tell that it is at most 2^62.
3. `Thread.differencesFit_iff` and `Thread.getLocal_of_set`: when the differences fit, and what is read
   in any case.
4. `timers_count_moderate_values`: the values for which they fit at all times below 2^62.
-/

namespace MissionScript

/-! ## 1. Numbers of 64 bits -/

/-- A signed number of 64 bits can have this value. -/
def Fits64 (value : Int) : Prop := -0x8000000000000000 ≤ value ∧ value < 0x8000000000000000

theorem signed64_eq_iff {value : Int} : signed64 value = value ↔ Fits64 value := by
  constructor
  · intro same
    have low : -0x8000000000000000 ≤ signed64 value := Int.le_bmod (by decide)
    have high : signed64 value < 0x8000000000000000 := Int.bmod_lt (by decide)
    rw [same] at low high
    exact ⟨low, high⟩
  · rintro ⟨low, high⟩
    exact signed64_of_bounds low high

/-- A difference with a number that has left the range is the difference with the number itself. -/
theorem signed64_sub_signed64 (left right : Int) :
    signed64 (left - signed64 right) = signed64 (left - right) :=
  Int.sub_bmod_bmod

/-- A number just behind the greatest one comes out at the other end of the range. -/
theorem signed64_of_great {value : Int} (great : 0x8000000000000000 ≤ value)
    (bounded : value < 0xC000000000000000) : signed64 value = value - 0x10000000000000000 := by
  have same : signed64 (value - 0x10000000000000000) = signed64 value := Int.sub_bmod_right value _
  rw [← same]
  exact signed64_of_bounds (by omega) (by omega)

/-! ## 2. Floating point numbers up to 2^62 -/

theorem shiftLeft_mono {a b m n : Nat} (numbers : a ≤ b) (shifts : m ≤ n) : a <<< m ≤ b <<< n := by
  rw [Nat.shiftLeft_eq, Nat.shiftLeft_eq]
  exact Nat.mul_le_mul numbers (Nat.pow_le_pow_right (by decide) shifts)

theorem shiftRight_mono {a b : Nat} (numbers : a ≤ b) (n : Nat) : a >>> n ≤ b >>> n := by
  rw [Nat.shiftRight_eq_div_pow, Nat.shiftRight_eq_div_pow]
  exact Nat.div_le_div_right numbers

namespace Single

variable {x : Single}

/-- The bits without the sign. They grow with the distance from zero. -/
def magnitude (x : Single) : Nat := x.bits.toNat % 0x80000000

theorem magnitude_eq (x : Single) : x.magnitude = x.exponent * 0x800000 + x.fraction := by
  unfold magnitude exponent fraction
  omega

/-- Whether the integer part of a finite number is at most 2^62 shows in its bits. -/
theorem whole_le_iff : x.units >>> 149 ≤ 0x4000000000000000 ↔ x.magnitude ≤ 0x5E800000 := by
  have fraction : x.fraction < 0x800000 := Nat.mod_lt _ (by decide)
  rw [x.magnitude_eq]
  rcases Nat.lt_trichotomy x.exponent 189 with less | same | more
  · have units : x.units ≤ 0x1000000 <<< 187 := by
      unfold units
      split
      · exact Nat.le_trans (Nat.le_of_lt fraction) (by decide)
      · exact shiftLeft_mono (by omega) (by omega)
    have whole : x.units >>> 149 ≤ (0x1000000 <<< 187) >>> 149 := shiftRight_mono units 149
    exact iff_of_true whole (by omega)
  · -- The power 2^62 itself has this exponent, and all others that have it are greater.
    have units : x.units = (0x800000 + x.fraction) <<< 39 <<< 149 := by
      unfold units
      rw [same, if_neg (by decide), ← Nat.shiftLeft_add]
    rw [units, Nat.shiftLeft_shiftRight, Nat.shiftLeft_eq, same]
    omega
  · have units : 0x800000 <<< 189 ≤ x.units := by
      unfold units
      rw [if_neg (by omega)]
      exact shiftLeft_mono (Nat.le_add_right _ _) (by omega)
    have whole : (0x800000 <<< 189) >>> 149 ≤ x.units >>> 149 := shiftRight_mono units 149
    refine iff_of_false (fun small => ?_) (by omega)
    exact absurd (Nat.le_trans whole small) (by decide)

theorem truncate_bounds {bound : Nat} (positive : 0 < bound) (x : Single) :
    -(bound : Int) ≤ x.truncate bound ∧ x.truncate bound < bound := by
  unfold truncate
  generalize x.units >>> 149 = whole
  cases x.isNaN <;> cases x.isNegative <;> cases x.isInfinite <;> simp <;> omega

/-- Cut down to an integer, a number is at most 2^62 on either side of zero if its bits are at most those
of 2^62. What is not a number counts as zero. -/
theorem truncate_within_iff :
    (-0x4000000000000000 ≤ x.truncate 0x8000000000000000 ∧
      x.truncate 0x8000000000000000 ≤ 0x4000000000000000) ↔
      x.isNaN = true ∨ x.magnitude ≤ 0x5E800000 := by
  unfold truncate
  cases x.isNaN with
  | true => simp
  | false =>
    rw [← whole_le_iff]
    -- From here on only the integer part counts, and an infinite number has a great one.
    have infinite : x.isInfinite = true → ¬ x.units >>> 149 ≤ 0x4000000000000000 := by
      rw [whole_le_iff, x.magnitude_eq, isInfinite, Bool.and_eq_true, beq_iff_eq]
      omega
    generalize x.units >>> 149 = whole at infinite ⊢
    cases isInfinite : x.isInfinite with
    | true =>
      have great := infinite isInfinite
      cases x.isNegative with
      | true => simpa using great
      | false => simpa using great
    | false =>
      simp only [Bool.false_eq_true, if_false, false_or]
      split
      · omega
      · omega

end Single

/-! ## 3. Setting and reading -/

namespace Value

variable {value : Value} {elapsed : Int}

theorem elapsed?_fits (isNumber : value.elapsed? = some elapsed) : Fits64 elapsed := by
  cases value with
  | int number =>
    cases isNumber
    have low := number.le_toInt
    have high := number.toInt_lt
    exact ⟨by omega, by omega⟩
  | float number =>
    cases isNumber
    exact number.truncate_bounds (by decide)
  | text string => cases isNumber

/-- A timer can count from the value at all times below 2^62: every integer is such a value, and a
floating point number if it is no number or at most 2^62 on either side of zero. -/
def Moderate : Value → Prop
  | .int _ => True
  | .float number => number.isNaN = true ∨ number.magnitude ≤ 0x5E800000
  | .text _ => False

theorem moderate_iff : value.Moderate ↔ ∃ elapsed, value.elapsed? = some elapsed ∧
    -0x4000000000000000 ≤ elapsed ∧ elapsed ≤ 0x4000000000000000 := by
  cases value with
  | int number =>
    have low := number.le_toInt
    have high := number.toInt_lt
    exact iff_of_true trivial ⟨_, rfl, by omega, by omega⟩
  | float number => simp [Moderate, elapsed?, Single.truncate_within_iff]
  | text string => simp [Moderate, elapsed?]

end Value

namespace Thread

variable {thread : Thread} {index now later : Nat} {value : Value} {elapsed : Int}

/-- A timer can be set to a value and read later, and neither difference that this takes leaves the
64 bits: not the one of the time and the elapsed time, and not the one of the later time and the base
that was stored. -/
def DifferencesFit (thread : Thread) (index : Nat) (value : Value) (now later : Nat) : Prop :=
  ∃ elapsed changed base, value.elapsed? = some elapsed ∧
    thread.setLocal index value now = .ok changed ∧
    changed.timers[index - localSlots]? = some base ∧ Fits64 (now - elapsed) ∧ Fits64 (later - base)

/-- What is stored when a timer is set. -/
theorem setLocal_base (thread : Thread) (now : Nat) (isTimer : IsTimer index)
    (isNumber : value.elapsed? = some elapsed) :
    ∃ changed, thread.setLocal index value now = .ok changed ∧
      changed.timers[index - localSlots]? = some (signed64 (now - elapsed)) :=
  ⟨_, setLocal_of_number isTimer isNumber,
    Vector.getElem?_setIfInBounds_self_of_lt isTimer.inside⟩

/-- The differences fit unless the elapsed time is too small for the time at which the timer is set,
or too great for the time that passes until it is read. -/
theorem differencesFit_iff (isTimer : IsTimer index) (isNumber : value.elapsed? = some elapsed) :
    thread.DifferencesFit index value now later ↔
      now - 0x8000000000000000 < elapsed ∧ elapsed + (later - now) < 0x8000000000000000 := by
  obtain ⟨changed, set, isBase⟩ := thread.setLocal_base now isTimer isNumber
  obtain ⟨low, high⟩ := Value.elapsed?_fits isNumber
  constructor
  · rintro ⟨_, _, base, again, setAgain, stored, setFits, readFits⟩
    cases isNumber.symm.trans again
    cases set.symm.trans setAgain
    cases isBase.symm.trans stored
    rw [signed64_eq_iff.2 setFits] at readFits
    obtain ⟨_, setHigh⟩ := setFits
    obtain ⟨_, readHigh⟩ := readFits
    exact ⟨by omega, by omega⟩
  · rintro ⟨notSmall, notGreat⟩
    have setFits : Fits64 (now - elapsed) := ⟨by omega, by omega⟩
    refine ⟨elapsed, changed, _, isNumber, set, isBase, setFits, ?_⟩
    rw [signed64_eq_iff.2 setFits]
    exact ⟨by omega, by omega⟩

/-- What a timer reads after it was set, whether or not the base that was stored has left the range. -/
theorem getLocal_of_set (thread : Thread) (now later : Nat) (isTimer : IsTimer index)
    (isNumber : value.elapsed? = some elapsed) :
    ∃ changed, thread.setLocal index value now = .ok changed ∧
      changed.getLocal index later = .ok (.int (clampInt32 (signed64 (elapsed + (later - now))))) := by
  obtain ⟨changed, set, isBase⟩ := thread.setLocal_base now isTimer isNumber
  refine ⟨changed, set, ?_⟩
  rw [getLocal_of_base isTimer.1 isBase, signed64_sub_signed64,
    show (later : Int) - (now - elapsed) = elapsed + (later - now) by omega]

end Thread

/-! ## 4. All times -/

/-- Whether both differences of a timer fit into 64 bits depends on what it is set to. At given times they
fit if the elapsed time is neither too small for the first one nor too great for the second; at all times
below 2^62 they fit exactly for moderate values. What is read is the elapsed time and the time since then,
cut down to 32 bits, also where the first difference does not fit. Only where the sum itself does not, the
least number is read in place of the greatest. -/
theorem timers_count_moderate_values (thread : Thread) {index : Nat} (isTimer : IsTimer index)
    (value : Value) :
    ((∀ now later, now ≤ later → later < 0x4000000000000000 →
      thread.DifferencesFit index value now later) ↔ value.Moderate) ∧
    ∀ now later elapsed, now ≤ later → later < 0x4000000000000000 → value.elapsed? = some elapsed →
      (thread.DifferencesFit index value now later ↔
        now - 0x8000000000000000 < elapsed ∧ elapsed + (later - now) < 0x8000000000000000) ∧
      ∃ changed read, thread.setLocal index value now = .ok changed ∧
        changed.getLocal index later = .ok read ∧
        (elapsed + (later - now) < 0x8000000000000000 → read.Clamps (elapsed + (later - now))) ∧
        (0x8000000000000000 ≤ elapsed + (later - now) → read = .int (-0x80000000)) := by
  refine ⟨?_, ?_⟩
  · rw [Value.moderate_iff]
    constructor
    · intro fits
      -- A timer that is set as late as possible bounds the value from below, and one that is read as
      -- long as possible after it was set bounds it from above.
      have late := fits 0x3FFFFFFFFFFFFFFF 0x3FFFFFFFFFFFFFFF (Nat.le_refl _) (by decide)
      have long := fits 0 0x3FFFFFFFFFFFFFFF (by decide) (by decide)
      have isSet := late
      obtain ⟨elapsed, _, _, isNumber, _⟩ := isSet
      obtain ⟨low, _⟩ := (Thread.differencesFit_iff isTimer isNumber).1 late
      obtain ⟨_, high⟩ := (Thread.differencesFit_iff isTimer isNumber).1 long
      exact ⟨elapsed, isNumber, by omega, by omega⟩
    · rintro ⟨elapsed, isNumber, low, high⟩ now later notBefore early
      exact (Thread.differencesFit_iff isTimer isNumber).2 ⟨by omega, by omega⟩
  · intro now later elapsed notBefore early isNumber
    refine ⟨Thread.differencesFit_iff isTimer isNumber, ?_⟩
    obtain ⟨low, high⟩ := Value.elapsed?_fits isNumber
    obtain ⟨changed, set, read⟩ := thread.getLocal_of_set now later isTimer isNumber
    refine ⟨changed, _, set, read, ?_, ?_⟩
    · intro fits
      refine ⟨_, rfl, ?_⟩
      rw [toInt_clampInt32, signed64_of_bounds (by omega) fits]
    · intro great
      rw [signed64_of_great great (by omega)]
      apply congrArg Value.int
      apply Int32.toInt_inj.1
      rw [toInt_clampInt32]
      show _ = (-0x80000000 : Int)
      omega

/-- Two to the power of 62 is the greatest moderate number: a timer counts from it up to the last moment
before that time. -/
theorem timer_counts_from_greatest_moderate :
    IsTimer 33 ∧ (Value.float ⟨0x5E800000⟩).Moderate ∧
      (Thread.ofStart 0 0 5).DifferencesFit 33 (.float ⟨0x5E800000⟩) 5 0x3FFFFFFFFFFFFFFF := by
  have isTimer : IsTimer 33 := ⟨by decide, by decide⟩
  have moderate : (Value.float ⟨0x5E800000⟩).Moderate := Or.inr (by decide)
  exact ⟨isTimer, moderate,
    (timers_count_moderate_values (.ofStart 0 0 5) isTimer _).1.2 moderate _ _ (by decide) (by decide)⟩

/-- A timer that is set to 2^63, which is held at the greatest number of 64 bits, stands at the least
number of 32 bits a moment later. For -2^63 already the first difference leaves the range. -/
theorem great_timer_turns_negative :
    (∃ changed, (Thread.ofStart 0 0 0).setLocal 32 (.float ⟨0x5F000000⟩) 0 = .ok changed ∧
      changed.getLocal 32 1 = .ok (.int (-0x80000000))) ∧
      ¬ (Thread.ofStart 0 0 0).DifferencesFit 32 (.float ⟨0x5F000000⟩) 0 1 ∧
      ¬ (Thread.ofStart 0 0 0).DifferencesFit 32 (.float ⟨0xDF000000⟩) 0 0 := by
  have isTimer : IsTimer 32 := ⟨by decide, by decide⟩
  have great : (Value.float ⟨0x5F000000⟩).elapsed? = some 0x7FFFFFFFFFFFFFFF := by decide
  have small : (Value.float ⟨0xDF000000⟩).elapsed? = some (-0x8000000000000000) := by decide
  refine ⟨?_, ?_, ?_⟩
  · obtain ⟨changed, set, read⟩ := (Thread.ofStart 0 0 0).getLocal_of_set 0 1 isTimer great
    exact ⟨changed, set, read⟩
  · rw [Thread.differencesFit_iff isTimer great]
    decide
  · rw [Thread.differencesFit_iff isTimer small]
    decide

end MissionScript
