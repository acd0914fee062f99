/-!
# Results that may be errors

A sequence of steps of which each may fail succeeds exactly when every step does. These lemmas
take such a sequence apart from its last result backwards.
-/

namespace MissionScript

variable {ε α β : Type}

theorem except_bind_eq_ok {result : Except ε α} {next : α → Except ε β} {value : β} :
    (result >>= next) = .ok value ↔ ∃ first, result = .ok first ∧ next first = .ok value := by
  cases result with
  | error error => simp [Bind.bind, Except.bind]
  | ok first => simp [Bind.bind, Except.bind]

theorem except_map_eq_ok {result : Except ε α} {change : α → β} {value : β} :
    result.map change = .ok value ↔ ∃ first, result = .ok first ∧ change first = value := by
  cases result with
  | error error => simp [Except.map]
  | ok first => simp [Except.map]

theorem except_map_eq_error {result : Except ε α} {change : α → β} {error : ε} :
    result.map change = .error error ↔ result = .error error := by
  cases result with
  | error other => simp [Except.map]
  | ok first => simp [Except.map]

theorem except_mapError_eq_ok {ε' : Type} {result : Except ε α} {change : ε → ε'} {value : α} :
    result.mapError change = .ok value ↔ result = .ok value := by
  cases result with
  | error error => constructor <;> intro impossible <;> cases impossible
  | ok first =>
    constructor
    · intro same
      cases same
      rfl
    · intro same
      cases same
      rfl

theorem except_toOption_eq_some {result : Except ε α} {value : α} :
    result.toOption = some value ↔ result = .ok value := by
  cases result with
  | error error => simp [Except.toOption]
  | ok first => simp [Except.toOption]

/-- The error that a result is, if it is one. -/
def errorOf? : Except ε α → Option ε
  | .ok _ => none
  | .error error => some error

theorem errorOf?_eq_some {result : Except ε α} {error : ε} :
    errorOf? result = some error ↔ result = .error error := by
  cases result with
  | ok value => simp [errorOf?]
  | error other => simp [errorOf?]

/-- Evaluating a result and a property of its value shows that there is such a value. -/
theorem exists_ok_of_evaluation (result : Except ε α) (property : α → Prop)
    [DecidablePred property]
    (evaluated : (result.map fun value => decide (property value)).toOption = some true) :
    ∃ value, result = .ok value ∧ property value := by
  obtain ⟨value, isValue, holds⟩ := except_map_eq_ok.1 (except_toOption_eq_some.1 evaluated)
  exact ⟨value, isValue, of_decide_eq_true holds⟩

/-- A check that gives up with an error lets pass what does not meet its condition. -/
theorem except_guard_eq_ok {condition : Prop} [Decidable condition] {error : ε}
    {next : PUnit → Except ε α} {rest : Except ε α} {value : α} :
    (if condition then throw error >>= next else rest) = .ok value ↔
      ¬ condition ∧ rest = .ok value := by
  by_cases holds : condition
  · rw [if_pos holds]
    constructor
    · intro impossible
      cases impossible
    · intro passed
      exact absurd holds passed.1
  · rw [if_neg holds]
    exact (and_iff_right holds).symm

/-- What every step of a fold that can fail preserves, the whole fold preserves. -/
theorem foldlM_invariant (invariant : β → Prop) {step : β → α → Except ε β} {items : List α}
    {state final : β} (initial : invariant state)
    (preserved : ∀ item ∈ items, ∀ state next, invariant state → step state item = .ok next →
      invariant next)
    (success : items.foldlM step state = .ok final) : invariant final := by
  induction items generalizing state with
  | nil =>
    cases success
    exact initial
  | cons item rest ih =>
    rw [List.foldlM_cons, except_bind_eq_ok] at success
    obtain ⟨next, first, remaining⟩ := success
    refine ih (preserved item List.mem_cons_self state next initial first) ?_ remaining
    intro later member
    exact preserved later (List.mem_cons_of_mem item member)

/-- A fold in which only what is made of the single items can fail succeeds when none of that does. -/
theorem foldlM_make_succeeds {γ : Type} {make : α → Except ε γ} {put : β → α → γ → β}
    {items : List α} {state : β} :
    (∃ final, items.foldlM (fun state item => make item >>= fun made => pure (put state item made))
      state = .ok final) ↔ ∀ item ∈ items, ∃ made, make item = .ok made := by
  induction items generalizing state with
  | nil => exact iff_of_true ⟨state, rfl⟩ (List.forall_mem_nil _)
  | cons item rest ih =>
    rw [List.forall_mem_cons, List.foldlM_cons]
    cases isMade : make item with
    | error error =>
      refine iff_of_false ?_ ?_
      · rintro ⟨final, impossible⟩
        cases impossible
      · rintro ⟨⟨made, impossible⟩, _⟩
        cases impossible
    | ok made => exact ih.trans (and_iff_right ⟨made, rfl⟩).symm

/-- Steps over a list give as many values, each from the item at its place. -/
theorem mapM_eq_ok_iff {step : α → Except ε β} {items : List α} {values : List β} :
    items.mapM step = .ok values ↔ values.length = items.length ∧
      ∀ (index : Nat) item value, items[index]? = some item → values[index]? = some value →
        step item = .ok value := by
  induction items generalizing values with
  | nil =>
    rw [List.mapM_nil, List.length_nil, List.length_eq_zero_iff]
    constructor
    · intro success
      cases success
      exact ⟨rfl, fun _ _ _ impossible => by cases impossible⟩
    · rintro ⟨rfl, _⟩
      rfl
  | cons first rest ih =>
    rw [List.mapM_cons, except_bind_eq_ok]
    constructor
    · rintro ⟨firstValue, isFirst, success⟩
      obtain ⟨restValues, isRest, success⟩ := except_bind_eq_ok.1 success
      cases success
      obtain ⟨length, each⟩ := ih.1 isRest
      refine ⟨congrArg Nat.succ length, fun index item value isItem isValue => ?_⟩
      cases index with
      | zero =>
        cases isItem
        cases isValue
        exact isFirst
      | succ index => exact each index item value isItem isValue
    · rintro ⟨length, each⟩
      cases values with
      | nil => cases length
      | cons firstValue restValues =>
        refine ⟨firstValue, each 0 first firstValue rfl rfl, except_bind_eq_ok.2 ⟨restValues, ?_, rfl⟩⟩
        exact ih.2 ⟨Nat.succ.inj length, fun index => each (index + 1)⟩

theorem mapM_succeeds {step : α → Except ε β} {items : List α}
    (each : ∀ item ∈ items, ∃ value, step item = .ok value) :
    ∃ values, items.mapM step = .ok values := by
  induction items with
  | nil => exact ⟨[], rfl⟩
  | cons first rest ih =>
    obtain ⟨firstEach, restEach⟩ := List.forall_mem_cons.1 each
    obtain ⟨value, isValue⟩ := firstEach
    obtain ⟨values, areValues⟩ := ih restEach
    refine ⟨value :: values, ?_⟩
    rw [List.mapM_cons, isValue, areValues]
    rfl

/-- Numbered steps give a list when each gives the item with its number. -/
theorem mapM_range_eq_ok {step : Nat → Except ε α} {items : List α}
    (each : ∀ index item, items[index]? = some item → step index = .ok item) :
    (List.range items.length).mapM step = .ok items := by
  refine mapM_eq_ok_iff.2 ⟨List.length_range.symm, fun index number item isNumber isItem => ?_⟩
  rw [List.getElem?_range (List.getElem?_eq_some_iff.1 isItem).1] at isNumber
  cases isNumber
  exact each index item isItem

/-- Each item of a list that numbered steps gave comes from the step with its number. -/
theorem step_of_mapM_range {step : Nat → Except ε α} {count : Nat} {items : List α}
    (success : (List.range count).mapM step = .ok items) :
    items.length = count ∧ ∀ index item, items[index]? = some item → step index = .ok item := by
  obtain ⟨length, each⟩ := mapM_eq_ok_iff.1 success
  rw [List.length_range] at length
  refine ⟨length, fun index item isItem => each index index item ?_ isItem⟩
  exact List.getElem?_range (length ▸ (List.getElem?_eq_some_iff.1 isItem).1)

end MissionScript
