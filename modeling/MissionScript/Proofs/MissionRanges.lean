import MissionScript.Layout

/-!
# Where missions end

The mission table says where missions start, in any order, and may name a start more than once. Where
a mission ends is not written down: it ends right before the next higher start, and the last one ends
with the script. So the missions divide what lies between the lowest start and the end of the script,
and an address there belongs to the mission with the greatest start that is not above it.

The next higher start is looked for among the starts in ascending order, without repetitions.

Results:
1. `Layout.sortStarts_ascending`, `Layout.eraseReps_ascending`: the starts are brought into order, and
   then each is there once.
2. `Layout.nextStart_find?`: what is found first above a start is the lowest of the higher starts.
3. `Layout.missionRanges_first_eq`: all missions around one address have the same start.
4. `Layout.contains_iff_startBelow`: which addresses lie in a mission.
5. `missions_divide_tail`: the missions of any list of starts, and what a layout with them answers
   when it is asked for the mission around an address.
-/

namespace MissionScript

namespace Layout

/-! ## 1. Starts in order -/

section InOrder

variable {starts : List Nat} {start other : Nat}

theorem mem_insertStart : other ∈ insertStart start starts ↔ other = start ∨ other ∈ starts := by
  induction starts with
  | nil => simp [insertStart]
  | cons first rest ih =>
    unfold insertStart
    split
    · exact List.mem_cons
    · rw [List.mem_cons, ih, List.mem_cons]
      exact or_left_comm

theorem insertStart_ascending (ascending : starts.Pairwise (· ≤ ·)) :
    (insertStart start starts).Pairwise (· ≤ ·) := by
  induction starts with
  | nil => exact List.pairwise_singleton _ _
  | cons first rest ih =>
    obtain ⟨firstLe, restAscending⟩ := List.pairwise_cons.1 ascending
    unfold insertStart
    split
    · next startLe =>
      refine List.pairwise_cons.2 ⟨fun later member => ?_, ascending⟩
      rcases List.mem_cons.1 member with rfl | inRest
      · exact startLe
      · exact Nat.le_trans startLe (firstLe later inRest)
    · next startAbove =>
      refine List.pairwise_cons.2 ⟨fun later member => ?_, ih restAscending⟩
      rcases mem_insertStart.1 member with rfl | inRest
      · exact Nat.le_of_not_le startAbove
      · exact firstLe later inRest

theorem mem_sortStarts : other ∈ sortStarts starts ↔ other ∈ starts := by
  induction starts with
  | nil => exact Iff.rfl
  | cons first rest ih =>
    rw [List.mem_cons, ← ih]
    exact mem_insertStart

theorem sortStarts_ascending (starts : List Nat) : (sortStarts starts).Pairwise (· ≤ ·) := by
  induction starts with
  | nil => exact List.Pairwise.nil
  | cons first rest ih => exact insertStart_ascending ih

/-- Leaving out repetitions goes through the list with the start seen last. The starts kept so far are
collected in reverse. -/
theorem mem_eraseReps_loop {last : Nat} {kept : List Nat} :
    other ∈ List.eraseRepsBy.loop (· == ·) last starts kept ↔
      other ∈ kept ∨ other = last ∨ other ∈ starts := by
  induction starts generalizing last kept with
  | nil => simp [List.eraseRepsBy.loop, or_comm]
  | cons first rest ih =>
    unfold List.eraseRepsBy.loop
    split
    · next same =>
      rw [ih, List.mem_cons, ← eq_of_beq same, or_self_left]
    · rw [ih, List.mem_cons, List.mem_cons, or_assoc, or_left_comm]

theorem mem_eraseReps : other ∈ starts.eraseReps ↔ other ∈ starts := by
  cases starts with
  | nil => exact Iff.rfl
  | cons first rest =>
    refine mem_eraseReps_loop.trans ?_
    simp

theorem eraseReps_loop_ascending {last : Nat} {kept : List Nat}
    (descending : (last :: kept).Pairwise (· > ·)) (ascending : (last :: starts).Pairwise (· ≤ ·)) :
    (List.eraseRepsBy.loop (· == ·) last starts kept).Pairwise (· < ·) := by
  induction starts generalizing last kept with
  | nil => exact List.pairwise_reverse.2 descending
  | cons first rest ih =>
    obtain ⟨lastLe, restAscending⟩ := List.pairwise_cons.1 ascending
    unfold List.eraseRepsBy.loop
    split
    · next same =>
      rw [← eq_of_beq same] at restAscending
      exact ih descending restAscending
    · next different =>
      refine ih (List.pairwise_cons.2 ⟨fun earlier member => ?_, descending⟩) restAscending
      have above : last < first :=
        Nat.lt_of_le_of_ne (lastLe first List.mem_cons_self) (ne_of_beq_false different)
      rcases List.mem_cons.1 member with rfl | isKept
      · exact above
      · exact Nat.lt_trans ((List.pairwise_cons.1 descending).1 earlier isKept) above

theorem eraseReps_ascending (ascending : starts.Pairwise (· ≤ ·)) :
    starts.eraseReps.Pairwise (· < ·) := by
  cases starts with
  | nil => exact List.Pairwise.nil
  | cons first rest => exact eraseReps_loop_ascending (List.pairwise_singleton _ _) ascending

/-- In ascending order, what is found first above a start is the lowest of what is above it. -/
theorem le_of_find?_above {next : Nat} (ascending : starts.Pairwise (· < ·))
    (found : (starts.find? fun other => start < other) = some next) (member : other ∈ starts)
    (above : start < other) : next ≤ other := by
  obtain ⟨_, before, after, rfl, notAbove⟩ := List.find?_eq_some_iff_append.1 found
  rcases List.mem_append.1 member with early | late
  · exact absurd (decide_eq_true above) (by simpa using notAbove other early)
  · rcases List.mem_cons.1 late with rfl | later
    · exact Nat.le_refl _
    · have ordered := List.pairwise_append.1 ascending
      exact Nat.le_of_lt ((List.pairwise_cons.1 ordered.2.1).1 other later)

end InOrder

/-! ## 2. Next starts -/

/-- What comes next after a start: the lowest of the higher starts, or the end of the script when no
start is higher. -/
def NextStart (starts : List Nat) (size start next : Nat) : Prop :=
  next ∈ starts ∧ start < next ∧ (∀ other ∈ starts, start < other → next ≤ other) ∨
    next = size ∧ ∀ other ∈ starts, other ≤ start

/-- The greatest start that is not above an address. -/
structure StartBelow (starts : List Nat) (address start : Nat) : Prop where
  member : start ∈ starts
  le : start ≤ address
  greatest : ∀ other ∈ starts, other ≤ address → other ≤ start

/-- The address lies between the lowest start and the end of the script. -/
def InTail (starts : List Nat) (size address : Nat) : Prop :=
  ∃ lowest, starts.min? = some lowest ∧ lowest ≤ address ∧ address < size

variable {starts : List Nat} {size start next address : Nat}

/-- What the search among the starts in order finds. -/
theorem nextStart_find? (starts : List Nat) (size start : Nat) :
    NextStart starts size start
      (((sortStarts starts).eraseReps.find? fun other => start < other).getD size) := by
  have member {other : Nat} : other ∈ (sortStarts starts).eraseReps ↔ other ∈ starts :=
    mem_eraseReps.trans mem_sortStarts
  cases found : (sortStarts starts).eraseReps.find? fun other => start < other with
  | none =>
    refine Or.inr ⟨rfl, fun other isStart => Nat.le_of_not_lt fun higher => ?_⟩
    exact List.find?_eq_none.1 found other (member.2 isStart) (decide_eq_true higher)
  | some next =>
    refine Or.inl ⟨member.1 (List.mem_of_find?_eq_some found), ?_, fun other isOther above => ?_⟩
    · simpa using List.find?_some found
    · exact le_of_find?_above (eraseReps_ascending (sortStarts_ascending starts)) found
        (member.2 isOther) above

theorem NextStart.lt (isNext : NextStart starts size start next) (inside : start < size) :
    start < next := by
  rcases isNext with ⟨_, higher, _⟩ | ⟨rfl, _⟩
  · exact higher
  · exact inside

theorem NextStart.le_size (isNext : NextStart starts size start next)
    (inside : ∀ start ∈ starts, start < size) : next ≤ size := by
  rcases isNext with ⟨isStart, _, _⟩ | ⟨rfl, _⟩
  · exact Nat.le_of_lt (inside next isStart)
  · exact Nat.le_refl _

/-- The next start is at most any higher one. -/
theorem NextStart.le_of_higher (isNext : NextStart starts size start next) {other : Nat}
    (isOther : other ∈ starts) (higher : start < other) : next ≤ other := by
  rcases isNext with ⟨_, _, lowest⟩ | ⟨_, highest⟩
  · exact lowest other isOther higher
  · exact absurd higher (Nat.not_lt.2 (highest other isOther))

/-- No start lies between a start and the next one. -/
theorem NextStart.le_of_lt (isNext : NextStart starts size start next) {other : Nat}
    (isOther : other ∈ starts) (below : other < next) : other ≤ start := by
  exact Nat.le_of_not_lt fun above => Nat.not_le_of_lt below (isNext.le_of_higher isOther above)

/-- Before the end of the script, the next start lies above an address when all starts that do not are
at most the given one. -/
theorem NextStart.lt_of_greatest (isNext : NextStart starts size start next) (early : address < size)
    (greatest : ∀ other ∈ starts, other ≤ address → other ≤ start) : address < next := by
  rcases isNext with ⟨isStart, higher, _⟩ | ⟨rfl, _⟩
  · exact Nat.lt_of_not_le fun reached => Nat.not_le_of_lt higher (greatest next isStart reached)
  · exact early

theorem exists_startBelow (isStart : start ∈ starts) (notAbove : start ≤ address) :
    ∃ greatest, StartBelow starts address greatest := by
  have listed : start ∈ starts.filter fun other => other ≤ address :=
    List.mem_filter.2 ⟨isStart, decide_eq_true notAbove⟩
  cases highest : (starts.filter fun other => other ≤ address).max? with
  | none =>
    rw [List.max?_eq_none_iff.1 highest] at listed
    cases listed
  | some greatest =>
    obtain ⟨member, atMost⟩ := List.max?_eq_some_iff.1 highest
    obtain ⟨isGreatest, le⟩ := List.mem_filter.1 member
    refine ⟨greatest, isGreatest, of_decide_eq_true le, fun other isOther low => ?_⟩
    exact atMost other (List.mem_filter.2 ⟨isOther, decide_eq_true low⟩)

theorem inTail_iff :
    InTail starts size address ↔ (∃ start ∈ starts, start ≤ address) ∧ address < size := by
  constructor
  · rintro ⟨lowest, isLowest, notAbove, early⟩
    exact ⟨⟨lowest, (List.min?_eq_some_iff.1 isLowest).1, notAbove⟩, early⟩
  · rintro ⟨⟨start, isStart, notAbove⟩, early⟩
    cases isLowest : starts.min? with
    | none =>
      rw [List.min?_eq_none_iff.1 isLowest] at isStart
      cases isStart
    | some lowest =>
      have lowestLe : lowest ≤ start := (List.min?_eq_some_iff.1 isLowest).2 start isStart
      exact ⟨lowest, isLowest, Nat.le_trans lowestLe notAbove, early⟩

/-! ## 3. Missions -/

variable {mission left right : Mission}

theorem missionRanges_map_first (starts : List Nat) (size : Nat) :
    (missionRanges starts size).map Mission.first = starts := by
  rw [missionRanges, List.map_map]
  exact List.map_id starts

theorem length_missionRanges (starts : List Nat) (size : Nat) :
    (missionRanges starts size).length = starts.length := by
  rw [← List.length_map Mission.first, missionRanges_map_first]

theorem missionRanges_first_mem (member : mission ∈ missionRanges starts size) :
    mission.first ∈ starts := by
  rw [← missionRanges_map_first starts size]
  exact List.mem_map_of_mem member

/-- Where a mission ends depends on nothing but its start. -/
theorem missionRanges_ext (isLeft : left ∈ missionRanges starts size)
    (isRight : right ∈ missionRanges starts size) (sameStart : left.first = right.first) :
    left = right := by
  obtain ⟨start, _, rfl⟩ := List.mem_map.1 isLeft
  obtain ⟨other, _, rfl⟩ := List.mem_map.1 isRight
  have same : start = other := sameStart
  rw [same]

/-- A mission ends before any other with a higher start begins. -/
theorem missionRanges_last_lt (isLeft : left ∈ missionRanges starts size)
    (isRight : right ∈ missionRanges starts size) (less : left.first < right.first) :
    left.last < right.first := by
  obtain ⟨start, _, rfl⟩ := List.mem_map.1 isLeft
  obtain ⟨later, isStart, rfl⟩ := List.mem_map.1 isRight
  simp only at less ⊢
  have nextLe := (nextStart_find? starts size start).le_of_higher isStart less
  omega

theorem missionRanges_first_eq (isLeft : left ∈ missionRanges starts size)
    (isRight : right ∈ missionRanges starts size) (inLeft : left.contains address = true)
    (inRight : right.contains address = true) : left.first = right.first := by
  simp only [Mission.contains, Bool.and_eq_true, decide_eq_true_eq] at inLeft inRight
  -- Of two missions with different starts, the earlier one would end before the address.
  rcases Nat.lt_trichotomy left.first right.first with less | same | greater
  · have := missionRanges_last_lt isLeft isRight less
    omega
  · exact same
  · have := missionRanges_last_lt isRight isLeft greater
    omega

section Inside

variable (inside : ∀ start ∈ starts, start < size)
include inside

/-- A mission ends right before the next start. -/
theorem nextStart_of_mem (member : mission ∈ missionRanges starts size) :
    NextStart starts size mission.first (mission.last + 1) := by
  obtain ⟨start, isStart, rfl⟩ := List.mem_map.1 member
  have isNext := nextStart_find? starts size start
  have positive := Nat.zero_lt_of_lt (isNext.lt (inside start isStart))
  simp only [Nat.sub_add_cancel positive]
  exact isNext

/-- A mission holds the addresses whose greatest start below is its own. -/
theorem contains_iff_startBelow (member : mission ∈ missionRanges starts size) :
    mission.contains address = true ↔
      address < size ∧ StartBelow starts address mission.first := by
  have isNext := nextStart_of_mem inside member
  simp only [Mission.contains, Bool.and_eq_true, decide_eq_true_eq]
  constructor
  · rintro ⟨le, atMost⟩
    have below : address < mission.last + 1 := Nat.lt_succ_of_le atMost
    refine ⟨Nat.lt_of_lt_of_le below (isNext.le_size inside), missionRanges_first_mem member, le, ?_⟩
    intro other isOther notAbove
    exact isNext.le_of_lt isOther (Nat.lt_of_le_of_lt notAbove below)
  · rintro ⟨early, startBelow⟩
    exact ⟨startBelow.le, Nat.le_of_lt_succ (isNext.lt_of_greatest early startBelow.greatest)⟩

theorem exists_contains (inTail : InTail starts size address) :
    ∃ mission ∈ missionRanges starts size, mission.contains address = true := by
  obtain ⟨⟨start, isStart, notAbove⟩, early⟩ := inTail_iff.1 inTail
  obtain ⟨greatest, startBelow⟩ := exists_startBelow isStart notAbove
  have isFirst := startBelow.member
  rw [← missionRanges_map_first starts size] at isFirst
  obtain ⟨mission, member, rfl⟩ := List.mem_map.1 isFirst
  exact ⟨mission, member, (contains_iff_startBelow inside member).2 ⟨early, startBelow⟩⟩

theorem inTail_of_contains (member : mission ∈ missionRanges starts size)
    (around : mission.contains address = true) : InTail starts size address := by
  obtain ⟨early, startBelow⟩ := (contains_iff_startBelow inside member).1 around
  exact inTail_iff.2 ⟨⟨mission.first, startBelow.member, startBelow.le⟩, early⟩

/-- The first mission around an address is the one that begins at the greatest start below. -/
theorem missionContaining?_of_inTail {layout : Layout}
    (isMissions : layout.missions = missionRanges starts size) (inTail : InTail starts size address) :
    ∃ mission ∈ missionRanges starts size, layout.missionContaining? address = some mission ∧
      StartBelow starts address mission.first := by
  obtain ⟨mission, member, around⟩ := exists_contains inside inTail
  unfold missionContaining?
  rw [isMissions]
  cases found : (missionRanges starts size).find? fun mission => mission.contains address with
  | none => exact absurd around (List.find?_eq_none.1 found mission member)
  | some first =>
    have isFirst : first ∈ missionRanges starts size := List.mem_of_find?_eq_some found
    have contains : first.contains address = true := by simpa using List.find?_some found
    exact ⟨first, isFirst, rfl, ((contains_iff_startBelow inside isFirst).1 contains).2⟩

theorem missionContaining?_of_not_inTail {layout : Layout}
    (isMissions : layout.missions = missionRanges starts size)
    (outside : ¬ InTail starts size address) : layout.missionContaining? address = none := by
  unfold missionContaining?
  rw [isMissions]
  refine List.find?_eq_none.2 fun mission member around => ?_
  exact outside (inTail_of_contains inside member around)

end Inside

end Layout

/-- Missions divide the tail of a script. Take any starts that lie in the script, in any order and with
any repetitions. The missions are as many as the starts and stand in the same order. Each begins at its
start and ends right before the next higher start, or with the script if there is none; missions with
equal starts are equal. Every address from the lowest start to the end of the script lies in a mission,
no other address does, and no address lies in two different ones. A layout with these missions that is
asked for the mission around an address names the one with the greatest start that is not above it, and
none where there is none. -/
theorem missions_divide_tail {starts : List Nat} {size : Nat}
    (inside : ∀ start ∈ starts, start < size) :
    let missions := Layout.missionRanges starts size
    missions.length = starts.length ∧
    (∀ (index start : Nat), starts[index]? = some start →
      ∃ mission : Mission, missions[index]? = some mission ∧ mission.first = start ∧
        Layout.NextStart starts size start (mission.last + 1)) ∧
    (∀ left ∈ missions, ∀ right ∈ missions, left.first = right.first → left = right) ∧
    (∀ address, (∃ mission ∈ missions, mission.contains address = true) ↔
      Layout.InTail starts size address) ∧
    (∀ left ∈ missions, ∀ right ∈ missions, ∀ address, left.contains address = true →
      right.contains address = true → left = right) ∧
    ∀ layout : Layout, layout.missions = missions → ∀ address,
      (Layout.InTail starts size address →
        ∃ mission ∈ missions, layout.missionContaining? address = some mission ∧
          Layout.StartBelow starts address mission.first) ∧
      (¬ Layout.InTail starts size address → layout.missionContaining? address = none) := by
  intro missions
  refine ⟨Layout.length_missionRanges starts size, ?_, ?_, ?_, ?_, ?_⟩
  · intro index start isStart
    have found : missions[index]?.map Mission.first = some start := by
      rw [← List.getElem?_map, Layout.missionRanges_map_first, isStart]
    obtain ⟨mission, isMission, rfl⟩ := Option.map_eq_some_iff.1 found
    exact ⟨mission, isMission, rfl,
      Layout.nextStart_of_mem inside (List.mem_of_getElem? isMission)⟩
  · intro left isLeft right isRight
    exact Layout.missionRanges_ext isLeft isRight
  · intro address
    constructor
    · rintro ⟨mission, member, around⟩
      exact Layout.inTail_of_contains inside member around
    · exact Layout.exists_contains inside
  · intro left isLeft right isRight address inLeft inRight
    exact Layout.missionRanges_ext isLeft isRight
      (Layout.missionRanges_first_eq isLeft isRight inLeft inRight)
  · intro layout isMissions address
    exact ⟨Layout.missionContaining?_of_inTail inside isMissions,
      Layout.missionContaining?_of_not_inTail inside isMissions⟩

namespace MissionRangesExample

/-- Starts that neither ascend nor differ. -/
def starts : List Nat := [400, 100, 250, 100]

def missions : List Mission := [⟨400, 999⟩, ⟨100, 249⟩, ⟨250, 399⟩, ⟨100, 249⟩]

end MissionRangesExample

open MissionRangesExample in
/-- The two missions at 100 are one and the same, the one at 400 reaches to the end, and nothing lies
around the addresses below 100 and from 1000 on. -/
theorem unordered_missions_divide_tail :
    Layout.missionRanges starts 1000 = missions ∧
      ∀ layout : Layout, layout.missions = missions →
        layout.missionContaining? 99 = none ∧ layout.missionContaining? 1000 = none ∧
        ∃ mission ∈ missions, layout.missionContaining? 399 = some mission ∧
          Layout.StartBelow starts 399 mission.first := by
  have isMissions : Layout.missionRanges starts 1000 = missions := by decide
  have inside : ∀ start ∈ starts, start < 1000 := by decide
  obtain ⟨_, _, _, _, _, queries⟩ := missions_divide_tail inside
  rw [isMissions] at queries
  have outside {address : Nat} (none : ¬ ((∃ start ∈ starts, start ≤ address) ∧ address < 1000)) :
      ¬ Layout.InTail starts 1000 address := fun inTail => none (Layout.inTail_iff.1 inTail)
  refine ⟨isMissions, fun layout has => ⟨?_, ?_, ?_⟩⟩
  · exact (queries layout has 99).2 (outside (by decide))
  · exact (queries layout has 1000).2 (outside (by decide))
  · exact (queries layout has 399).1 (Layout.inTail_iff.2 (by decide))

end MissionScript
