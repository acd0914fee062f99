import MissionScript.Proofs.Schedules

/-!
# The wake policy

Control passes by how long threads have been due. That is measured by the clock: the longest span of
time since a thread wanted to wake wins, and a span longer than all true ones stands for a thread that
is awake. The policy behind the measure needs no clock. The threads that have not ended stand in line:
first those that are awake, then those that sleep, by the time they want to wake, and of two that are
alike in this the one with the lower number. Control passes to the first in line.

The clock comes in once, before the line is formed: the thread that gives up control is due now if it
has no wish of its own (`Schedule.line`).

Results:
1. `Wake.earlier_of_overdue_lt`, `Wake.eq_of_overdue_eq`: on a 64-bit clock, the measure orders threads
   as the line does.
2. `Schedule.firstInLine_of_mostOverdue?`: the thread that has been due the longest is the first in
   line.
3. `pass_follows_line`: what passing control does, in terms of the line alone.
-/

namespace MissionScript

/-! ## 1. Standing in line -/

/-- Comes first in line: to be awake comes before sleeping, and a short sleep before a long one. -/
def Wake.Earlier : Wake → Wake → Prop
  | .awake, .at _ => True
  | .at left, .at right => left < right
  | _, _ => False

instance : (left right : Wake) → Decidable (left.Earlier right)
  | .awake, .at _ => isTrue trivial
  | .at left, .at right => inferInstanceAs (Decidable (left < right))
  | .awake, .awake | .awake, .never | .at _, .awake | .at _, .never | .never, _ => isFalse id

/-- One thread stands before another: it wakes earlier, or wakes with it and has the lower number. -/
def Thread.Precedes (first second : Thread) : Prop :=
  first.wake.Earlier second.wake ∨ first.wake = second.wake ∧ first.id < second.id

instance (first second : Thread) : Decidable (first.Precedes second) :=
  inferInstanceAs (Decidable (_ ∨ _))

/-- The thread with a number has not ended, and stands before all others that have not. -/
def FirstInLine (threads : List Thread) (id : Nat) : Prop :=
  ∃ thread, threads[id]? = some thread ∧ thread.wake ≠ .never ∧
    ∀ other ∈ threads, other.wake ≠ .never → other.id ≠ id → thread.Precedes other

/-- The threads as they stand in line when control is about to pass: the one that runs is due now,
unless it has said when it wants to wake. -/
def Schedule.line (schedule : Schedule) : List Thread :=
  schedule.threads.map fun thread =>
    if schedule.current? = some thread.id ∧ thread.wake = .awake then
      { thread with wake := .until schedule.time }
    else thread

/-! ## 2. The line and the clock -/

namespace Wake

variable {now : Nat} {left right : Wake}

/-- Who has been due longer stands earlier in line. -/
theorem earlier_of_overdue_lt (clock : now ≤ endOfTime) (leftAlive : left ≠ .never)
    (rightAlive : right ≠ .never) (longer : right.overdue now < left.overdue now) :
    left.Earlier right := by
  unfold endOfTime at clock
  cases left with
  | never => exact absurd rfl leftAlive
  | awake =>
    cases right with
    | never => exact absurd rfl rightAlive
    | awake => exact absurd longer (Int.lt_irrefl _)
    | «at» time => trivial
  | «at» time =>
    cases right with
    | never => exact absurd rfl rightAlive
    | awake =>
      -- No span of time on a 64-bit clock is as long as the one that stands for being awake.
      simp only [overdue] at longer
      omega
    | «at» other =>
      simp only [overdue] at longer
      show time < other
      omega

/-- Who has been due equally long stands at the same place in line. -/
theorem eq_of_overdue_eq (clock : now ≤ endOfTime) (leftAlive : left ≠ .never)
    (rightAlive : right ≠ .never) (same : right.overdue now = left.overdue now) : left = right := by
  unfold endOfTime at clock
  cases left with
  | never => exact absurd rfl leftAlive
  | awake =>
    cases right with
    | never => exact absurd rfl rightAlive
    | awake => rfl
    | «at» time =>
      simp only [overdue] at same
      omega
  | «at» time =>
    cases right with
    | never => exact absurd rfl rightAlive
    | awake =>
      simp only [overdue] at same
      omega
    | «at» other =>
      simp only [overdue] at same
      congr 1
      omega

theorem Earlier.asymm (earlier : left.Earlier right) : ¬ right.Earlier left := by
  intro later
  cases left with
  | never => exact earlier
  | awake =>
    cases right with
    | never | awake => exact earlier
    | «at» time => exact later
  | «at» time =>
    cases right with
    | never | awake => exact earlier
    | «at» other => exact Nat.lt_asymm earlier later

end Wake

theorem Thread.Precedes.asymm {first second : Thread} (precedes : first.Precedes second) :
    ¬ second.Precedes first := by
  rintro (later | ⟨sameAgain, higher⟩)
  · rcases precedes with earlier | ⟨same, _⟩
    · exact earlier.asymm later
    · rw [same] at later
      exact later.asymm later
  · rcases precedes with earlier | ⟨_, lower⟩
    · rw [sameAgain] at earlier
      exact earlier.asymm earlier
    · exact Nat.lt_asymm lower higher

/-! ## 3. The first in line -/

/-- No two threads are first in line. -/
theorem FirstInLine.unique {threads : List Thread}
    (numbered : ∀ (id : Nat) (thread : Thread), threads[id]? = some thread → thread.id = id)
    {id other : Nat} (first : FirstInLine threads id) (second : FirstInLine threads other) :
    id = other := by
  obtain ⟨thread, found, alive, precedes⟩ := first
  obtain ⟨thread', found', alive', precedes'⟩ := second
  by_cases same : id = other
  · exact same
  · have isId := numbered id thread found
    have isOther := numbered other thread' found'
    have before := precedes thread' (List.mem_of_getElem? found') alive' (isOther ▸ Ne.symm same)
    have after := precedes' thread (List.mem_of_getElem? found) alive (isId ▸ same)
    exact absurd after before.asymm

namespace Schedule

variable {schedule : Schedule}

/-- In the order in which they are looked at, threads have ascending numbers. -/
theorem Numbered.ascending (numbered : schedule.Numbered) :
    schedule.threads.Pairwise fun first second => first.id < second.id := by
  rw [List.pairwise_iff_getElem]
  intro first second isFirst isSecond less
  rw [numbered first _ (List.getElem?_eq_getElem isFirst),
    numbered second _ (List.getElem?_eq_getElem isSecond)]
  exact less

/-- The thread that has been due the longest is the first in line. -/
theorem firstInLine_of_mostOverdue? (numbered : schedule.Numbered)
    (clock : schedule.time ≤ endOfTime) {id : Nat} (chosen : schedule.mostOverdue? = some id) :
    FirstInLine schedule.threads id := by
  obtain ⟨before, thread, after, alive, found, notEnded, less, notMore⟩ :=
    mostOverdue?_eq_some numbered chosen
  refine ⟨thread, found, notEnded, ?_⟩
  intro other isOther otherAlive apart
  have listed := mem_alive.2 ⟨isOther, otherAlive⟩
  rw [alive] at listed
  rcases List.mem_append.1 listed with earlier | later
  · exact Or.inl (Wake.earlier_of_overdue_lt clock notEnded otherAlive (less other earlier))
  · rcases List.mem_cons.1 later with rfl | behind
    · exact absurd (numbered id other found) apart
    -- A later thread may have been due equally long, but has a higher number.
    rcases Int.lt_or_eq_of_le (notMore other behind) with longer | same
    · exact Or.inl (Wake.earlier_of_overdue_lt clock notEnded otherAlive longer)
    · refine Or.inr ⟨Wake.eq_of_overdue_eq clock notEnded otherAlive same, ?_⟩
      have ascending := numbered.ascending.filter fun thread => !thread.isTerminated
      rw [alive] at ascending
      exact List.rel_of_pairwise_cons (List.pairwise_append.1 ascending).2.1 behind

/-! ## 4. Passing control -/

/-- Where threads stand under their numbers, the line is what settling leaves. -/
theorem threads_settle (numbered : schedule.Numbered) :
    schedule.settle.threads = schedule.line := by
  apply List.ext_getElem?
  intro id
  have settled : schedule.settle.threads[id]? = _ := schedule.thread?_settle id
  rw [settled, line, List.getElem?_map]
  cases found : schedule.thread? id with
  | none =>
    rw [show schedule.threads[id]? = none from found]
    rfl
  | some thread =>
    rw [show schedule.threads[id]? = some thread from found, Option.map_some, Option.map_some,
      numbered id thread found]

/-- Either somebody is first in line, and has been due the longest, or all threads have ended. -/
theorem mostOverdue?_settle (numbered : schedule.Numbered) (clock : schedule.time ≤ endOfTime) :
    (∃ id, schedule.settle.mostOverdue? = some id ∧ FirstInLine schedule.line id) ∨
      schedule.settle.mostOverdue? = none ∧ ∀ thread ∈ schedule.line, thread.wake = .never := by
  rw [← threads_settle numbered]
  cases chosen : schedule.settle.mostOverdue? with
  | none => exact Or.inr ⟨rfl, mostOverdue?_eq_none chosen⟩
  | some id =>
    rw [← time_settle schedule] at clock
    exact Or.inl ⟨id, rfl, firstInLine_of_mostOverdue? numbered.settle clock chosen⟩

end Schedule

/-- Who is first in line has been due the longest. -/
theorem FirstInLine.mostOverdue? {schedule : Schedule} (numbered : schedule.Numbered)
    (clock : schedule.time ≤ endOfTime) {id : Nat} (first : FirstInLine schedule.line id) :
    schedule.settle.mostOverdue? = some id := by
  rcases Schedule.mostOverdue?_settle numbered clock with ⟨other, chosen, alsoFirst⟩ | ⟨_, ended⟩
  · have lineNumbered := numbered.settle
    unfold Schedule.Numbered Schedule.thread? at lineNumbered
    rw [Schedule.threads_settle numbered] at lineNumbered
    rw [chosen, first.unique lineNumbered alsoFirst]
  · obtain ⟨thread, found, alive, _⟩ := first
    exact absurd (ended thread (List.mem_of_getElem? found)) alive

/-- What passing control does. Let threads stand under their numbers and the clock show a 64-bit number.
The thread that runs is made due now if it has no wish of its own. Then control passes to the first in
line, which is woken; the other threads and the clock stay as they are. If all threads have ended there
is nobody in line, and nobody gets control. In particular, two schedules with the same line pass control
to the same thread, whatever their clocks show. -/
theorem pass_follows_line {schedule : Schedule} (numbered : schedule.Numbered)
    (clock : schedule.time ≤ endOfTime) :
    (∀ id, FirstInLine schedule.line id → schedule.pass = {
      threads := schedule.line.modify id fun thread => { thread with wake := .awake }
      current? := some id
      time := schedule.time }) ∧
    ((∀ thread ∈ schedule.line, thread.wake = .never) → schedule.pass = {
      threads := schedule.line
      current? := none
      time := schedule.time }) ∧
    ((∃ id, FirstInLine schedule.line id) ∨ ∀ thread ∈ schedule.line, thread.wake = .never) ∧
    ∀ other : Schedule, other.Numbered → other.time ≤ endOfTime → other.line = schedule.line →
      other.pass.current? = schedule.pass.current? := by
  have settled := Schedule.threads_settle numbered
  have sameTime := schedule.time_settle
  refine ⟨?_, ?_, ?_, ?_⟩
  · intro id first
    have chosen := first.mostOverdue? numbered clock
    unfold Schedule.pass
    simp only [chosen, Schedule.modify, settled, sameTime]
  · intro ended
    rcases Schedule.mostOverdue?_settle numbered clock with
      ⟨id, _, thread, found, alive, _⟩ | ⟨nobody, _⟩
    · exact absurd (ended thread (List.mem_of_getElem? found)) alive
    · unfold Schedule.pass
      simp only [nobody, settled, sameTime]
  · rcases Schedule.mostOverdue?_settle numbered clock with ⟨id, _, first⟩ | ⟨_, ended⟩
    · exact Or.inl ⟨id, first⟩
    · exact Or.inr ended
  · intro other otherNumbered otherClock sameLine
    rw [Schedule.current?_pass, Schedule.current?_pass]
    rcases Schedule.mostOverdue?_settle otherNumbered otherClock with
      ⟨id, chosen, first⟩ | ⟨nobody, ended⟩
    · rw [sameLine] at first
      rw [chosen, first.mostOverdue? numbered clock]
    · rw [sameLine] at ended
      rcases Schedule.mostOverdue?_settle numbered clock with
        ⟨_, _, thread, found, alive, _⟩ | ⟨alsoNobody, _⟩
      · exact absurd (ended thread (List.mem_of_getElem? found)) alive
      · rw [nobody, alsoNobody]

/-! ## Two threads that are equally late -/

namespace WakePolicyExample

/-- At time ten the main thread runs, thread 1 sleeps until later, threads 2 and 4 have been due since
time three, and thread 3 has ended. -/
def schedule : Schedule where
  threads := [Wake.awake, .at 12, .at 3, .never, .at 3].mapIdx fun id wake =>
    { Thread.ofStart id 0 0 with wake }
  current? := some 0
  time := 10

/-- The main thread is due now. -/
def wakesAfter : List Wake := [.at 10, .at 12, .awake, .never, .at 3]

theorem numbered_of_forall {threads : List Thread}
    (each : ∀ id : Fin threads.length, (threads.get id).id = id) (current? : Option Nat) (time : Nat) :
    (Schedule.mk threads current? time).Numbered := by
  intro id thread found
  obtain ⟨inside, rfl⟩ := List.getElem?_eq_some_iff.1 found
  exact each ⟨id, inside⟩

end WakePolicyExample

open WakePolicyExample in
/-- Of the two threads that are equally late, control passes to the one with the lower number. It would
do so at any other time, once the line is formed. -/
theorem lower_number_runs :
    FirstInLine schedule.line 2 ∧ schedule.pass.current? = some 2 ∧
      schedule.pass.threads.map Thread.wake = wakesAfter ∧
      ∀ time ≤ endOfTime, (Schedule.mk schedule.line none time).pass.current? = some 2 := by
  have numbered : schedule.Numbered := numbered_of_forall (by decide) _ _
  have first : FirstInLine schedule.line 2 := ⟨_, rfl, by decide, by decide⟩
  obtain ⟨passes, _, _, clockFree⟩ := pass_follows_line numbered (by decide)
  have passed := passes 2 first
  refine ⟨first, by rw [passed], by rw [passed]; decide, ?_⟩
  intro time inTime
  have formed : (Schedule.mk schedule.line none time).line = schedule.line := by
    simp [Schedule.line]
  rw [clockFree _ (numbered_of_forall (by decide) none time) inTime formed, passed]

end MissionScript
