import MissionScript.Schedule

/-!
# What schedules do to threads

A schedule changes threads in three ways: it replaces one, it adds one at the end, and it sets when
one wakes. What holds of every thread and does not speak about waking is therefore kept by all
operations of a schedule, once it is kept by the replacements and true of the new threads.

What waking does is said thread by thread: `Schedule.thread?_settle` and `Schedule.thread?_pass` give
every thread after control has passed, and `Schedule.wake?_settle` and `Schedule.wake?_pass` when it
wakes. `Schedule.mostOverdue?_eq_some` says that control passes to the first thread of those that have
been due the longest, and `Schedule.mostOverdue?_eq_none` that it passes to nobody only when all have
ended.
-/

namespace MissionScript

/-! ## 1. One thread -/

/-- A local variable or timer that is set changes nothing else in its thread. -/
theorem Thread.setLocal_eq_ok {thread changed : Thread} {index now : Nat} {value : Value}
    (success : thread.setLocal index value now = .ok changed) :
    ∃ locals timers, changed = { thread with locals, timers } := by
  unfold setLocal at success
  split at success
  · cases success
    exact ⟨_, _, rfl⟩
  · split at success
    · split at success
      · cases success
        exact ⟨_, _, rfl⟩
      · cases success
    · cases success

namespace Schedule

theorem thread?_modify (schedule : Schedule) (id : Nat) (change : Thread → Thread) (other : Nat) :
    (schedule.modify id change).thread? other =
      (schedule.thread? other).map fun thread => if id = other then change thread else thread :=
  List.getElem?_modify change id schedule.threads other

theorem thread?_modify_self (schedule : Schedule) (id : Nat) (change : Thread → Thread) :
    (schedule.modify id change).thread? id = (schedule.thread? id).map change :=
  List.getElem?_modify_eq change id schedule.threads

/-- A change that cannot be seen in a thread cannot be seen in any. -/
theorem map_thread?_modify {α : Type} (view : Thread → α) {schedule : Schedule} {id : Nat}
    {change : Thread → Thread}
    (kept : ∀ thread, schedule.thread? id = some thread → view (change thread) = view thread)
    (other : Nat) :
    ((schedule.modify id change).thread? other).map view = (schedule.thread? other).map view := by
  rw [thread?_modify, Option.map_map]
  cases found : schedule.thread? other with
  | none => rfl
  | some thread =>
    simp only [Option.map_some, Function.comp_apply]
    split
    · next same =>
      subst same
      rw [kept thread found]
    · rfl

/-- Of two changes to one thread in a row, the second goes on from the first. -/
theorem modify_modify (schedule : Schedule) (id : Nat) (first second : Thread → Thread) :
    (schedule.modify id first).modify id second = schedule.modify id (second ∘ first) := by
  unfold modify
  rw [List.modify_modify_eq]

/-- A change to the thread that was added last reaches that thread alone. -/
theorem modify_append (schedule : Schedule) (thread : Thread) (change : Thread → Thread) :
    modify { schedule with threads := schedule.threads ++ [thread] } schedule.nextId change =
      { schedule with threads := schedule.threads ++ [change thread] } := by
  obtain ⟨threads, current?, time⟩ := schedule
  simp only [modify, nextId, mk.injEq, and_true]
  induction threads with
  | nil => rfl
  | cons first rest ih =>
    rw [List.cons_append, List.length_cons, List.modify_succ_cons, ih, List.cons_append]

/-- The thread that was added last has the next number; the others keep theirs. -/
theorem thread?_append (schedule : Schedule) (thread : Thread) (id : Nat) :
    Schedule.thread? { schedule with threads := schedule.threads ++ [thread] } id =
      if id = schedule.nextId then some thread else schedule.thread? id := by
  show (schedule.threads ++ [thread])[id]? =
    if id = schedule.threads.length then some thread else schedule.threads[id]?
  rw [List.getElem?_append]
  rcases Nat.lt_trichotomy id schedule.threads.length with old | rfl | beyond
  · rw [if_pos old, if_neg (Nat.ne_of_lt old)]
  · rw [if_neg (Nat.lt_irrefl _), if_pos rfl, Nat.sub_self]
    rfl
  · rw [if_neg (Nat.not_lt_of_lt beyond), if_neg (Nat.ne_of_gt beyond),
      List.getElem?_eq_none (Nat.le_of_lt beyond), List.getElem?_eq_none]
    rw [List.length_singleton]
    omega

/-- There is no thread yet under the next number. -/
theorem thread?_nextId (schedule : Schedule) : schedule.thread? schedule.nextId = none :=
  List.getElem?_eq_none (Nat.le_refl _)

theorem ne_nextId {schedule : Schedule} {id : Nat} {thread : Thread}
    (found : schedule.thread? id = some thread) : id ≠ schedule.nextId := by
  rintro rfl
  rw [thread?_nextId] at found
  cases found

theorem nextId_modify (schedule : Schedule) (id : Nat) (change : Thread → Thread) :
    (schedule.modify id change).nextId = schedule.nextId :=
  List.length_modify change schedule.threads id

/-! ## 2. Passing control -/

/-- Of all threads, only the one that runs is settled, and only if it has no wish of its own. -/
theorem thread?_settle (schedule : Schedule) (id : Nat) :
    schedule.settle.thread? id = (schedule.thread? id).map fun thread =>
      if schedule.current? = some id ∧ thread.wake = .awake then
        { thread with wake := .until schedule.time }
      else thread := by
  unfold settle
  cases schedule.current? with
  | none => simp
  | some current =>
    rw [thread?_modify]
    by_cases same : current = id
    · simp [same]
    · simp [same]

/-- Settling decides at most when a thread wakes. -/
theorem exists_of_thread?_settle {schedule : Schedule} {id : Nat} {changed : Thread}
    (isChanged : schedule.settle.thread? id = some changed) :
    ∃ thread wake, schedule.thread? id = some thread ∧ changed = { thread with wake := wake } := by
  rw [thread?_settle] at isChanged
  obtain ⟨thread, found, rfl⟩ := Option.map_eq_some_iff.1 isChanged
  split
  · exact ⟨thread, _, found, rfl⟩
  · exact ⟨thread, thread.wake, found, rfl⟩

@[simp] theorem time_settle (schedule : Schedule) : schedule.settle.time = schedule.time := by
  unfold settle
  split <;> rfl

@[simp] theorem length_settle (schedule : Schedule) :
    schedule.settle.threads.length = schedule.threads.length := by
  unfold settle
  split
  · rfl
  · exact List.length_modify _ _ _

@[simp] theorem current?_pass (schedule : Schedule) :
    schedule.pass.current? = schedule.settle.mostOverdue? := by
  unfold pass
  cases chosen : schedule.settle.mostOverdue? with
  | none => simp only [chosen]
  | some id => simp only [chosen, modify]

/-- Passing control settles the thread that ran and wakes the thread that was chosen. -/
theorem thread?_pass (schedule : Schedule) (id : Nat) :
    schedule.pass.thread? id = (schedule.settle.thread? id).map fun thread =>
      if schedule.settle.mostOverdue? = some id then { thread with wake := .awake } else thread := by
  unfold pass
  cases chosen : schedule.settle.mostOverdue? with
  | none => simp [chosen, thread?]
  | some other =>
    simp only [chosen, thread?_modify, Option.some.injEq]
    rfl

/-- Passing control decides at most when a thread wakes. -/
theorem exists_of_thread?_pass {schedule : Schedule} {id : Nat} {changed : Thread}
    (isChanged : schedule.pass.thread? id = some changed) :
    ∃ thread wake, schedule.thread? id = some thread ∧ changed = { thread with wake := wake } := by
  rw [thread?_pass] at isChanged
  obtain ⟨settled, isSettled, rfl⟩ := Option.map_eq_some_iff.1 isChanged
  obtain ⟨thread, wake, found, rfl⟩ := exists_of_thread?_settle isSettled
  split
  · exact ⟨thread, _, found, rfl⟩
  · exact ⟨thread, wake, found, rfl⟩

/-- Nothing but waking times changes when control passes. -/
theorem map_thread?_pass {α : Type} (view : Thread → α)
    (ignores : ∀ thread wake, view { thread with wake } = view thread) (schedule : Schedule)
    (id : Nat) : (schedule.pass.thread? id).map view = (schedule.thread? id).map view := by
  rw [thread?_pass, thread?_settle, Option.map_map, Option.map_map]
  congr 1
  funext thread
  simp only [Function.comp_apply]
  split
  · rw [ignores]
    split
    · exact ignores thread _
    · rfl
  · split
    · exact ignores thread _
    · rfl

@[simp] theorem time_pass (schedule : Schedule) : schedule.pass.time = schedule.time := by
  unfold pass
  cases chosen : schedule.settle.mostOverdue? with
  | none => simp [chosen]
  | some id => simp [chosen, modify]

@[simp] theorem length_pass (schedule : Schedule) :
    schedule.pass.threads.length = schedule.threads.length := by
  unfold pass
  cases chosen : schedule.settle.mostOverdue? with
  | none => simp [chosen]
  | some id => simp [chosen, modify]

/-- One comparison always leaves a best thread: the old one, if the new one has not been due longer, and
else the new one. -/
theorem prefer_eq_some (now : Nat) (start : Option (Nat × Int)) (thread : Thread) :
    ∃ best, prefer now start thread = some best ∧
      (start = some best ∧ thread.wake.overdue now ≤ best.2 ∨
        best = (thread.id, thread.wake.overdue now) ∧ ∀ old, start = some old → old.2 < best.2) := by
  unfold prefer
  cases start with
  | none => exact ⟨_, rfl, Or.inr ⟨rfl, nofun⟩⟩
  | some old =>
    simp only [Option.some.injEq, forall_eq']
    split
    · next longer => exact ⟨_, rfl, Or.inr ⟨rfl, longer⟩⟩
    · next shorter => exact ⟨_, rfl, Or.inl ⟨rfl, Int.not_lt.1 shorter⟩⟩

/-- The best thread is the first of those that have been due the longest: all that were looked at before
it have been due less long, and none of the later ones longer. -/
theorem prefer_first {now : Nat} {threads : List Thread} {start : Option (Nat × Int)}
    {best : Nat × Int} (chosen : threads.foldl (prefer now) start = some best) :
    (start = some best ∧ ∀ thread ∈ threads, thread.wake.overdue now ≤ best.2) ∨
      ∃ before thread after, threads = before ++ thread :: after ∧
        best = (thread.id, thread.wake.overdue now) ∧
        (∀ old, start = some old → old.2 < best.2) ∧
        (∀ other ∈ before, other.wake.overdue now < best.2) ∧
        ∀ other ∈ after, other.wake.overdue now ≤ best.2 := by
  induction threads generalizing start with
  | nil => exact Or.inl ⟨chosen, nofun⟩
  | cons first rest ih =>
    obtain ⟨next, isNext, origin⟩ := prefer_eq_some now start first
    have firstLe : first.wake.overdue now ≤ next.2 := by
      rcases origin with ⟨_, notLonger⟩ | ⟨rfl, _⟩
      · exact notLonger
      · exact Int.le_refl _
    rw [List.foldl_cons, isNext] at chosen
    rcases ih chosen with ⟨isBest, notLonger⟩ | ⟨before, thread, after, rfl, isBest, less, earlier, later⟩
    · cases isBest
      rcases origin with ⟨fromStart, _⟩ | ⟨isFirst, less⟩
      · exact Or.inl ⟨fromStart, List.forall_mem_cons.2 ⟨firstLe, notLonger⟩⟩
      · exact Or.inr ⟨[], first, rest, rfl, isFirst, less, nofun, notLonger⟩
    · have nextLt : next.2 < best.2 := less next rfl
      refine Or.inr ⟨first :: before, thread, after, rfl, isBest, ?_, ?_, later⟩
      · intro old isOld
        rcases origin with ⟨fromStart, _⟩ | ⟨_, lessThanFirst⟩
        · cases isOld.symm.trans fromStart
          exact nextLt
        · exact Int.lt_trans (lessThanFirst old isOld) nextLt
      · exact List.forall_mem_cons.2 ⟨Int.lt_of_le_of_lt firstLe nextLt, earlier⟩

/-- There is a best thread as soon as one was looked at. -/
theorem prefer_eq_none {now : Nat} {threads : List Thread} {start : Option (Nat × Int)}
    (nobody : threads.foldl (prefer now) start = none) : threads = [] := by
  induction threads generalizing start with
  | nil => rfl
  | cons first rest ih =>
    cases ih nobody
    obtain ⟨next, isNext, _⟩ := prefer_eq_some now start first
    cases isNext.symm.trans nobody

/-- Every thread is found under its own number. -/
def Numbered (schedule : Schedule) : Prop :=
  ∀ id thread, schedule.thread? id = some thread → thread.id = id

theorem Numbered.settle {schedule : Schedule} (numbered : schedule.Numbered) :
    schedule.settle.Numbered := by
  intro id changed isChanged
  obtain ⟨thread, wake, found, rfl⟩ := exists_of_thread?_settle isChanged
  exact numbered id thread found

theorem mem_alive {schedule : Schedule} {thread : Thread} :
    thread ∈ schedule.threads.filter (fun thread => !thread.isTerminated) ↔
      thread ∈ schedule.threads ∧ thread.wake ≠ .never := by
  rw [List.mem_filter]
  simp [Thread.isTerminated]

/-- Control passes to a thread that exists and has not ended. Of the threads that have not ended, it is
the first of those that have been due the longest. -/
theorem mostOverdue?_eq_some {schedule : Schedule} (numbered : schedule.Numbered) {id : Nat}
    (chosen : schedule.mostOverdue? = some id) :
    ∃ before thread after,
      schedule.threads.filter (fun thread => !thread.isTerminated) = before ++ thread :: after ∧
      schedule.thread? id = some thread ∧ thread.wake ≠ .never ∧
      (∀ other ∈ before,
        other.wake.overdue schedule.time < thread.wake.overdue schedule.time) ∧
      ∀ other ∈ after,
        other.wake.overdue schedule.time ≤ thread.wake.overdue schedule.time := by
  obtain ⟨best, isBest, rfl⟩ := Option.map_eq_some_iff.1 chosen
  rcases prefer_first isBest with ⟨impossible, _⟩ | ⟨before, thread, after, alive, rfl, _, less, notMore⟩
  · cases impossible
  · have member : thread ∈ before ++ thread :: after :=
      List.mem_append_right before List.mem_cons_self
    rw [← alive] at member
    obtain ⟨inThreads, notEnded⟩ := mem_alive.1 member
    obtain ⟨index, found⟩ := List.getElem?_of_mem inThreads
    have isIndex : thread.id = index := numbered index thread found
    exact ⟨before, thread, after, alive, isIndex ▸ found, notEnded, less, notMore⟩

/-- No thread that has not ended has been due longer than the one that control passes to. -/
theorem mostOverdue?_longest {schedule : Schedule} (numbered : schedule.Numbered) {id : Nat}
    (chosen : schedule.mostOverdue? = some id) :
    ∃ thread, schedule.thread? id = some thread ∧ thread.wake ≠ .never ∧
      ∀ other ∈ schedule.threads, other.wake ≠ .never →
        other.wake.overdue schedule.time ≤ thread.wake.overdue schedule.time := by
  obtain ⟨before, thread, after, alive, found, notEnded, less, notMore⟩ :=
    mostOverdue?_eq_some numbered chosen
  refine ⟨thread, found, notEnded, ?_⟩
  intro other isOther otherAlive
  have listed := mem_alive.2 ⟨isOther, otherAlive⟩
  rw [alive] at listed
  rcases List.mem_append.1 listed with earlier | later
  · exact Int.le_of_lt (less other earlier)
  · rcases List.mem_cons.1 later with rfl | behind
    · exact Int.le_refl _
    · exact notMore other behind

theorem mostOverdue?_found {schedule : Schedule} (numbered : schedule.Numbered) {id : Nat}
    (chosen : schedule.mostOverdue? = some id) :
    ∃ thread, schedule.thread? id = some thread ∧ thread.wake ≠ .never := by
  obtain ⟨_, thread, _, _, found, alive, _⟩ := mostOverdue?_eq_some numbered chosen
  exact ⟨thread, found, alive⟩

/-- Control passes to nobody only when all threads have ended. -/
theorem mostOverdue?_eq_none {schedule : Schedule} (nobody : schedule.mostOverdue? = none) :
    ∀ thread ∈ schedule.threads, thread.wake = .never := by
  have noneAlive := prefer_eq_none (Option.map_eq_none_iff.1 nobody)
  intro thread member
  have ended := List.filter_eq_nil_iff.1 noneAlive thread member
  simpa [Thread.isTerminated] using ended

/-! ## 3. When threads wake -/

section Wakes

variable {schedule : Schedule}

def wake? (schedule : Schedule) (id : Nat) : Option Wake := (schedule.thread? id).map Thread.wake

theorem wake?_eq_some {id : Nat} {wake : Wake} :
    schedule.wake? id = some wake ↔ ∃ thread, schedule.thread? id = some thread ∧
      thread.wake = wake :=
  Option.map_eq_some_iff

/-- A change that sets when threads wake from when they woke before. -/
theorem map_wake_map {thread? : Option Thread} {change : Thread → Thread} {set : Wake → Wake}
    (sets : ∀ thread, (change thread).wake = set thread.wake) :
    (thread?.map change).map Thread.wake = (thread?.map Thread.wake).map set := by
  rw [Option.map_map, Option.map_map]
  exact congrArg (fun view => thread?.map view) (funext sets)

theorem wake?_grown (schedule : Schedule) (thread : Thread) (id : Nat) :
    wake? { schedule with threads := schedule.threads ++ [thread] } id =
      if id = schedule.nextId then some thread.wake else schedule.wake? id := by
  rw [wake?, thread?_append]
  split <;> rfl

theorem wake?_append {thread : Thread} {id : Nat} {wake : Wake}
    (found : schedule.wake? id = some wake) :
    wake? { schedule with threads := schedule.threads ++ [thread] } id = some wake := by
  obtain ⟨old, isOld, rfl⟩ := wake?_eq_some.1 found
  rw [wake?_grown, if_neg (ne_nextId isOld), found]

theorem wake?_sleep (schedule : Schedule) (sleeper time id : Nat) :
    (schedule.sleep sleeper time).wake? id =
      (schedule.wake? id).map fun wake => if sleeper = id then .until time else wake := by
  rw [wake?, sleep, thread?_modify]
  refine map_wake_map fun thread => ?_
  split <;> rfl

theorem wake?_sleep_other {id sleeper time : Nat} (other : sleeper ≠ id) :
    (schedule.sleep sleeper time).wake? id = schedule.wake? id := by
  rw [wake?_sleep]
  simp [other]

theorem wake?_settle (schedule : Schedule) (id : Nat) :
    schedule.settle.wake? id = (schedule.wake? id).map fun wake =>
      if schedule.current? = some id ∧ wake = .awake then .until schedule.time else wake := by
  rw [wake?, thread?_settle]
  refine map_wake_map fun thread => ?_
  split <;> rfl

/-- The thread that control passes to is awake; the others are as settling leaves them. -/
theorem wake?_pass (schedule : Schedule) (id : Nat) :
    schedule.pass.wake? id = (schedule.settle.wake? id).map fun wake =>
      if schedule.pass.current? = some id then .awake else wake := by
  rw [wake?, thread?_pass, current?_pass]
  refine map_wake_map fun thread => ?_
  split <;> rfl

end Wakes

/-! ## 4. All threads -/

/-- All threads have a property. -/
def Every (property : Thread → Prop) (schedule : Schedule) : Prop :=
  ∀ thread ∈ schedule.threads, property thread

namespace Every

variable {property : Thread → Prop} {schedule : Schedule}

theorem thread? (every : schedule.Every property) {id : Nat} {thread : Thread}
    (found : schedule.thread? id = some thread) : property thread :=
  every thread (List.mem_of_getElem? found)

theorem modify (every : schedule.Every property) (id : Nat) {change : Thread → Thread}
    (kept : ∀ thread, property thread → property (change thread)) :
    (schedule.modify id change).Every property := by
  intro thread member
  obtain ⟨index, found⟩ := List.getElem?_of_mem member
  rw [Schedule.modify, List.getElem?_modify] at found
  cases before : schedule.threads[index]? with
  | none =>
    rw [before] at found
    cases found
  | some old =>
    have holds : property old := every old (List.mem_of_getElem? before)
    rw [before] at found
    cases found
    split
    · exact kept old holds
    · exact holds

/-- A thread that is replaced may be replaced by any other that has the property. -/
theorem replace (every : schedule.Every property) (id : Nat) {thread : Thread}
    (holds : property thread) : (schedule.modify id fun _ => thread).Every property :=
  every.modify id fun _ _ => holds

theorem append (every : schedule.Every property) {thread : Thread} (holds : property thread) :
    Every property { schedule with threads := schedule.threads ++ [thread] } := by
  intro other member
  rcases List.mem_append.1 member with old | new
  · exact every other old
  · rw [List.mem_singleton.1 new]
    exact holds

section Waking

variable (wakes : ∀ thread wake, property thread → property { thread with wake })
include wakes

theorem sleep (every : schedule.Every property) (id time : Nat) :
    (schedule.sleep id time).Every property :=
  every.modify id fun thread => wakes thread _

theorem settle (every : schedule.Every property) : schedule.settle.Every property := by
  unfold Schedule.settle
  split
  · exact every
  · refine every.modify _ fun thread holds => ?_
    split
    · exact wakes thread _ holds
    · exact holds

theorem pass (every : schedule.Every property) : schedule.pass.Every property := by
  have settled := every.settle wakes
  unfold Schedule.pass
  simp only
  split
  · exact settled
  · next id _ =>
    have current : Every property { schedule.settle with current? := some id } := settled
    exact current.modify id fun thread => wakes thread _

end Waking

end Every

end Schedule

end MissionScript
