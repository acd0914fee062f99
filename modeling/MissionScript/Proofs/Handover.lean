import MissionScript.Proofs.EndedThreads
import MissionScript.Proofs.Turns

/-!
# Handing over control

A thread that has just been started is awake, and so is the thread that has control. Nobody has been due
as long as a thread that is awake. Where starting a thread passes control, the two facts fit together:
the thread that gives up control is no longer awake, so the new one is the only one that is, and gets
control. This makes it the only thread that is awake again. A behaviour may start any number of threads
and put its own to sleep in between, and the thread that is awake changes every time; whenever it is
asked, nobody is awake who does not have control.

Results:
1. `Schedule.SoleAwake.grown_pass`, `Schedule.SoleAwake.sleep_pass`: passing control keeps only one
   thread awake.
2. `Schedule.Turn.hands_to_started`: a turn that starts a thread hands over to it.
3. `start_hands_over`: both over whole runs.
-/

namespace MissionScript

/-! ## 1. Being awake -/

namespace Wake

theorem until_ne_awake (time : Nat) : Wake.until time ≠ .awake := by
  intro awake
  unfold Wake.until at awake
  split at awake
  · cases awake
  · cases awake

/-- Only who is awake has been due as long as one who is. -/
theorem eq_awake_of_overdue_le {now : Nat} {wake : Wake} (clock : now ≤ endOfTime)
    (longest : Wake.awake.overdue now ≤ wake.overdue now) : wake = .awake := by
  unfold endOfTime at clock
  cases wake with
  | awake => rfl
  | «at» time =>
    simp only [overdue] at longest
    omega
  | never =>
    simp only [overdue, endOfTime] at longest
    omega

end Wake

namespace Schedule

/-- Nobody is awake but the thread that has control. -/
def SoleAwake (schedule : Schedule) : Prop :=
  ∀ id, schedule.wake? id = some .awake → schedule.current? = some id

variable {schedule before after : Schedule} {id : Nat}

/-- As long as somebody is awake, control passes to one who is. -/
theorem mostOverdue?_awake (numbered : schedule.Numbered) (clock : schedule.time ≤ endOfTime)
    (awake : schedule.wake? id = some .awake) :
    ∃ chosen, schedule.mostOverdue? = some chosen ∧ schedule.wake? chosen = some .awake := by
  obtain ⟨thread, found, isAwake⟩ := wake?_eq_some.1 awake
  have member : thread ∈ schedule.threads := List.mem_of_getElem? found
  cases isChosen : schedule.mostOverdue? with
  | none =>
    have ended := mostOverdue?_eq_none isChosen thread member
    cases isAwake.symm.trans ended
  | some chosen =>
    obtain ⟨other, isOther, _, longest⟩ := mostOverdue?_longest numbered isChosen
    have atLeast := longest thread member (by rw [isAwake]; nofun)
    rw [isAwake] at atLeast
    exact ⟨chosen, rfl, wake?_eq_some.2 ⟨other, isOther, Wake.eq_awake_of_overdue_le clock atLeast⟩⟩

/-- Settled are those who have no control and were awake before. -/
theorem wake?_settle_eq_awake :
    schedule.settle.wake? id = some .awake ↔
      schedule.wake? id = some .awake ∧ schedule.current? ≠ some id := by
  rw [wake?_settle, Option.map_eq_some_iff]
  constructor
  · rintro ⟨wake, isWake, settled⟩
    split at settled
    · exact absurd settled (Wake.until_ne_awake _)
    · next kept =>
      subst settled
      exact ⟨isWake, fun current => kept ⟨current, rfl⟩⟩
  · rintro ⟨isAwake, notCurrent⟩
    exact ⟨.awake, isAwake, if_neg fun current => notCurrent current.1⟩

/-- Control passes to the one thread that is awake without having it. -/
theorem pass_current_of_awake (numbered : schedule.settle.Numbered)
    (clock : schedule.time ≤ endOfTime)
    (only : ∀ other, schedule.settle.wake? other = some .awake ↔ other = id) :
    schedule.pass.current? = some id := by
  rw [← time_settle schedule] at clock
  obtain ⟨chosen, isChosen, awake⟩ := mostOverdue?_awake numbered clock ((only id).2 rfl)
  rw [current?_pass, isChosen, (only chosen).1 awake]

/-- If at most one thread is awake without having control, passing control leaves nobody else awake. -/
theorem pass_soleAwake (numbered : schedule.settle.Numbered) (clock : schedule.time ≤ endOfTime)
    (atMostOne : ∀ left right, schedule.settle.wake? left = some .awake →
      schedule.settle.wake? right = some .awake → left = right) : schedule.pass.SoleAwake := by
  rw [← time_settle schedule] at clock
  intro id awake
  rw [wake?_pass] at awake
  obtain ⟨wake, settled, isAwake⟩ := Option.map_eq_some_iff.1 awake
  split at isAwake
  · next chosen => exact chosen
  · subst isAwake
    obtain ⟨chosen, isChosen, alsoAwake⟩ := mostOverdue?_awake numbered clock settled
    rw [current?_pass, isChosen, atMostOne chosen id alsoAwake settled]

namespace SoleAwake

theorem of_wakes (sole : before.SoleAwake) (current : after.current? = before.current?)
    (wakes : ∀ id, after.wake? id = before.wake? id) : after.SoleAwake := by
  intro id awake
  rw [wakes] at awake
  rw [current, sole id awake]

/-- After a thread has been started, it is the only one that is awake without having control. -/
theorem grown_settle (sole : before.SoleAwake) (sound : before.Sound) {thread : Thread}
    (awake : thread.wake = .awake) (id : Nat) :
    (settle { before with threads := before.threads ++ [thread] }).wake? id = some .awake ↔
      id = before.nextId := by
  rw [wake?_settle_eq_awake, wake?_grown]
  constructor
  · rintro ⟨isAwake, notCurrent⟩
    split at isAwake
    · next isNext => exact isNext
    · exact absurd (sole id isAwake) notCurrent
  · rintro rfl
    refine ⟨by rw [if_pos rfl, awake], fun current => ?_⟩
    obtain ⟨running, found, _⟩ := sound.current before.nextId current
    exact ne_nextId found rfl

/-- A thread that is started gets control when it passes, and is then the only one awake. -/
theorem grown_pass (sole : before.SoleAwake) (sound : before.Sound)
    (clock : before.time ≤ endOfTime) {thread : Thread} (isNext : thread.id = before.nextId)
    (awake : thread.wake = .awake) (fresh : thread.returns = []) :
    let passed := pass { before with threads := before.threads ++ [thread] }
    passed.current? = some before.nextId ∧ passed.SoleAwake := by
  have numbered := (sound.toFormed.append isNext fresh).numbered.settle
  have only := sole.grown_settle sound awake
  refine ⟨pass_current_of_awake numbered clock only, pass_soleAwake numbered clock ?_⟩
  intro left right isLeft isRight
  rw [(only left).1 isLeft, (only right).1 isRight]

/-- When a thread is put to sleep, nobody is awake until control passes. -/
theorem sleep_pass (sole : before.SoleAwake) (sound : before.Sound)
    (clock : before.time ≤ endOfTime) (sleeper time : Nat) :
    (before.sleep sleeper time).pass.SoleAwake := by
  have nobody : ∀ id, (before.sleep sleeper time).settle.wake? id ≠ some .awake := by
    intro id awake
    obtain ⟨isAwake, notCurrent⟩ := wake?_settle_eq_awake.1 awake
    rw [wake?_sleep] at isAwake
    obtain ⟨wake, isWake, slept⟩ := Option.map_eq_some_iff.1 isAwake
    split at slept
    · exact Wake.until_ne_awake _ slept
    · subst slept
      exact notCurrent (sole id isWake)
  refine pass_soleAwake (sound.toFormed.sleep sleeper time).numbered.settle clock ?_
  intro left right isLeft _
  exact absurd isLeft (nobody left)

theorem move {site : Site} (sole : before.SoleAwake) (sound : before.Sound)
    (clock : before.time ≤ endOfTime) (switches : site.config.switchOnNewThread = true)
    (move : before.Move site after) : after.SoleAwake := by
  cases move with
  | edit found isEdit =>
    refine sole.of_wakes rfl (map_thread?_modify Thread.wake fun thread again => ?_)
    cases found.symm.trans again
    exact isEdit.wake
  | start stays =>
    rw [switches] at stays
    cases stays
  | startAndPass _ isNext awake fresh => exact (sole.grown_pass sound clock isNext awake fresh).2
  | sleep time => exact sole.sleep_pass sound clock site.thread time

end SoleAwake

/-- A turn that starts a thread hands over to it: the new thread has control, and the one that had it is
due from now on. -/
theorem Turn.hands_to_started {site : Site} (turn : before.Turn site true true after) (sound : before.Sound)
    (sole : before.SoleAwake) (clock : before.time ≤ endOfTime)
    (running : before.current? = some site.thread) :
    after.current? = some before.nextId ∧
      after.wake? site.thread = some (.until before.time) := by
  cases turn with
  | startAndPass isNext awake fresh edits =>
    obtain ⟨passed, _⟩ := sole.grown_pass sound clock isNext awake fresh
    obtain ⟨runner, found, isAwake⟩ := sound.current site.thread running
    refine ⟨edits.current.trans passed, (edits.wakes site.thread).trans ?_⟩
    show wake? (pass _) site.thread = _
    have notNext : before.nextId ≠ site.thread := Ne.symm (ne_nextId found)
    rw [wake?_pass, passed, wake?_settle, wake?_append (wake?_eq_some.2 ⟨runner, found, isAwake⟩),
      Option.map_some, if_pos ⟨running, rfl⟩, Option.map_some,
      if_neg fun same => notNext (Option.some.inj same)]

end Schedule

/-! ## 2. Ticks -/

theorem Builtin.passesControl_of_starter {builtin : Builtin} (starter : builtin ∈ starters)
    (config : Config) : builtin.passesControl config = config.switchOnNewThread := by
  simp only [starters, List.mem_cons, List.not_mem_nil, or_false] at starter
  rcases starter with rfl | rfl | rfl <;> rfl

namespace Machine

variable {machine : Machine} {size : Nat}

/-- The clock advances by one in a tick that succeeds, and else stands still. -/
theorem Sound.tick_time_le (sound : machine.Sound size) :
    machine.tick.machine.schedule.time ≤ machine.schedule.time + 1 := by
  cases result : machine.tick.result with
  | error error =>
    rw [tick_schedule_of_error result]
    exact Nat.le_succ _
  | ok record =>
    obtain ⟨step, after, _, ran, accepted, _⟩ := tick_of_ok result
    obtain ⟨schedule, isSchedule, edits⟩ := machine.cleared.accept_edits step after
    have sameTime : schedule.time = machine.schedule.time :=
      edits.time.trans (sound.cleared.run ran).time_eq
    rw [accepted, isSchedule]
    exact Nat.le_of_eq (congrArg Nat.succ sameTime)

/-- A tick that carries out a starter hands over to the thread that it starts. -/
theorem Sound.tick_hands_over (sound : machine.Sound size)
    (switches : machine.config.switchOnNewThread = true)
    (clock : machine.schedule.time < endOfTime) (sole : machine.schedule.SoleAwake)
    {record : TickRecord} (success : machine.tick.result = .ok record) {entry : Entry Handler}
    (known : machine.registry.entry? record.opcode = some entry) {builtin : Builtin}
    (starter : builtin ∈ Builtin.starters) (bound : entry.handler? = some builtin.handler) :
    machine.tick.machine.schedule.nextId = machine.schedule.nextId + 1 ∧
      machine.tick.machine.schedule.current? = some machine.schedule.nextId ∧
      machine.tick.machine.schedule.wake? record.thread = some (.at machine.schedule.time) := by
  obtain ⟨step, after, prepared, ran, accepted, rfl⟩ := tick_of_ok success
  obtain ⟨thread, other, ready⟩ := prepare_ready prepared
  obtain ⟨schedule, isSchedule, edits⟩ := machine.cleared.accept_edits step after
  cases ready.known.symm.trans known
  rw [Step.run, ready.handler, bound] at ran
  have turn := (Builtin.effect_of_run ran).reach.turn.edit edits
  rw [decide_eq_true starter, Builtin.passesControl_of_starter starter, ready.config] at turn
  have switched : machine.schedule.Turn step.site true true schedule := switches ▸ turn
  obtain ⟨current, wake⟩ :=
    switched.hands_to_started sound.schedule sole (Nat.le_of_lt clock) ready.current
  rw [Wake.until, if_pos clock] at wake
  rw [accepted, isSchedule]
  exact ⟨switched.length, current, wake⟩

/-- Whatever a behaviour does in a tick, nobody but the thread that has control is awake after it. -/
theorem Sound.serve_soleAwake (sound : machine.Sound size)
    (switches : machine.config.switchOnNewThread = true)
    (clock : machine.schedule.time ≤ endOfTime) (sole : machine.schedule.SoleAwake)
    (request : Request) : (machine.serve request).schedule.SoleAwake := by
  refine sound.serve_schedule Schedule.SoleAwake ?_ (fun _ isSole => isSole) ?_ sole request
  · intro schedule id pc isSole
    exact isSole.of_wakes rfl (Schedule.map_thread?_modify Thread.wake fun _ _ => rfl)
  · intro site before after isConfig _ isSound time move isSole
    -- The clock stands still while the behaviour runs, so no operation reaches the end of time.
    exact isSole.move isSound (time ▸ clock) (isConfig ▸ switches) move

/-- The clock shows at most the number of ticks that were asked for. -/
theorem Sound.serve_time_le (sound : machine.Sound size) (request : Request) :
    (machine.serve request).schedule.time ≤ machine.schedule.time + [request].count .tick := by
  cases request with
  | tick => exact sound.tick_time_le
  | setThreadPc id pc =>
    rcases machine.serve_setThreadPc id pc with same | moved
    · rw [same]
      exact Nat.le_add_right _ _
    · rw [moved]
      exact Nat.le_add_right _ _

theorem Sound.serveAll_soleAwake (sound : machine.Sound size)
    (switches : machine.config.switchOnNewThread = true) (sole : machine.schedule.SoleAwake)
    (requests : List Request)
    (clock : machine.schedule.time + requests.count .tick ≤ endOfTime) :
    (machine.serveAll requests).schedule.SoleAwake ∧
      (machine.serveAll requests).schedule.time ≤ machine.schedule.time + requests.count .tick := by
  induction requests generalizing machine with
  | nil => exact ⟨sole, Nat.le_refl _⟩
  | cons request rest ih =>
    have split : (request :: rest).count .tick = [request].count .tick + rest.count .tick := by
      rw [← List.count_append, List.singleton_append]
    have served := sound.serve_time_le request
    have onward : (machine.serve request).schedule.time + rest.count .tick ≤
        machine.schedule.time + (request :: rest).count .tick := by
      rw [split, ← Nat.add_assoc]
      exact Nat.add_le_add_right served _
    have inTime := Nat.le_trans (Nat.le_add_right _ _) clock
    obtain ⟨isSole, time⟩ := ih (sound.serve request)
      ((machine.serveAll_sameScript [request]).config ▸ switches)
      (sound.serve_soleAwake switches inTime sole request) (Nat.le_trans onward clock)
    exact ⟨isSole, Nat.le_trans time onward⟩

/-- A script that has been loaded has one thread, and that has control. -/
theorem load_soleAwake {bytes : Array UInt8} {registry : Registry Handler} {config : Config}
    (load : Machine.load bytes registry config = .ok machine) :
    machine.schedule.SoleAwake ∧ machine.schedule.time = 0 := by
  obtain ⟨layout, code, _, _, rfl⟩ := load_eq_ok load
  refine ⟨fun id awake => ?_, rfl⟩
  obtain ⟨thread, found, _⟩ := Schedule.wake?_eq_some.1 awake
  cases id with
  | zero => rfl
  | succ id => cases found

end Machine

/-! ## 3. Runs -/

/-- Starting a thread hands over control to it. Load a script with any behaviours, in a configuration
where starting a thread passes control, and ask for fewer than 2^63 ticks and any moves of threads. Then
nobody is awake but the thread that has control. If the next tick succeeds and carries out one of the
three starters, it adds one thread, which has control afterwards, and the thread that started it is due
from the time of the tick on. -/
theorem start_hands_over {bytes : Array UInt8} {registry : Registry Handler} {config : Config}
    {loaded : Machine} (load : Machine.load bytes registry config = .ok loaded)
    (switches : config.switchOnNewThread = true) (requests : List Request)
    (short : requests.count .tick < 0x8000000000000000) :
    let machine := loaded.serveAll requests
    (∀ id thread, machine.schedule.thread? id = some thread → thread.wake = .awake →
      machine.schedule.current? = some id) ∧
    ∀ record entry builtin, machine.tick.result = .ok record →
      registry.entry? record.opcode = some entry → builtin ∈ Builtin.starters →
      entry.handler? = some (Builtin.handler builtin) →
      let after := machine.tick.machine.schedule
      after.nextId = machine.schedule.nextId + 1 ∧
      after.current? = some machine.schedule.nextId ∧
      after.wake? record.thread = some (.at machine.schedule.time) := by
  intro machine
  have soundLoaded := Machine.load_sound load
  obtain ⟨soleLoaded, timeLoaded⟩ := Machine.load_soleAwake load
  have isConfig : loaded.config = config := by
    obtain ⟨layout, code, _, _, rfl⟩ := Machine.load_eq_ok load
    rfl
  have inTime : loaded.schedule.time + requests.count .tick < endOfTime := by
    rw [timeLoaded, Nat.zero_add]
    exact Nat.lt_trans short (by decide)
  obtain ⟨sole, time⟩ := soundLoaded.serveAll_soleAwake (isConfig ▸ switches) soleLoaded requests
    (Nat.le_of_lt inTime)
  constructor
  · intro id thread found awake
    exact sole id (Schedule.wake?_eq_some.2 ⟨thread, found, awake⟩)
  · intro record entry builtin success known starter bound
    have sameScript := loaded.serveAll_sameScript requests
    have isRegistry : machine.registry = registry := Machine.serveAll_registry load requests
    exact (soundLoaded.serveAll requests).tick_hands_over
      (sameScript.config ▸ isConfig ▸ switches) (Nat.lt_of_le_of_lt time inTime) sole success
      (isRegistry ▸ known) starter bound

namespace HandoverExample

/-- Starts two threads behind the instruction, and then puts the one that runs to sleep. -/
def scatter : Handler := fun site _ => do
  let _ ← .startThread site.instruction.next false
  let _ ← .startThread site.instruction.next false
  let frame ← .view
  .sleepUntil (frame.schedule.time + 5)

/-- The built-in instructions, and one more that scatters. -/
def registry : Except Error (Registry Handler) := do
  let draft ← Registry.Draft.empty.bind
    ⟨{ opcode := ⟨0x0A00⟩, symbol := "scatter", params := [] }, scatter⟩
  let draft ← draft.bindAll Builtin.bindings
  draft.build

theorem registry_hasBuiltins {built : Registry Handler} (success : registry = .ok built) :
    built.HasBuiltins := by
  obtain ⟨_, bound, success⟩ := except_bind_eq_ok.1 success
  obtain ⟨_, allBound, made⟩ := except_bind_eq_ok.1 success
  exact Registry.Draft.bindAll_hasBuiltins (Registry.Draft.keyed_empty.bind bound) allBound made

/-- Behind the regions, the main thread scatters; the threads that it starts start another one, which
jumps in place. -/
def script : Array UInt8 := #[
  0x02, 0x00, 0x01, 0x0C, 0x00, 0x00, 0x00, 0x6D,
  0x00, 0x00, 0x00, 0x00,
  0x02, 0x00, 0x01, 0x18, 0x00, 0x00, 0x00, 0x00,
  0x00, 0x00, 0x00, 0x00,
  0x02, 0x00, 0x01, 0x2C, 0x00, 0x00, 0x00, 0x00,
  0x00, 0x00, 0x00, 0x00, 0x00, 0x00, 0x00, 0x00, 0x00, 0x00, 0x00, 0x00,
  0x00, 0x0A,
  0xD7, 0x00, 0x04, 0x32,
  0x02, 0x00, 0x04, 0x32]

/-- After four ticks one of the two threads is awake and is about to start another one. -/
abbrev Scattered (loaded : Machine) : Prop :=
  (loaded.serveAll (List.replicate 4 .tick)).schedule.threads.map Thread.wake =
    [.at 8, .awake, .at 3] ∧
  (loaded.serveAll (List.replicate 4 .tick)).schedule.time = 4 ∧
  (loaded.serveAll (List.replicate 4 .tick)).schedule.nextId = 3 ∧
  ∃ record ∈ (loaded.serveAll (List.replicate 4 .tick)).tick.result.toOption,
    record.opcode = Builtin.startNewScript.opcode ∧ record.thread = 1

end HandoverExample

open HandoverExample in
/-- After the main thread has scattered, one of the two threads that it has started is awake and has
control. That one starts a fourth thread at time 4: the fourth has control, and the starter is due at
time 4. -/
theorem scattered_thread_hands_over :
    ∃ built loaded record, registry = .ok built ∧ Machine.load script built {} = .ok loaded ∧
      (loaded.serveAll (List.replicate 4 .tick)).schedule.threads.map Thread.wake =
        [.at 8, .awake, .at 3] ∧
      (loaded.serveAll (List.replicate 4 .tick)).schedule.current? = some 1 ∧
      (loaded.serveAll (List.replicate 4 .tick)).tick.result = .ok record ∧ record.thread = 1 ∧
      (loaded.serveAll (List.replicate 4 .tick)).tick.machine.schedule.current? = some 3 ∧
      (loaded.serveAll (List.replicate 4 .tick)).tick.machine.schedule.wake? 1 =
        some (.at 4) := by
  obtain ⟨built, loaded, isBuilt, load, wakes, time, nextId, record, success, opcode, byFirst⟩ :=
    Machine.exists_loaded_of_evaluation registry script {} Scattered (by decide +kernel)
  obtain ⟨entry, known, _, _, bound⟩ := registry_hasBuiltins isBuilt .startNewScript
  obtain ⟨onlyCurrent, starts⟩ := start_hands_over load rfl (List.replicate 4 .tick) (by decide)
  have ok := except_toOption_eq_some.1 success
  obtain ⟨_, current, due⟩ := starts record entry .startNewScript ok (opcode ▸ known) (by decide) bound
  have awake : ∃ thread, (loaded.serveAll (List.replicate 4 .tick)).schedule.thread? 1 = some thread ∧
      thread.wake = .awake := by
    refine Schedule.wake?_eq_some.1 ?_
    rw [Schedule.wake?, Schedule.thread?, ← List.getElem?_map, wakes]
    rfl
  obtain ⟨thread, found, isAwake⟩ := awake
  refine ⟨built, loaded, record, isBuilt, load, wakes, onlyCurrent 1 thread found isAwake, ok, byFirst,
    ?_, ?_⟩
  · rw [current, nextId]
  · rw [← byFirst, due, time]

end MissionScript
