import MissionScript.Proofs.TickFrame

/-!
# Calls and the returns that match them

Each thread has a stack of places to return to. What the stack holds can be said without it, from what
the thread has carried out so far. A return matches the nearest call before it that no earlier return
matches. Everything between the two is balanced: each call in it has its return in it and the other
way round. What is left over are the calls that wait for their return, and the places after them, in
order, are the stack.

Other threads run in between, may be started in between and may make calls of their own. For one
thread only its own ticks count.

Results:
1. `Unmatched.snoc_call`, `Unmatched.snoc_return`: what one more tick does to the calls that wait for
   their return; `Unmatched.unique`: these calls are determined.
2. `Effect.returnsOf`: no other built-in than call and return changes a stack.
3. `Machine.CallsMatch.serve`, `Machine.CallsMatch.serveAll`: the stacks hold what the ticks so far
   leave unmatched, after every request and so after every run.
4. `calls_match_returns`: where a return leads, and when calls and returns fail.
-/

namespace MissionScript

/-! ## 1. Matching -/

namespace TickRecord

def isCall (record : TickRecord) : Bool := record.opcode = Builtin.gosub.opcode

def isReturn (record : TickRecord) : Bool := record.opcode = Builtin.returnFromGosub.opcode

/-- The address of the instruction that follows in memory. -/
def next (record : TickRecord) : Nat := record.address + record.byteLength

end TickRecord

/-- Every call has its return, and every return its call. -/
inductive Balanced : List TickRecord → Prop where
  | nil : Balanced []
  | plain {record : TickRecord} {rest : List TickRecord} (noCall : record.isCall = false)
      (noReturn : record.isReturn = false) (balanced : Balanced rest) : Balanced (record :: rest)
  | matched {call ret : TickRecord} {inner rest : List TickRecord} (isCall : call.isCall = true)
      (inside : Balanced inner) (isReturn : ret.isReturn = true) (balanced : Balanced rest) :
      Balanced (call :: (inner ++ ret :: rest))

/-- The calls that wait for their return, the outermost first, as the addresses after them. -/
inductive Unmatched : List TickRecord → List Nat → Prop where
  | none {history : List TickRecord} (balanced : Balanced history) : Unmatched history []
  | call {before after : List TickRecord} {call : TickRecord} {calls : List Nat}
      (balanced : Balanced before) (isCall : call.isCall = true) (inner : Unmatched after calls) :
      Unmatched (before ++ call :: after) (call.next :: calls)

theorem Balanced.append {first second : List TickRecord} (left : Balanced first)
    (right : Balanced second) : Balanced (first ++ second) := by
  induction left with
  | nil => exact right
  | plain noCall noReturn _ ih => exact .plain noCall noReturn ih
  | matched isCall inside isReturn _ _ ih =>
    rw [List.cons_append, List.append_assoc, List.cons_append]
    exact .matched isCall inside isReturn ih

namespace Unmatched

variable {history : List TickRecord} {record : TickRecord} {calls : List Nat}

theorem snoc_plain (unmatched : Unmatched history calls) (noCall : record.isCall = false)
    (noReturn : record.isReturn = false) : Unmatched (history ++ [record]) calls := by
  induction unmatched with
  | none balanced => exact .none (balanced.append (.plain noCall noReturn .nil))
  | call balanced isCall _ ih =>
    rw [List.append_assoc, List.cons_append]
    exact .call balanced isCall ih

/-- A call waits as the innermost one. -/
theorem snoc_call (unmatched : Unmatched history calls) (isCall : record.isCall = true) :
    Unmatched (history ++ [record]) (calls ++ [record.next]) := by
  induction unmatched with
  | none balanced => exact .call balanced isCall (.none .nil)
  | call balanced isOuter _ ih =>
    rw [List.append_assoc, List.cons_append]
    exact .call balanced isOuter ih

/-- A return matches the innermost call that waits. -/
theorem snoc_return {last : Nat} (unmatched : Unmatched history (calls ++ [last]))
    (isReturn : record.isReturn = true) : Unmatched (history ++ [record]) calls := by
  generalize isAll : calls ++ [last] = all at unmatched
  induction unmatched generalizing calls with
  | none _ => exact absurd isAll (by simp)
  | @call before after call inner balanced isCall waiting ih =>
    cases calls with
    | nil =>
      -- The innermost call is the only one, so all that follows it is balanced.
      obtain ⟨_, rfl⟩ := List.cons.inj isAll
      cases waiting with
      | none inside =>
        rw [List.append_assoc, List.cons_append]
        exact .none (balanced.append (.matched isCall inside isReturn .nil))
    | cons outer others =>
      obtain ⟨rfl, isInner⟩ := List.cons.inj isAll
      rw [List.append_assoc, List.cons_append]
      exact .call balanced isCall (ih isInner)

end Unmatched

/-- The places to return to after a number of ticks, the innermost first, if each call adds one and
each return takes one away. -/
def replayCalls (returns : List Nat) : List TickRecord → List Nat
  | [] => returns
  | record :: rest =>
    if record.isCall then replayCalls (record.next :: returns) rest
    else if record.isReturn then replayCalls returns.tail rest
    else replayCalls returns rest

theorem replayCalls_append (returns : List Nat) (first second : List TickRecord) :
    replayCalls returns (first ++ second) = replayCalls (replayCalls returns first) second := by
  induction first generalizing returns with
  | nil => rfl
  | cons record rest ih =>
    rw [List.cons_append, replayCalls, replayCalls]
    split
    · exact ih _
    · split
      · exact ih _
      · exact ih _

theorem TickRecord.isCall_of_isReturn {record : TickRecord} (isReturn : record.isReturn = true) :
    record.isCall = false := by
  have isOpcode : record.opcode = Builtin.returnFromGosub.opcode := of_decide_eq_true isReturn
  rw [isCall, isOpcode]
  decide

theorem Balanced.replayCalls {history : List TickRecord} (balanced : Balanced history)
    (returns : List Nat) : replayCalls returns history = returns := by
  induction balanced generalizing returns with
  | nil => rfl
  | plain noCall noReturn _ ih =>
    rw [MissionScript.replayCalls, noCall, noReturn]
    exact ih returns
  | matched isCall _ isReturn _ inside ih =>
    rw [MissionScript.replayCalls, if_pos isCall, replayCalls_append, inside,
      MissionScript.replayCalls, TickRecord.isCall_of_isReturn isReturn, if_pos isReturn]
    exact ih returns

theorem Unmatched.replayCalls {history : List TickRecord} {calls : List Nat}
    (unmatched : Unmatched history calls) (returns : List Nat) :
    replayCalls returns history = calls.reverse ++ returns := by
  induction unmatched generalizing returns with
  | none balanced => exact balanced.replayCalls returns
  | call balanced isCall _ ih =>
    rw [replayCalls_append, balanced.replayCalls, MissionScript.replayCalls, if_pos isCall, ih]
    simp

/-- The calls that wait for their return are determined by what was carried out. -/
theorem Unmatched.unique {history : List TickRecord} {calls others : List Nat}
    (first : Unmatched history calls) (second : Unmatched history others) : calls = others := by
  have same := (first.replayCalls []).symm.trans (second.replayCalls [])
  simpa using same

/-! ## 2. Stacks -/

namespace Schedule

/-- Where a thread returns to, the innermost call first. A thread that does not exist has made no
calls. -/
def returnsOf (schedule : Schedule) (id : Nat) : List Nat :=
  ((schedule.thread? id).map Thread.returns).getD []

theorem returnsOf_of_found {schedule : Schedule} {id : Nat} {thread : Thread}
    (found : schedule.thread? id = some thread) : schedule.returnsOf id = thread.returns := by
  rw [returnsOf, found]
  rfl

theorem returnsOf_modify {schedule : Schedule} {id : Nat} {change : Thread → Thread}
    (kept : ∀ thread, schedule.thread? id = some thread → (change thread).returns = thread.returns)
    (other : Nat) : (schedule.modify id change).returnsOf other = schedule.returnsOf other := by
  rw [returnsOf, map_thread?_modify Thread.returns kept]
  rfl

/-- A thread is replaced by one with another stack. -/
theorem returnsOf_replace {schedule : Schedule} {id : Nat} {thread changed : Thread}
    (found : schedule.thread? id = some thread) (other : Nat) :
    (schedule.modify id fun _ => changed).returnsOf other =
      if other = id then changed.returns else schedule.returnsOf other := by
  by_cases isSame : other = id
  · rw [isSame, if_pos rfl, returnsOf, thread?_modify_self, found]
    rfl
  · rw [if_neg isSame, returnsOf, thread?_modify]
    simp [Ne.symm isSame, returnsOf]

theorem returnsOf_pass (schedule : Schedule) (id : Nat) :
    schedule.pass.returnsOf id = schedule.returnsOf id := by
  rw [returnsOf, map_thread?_pass Thread.returns fun _ _ => rfl]
  rfl

theorem returnsOf_sleep (schedule : Schedule) (sleeper time id : Nat) :
    (schedule.sleep sleeper time).pass.returnsOf id = schedule.returnsOf id := by
  rw [returnsOf_pass, sleep]
  refine returnsOf_modify ?_ id
  exact fun _ _ => rfl

/-- A thread that has just been added has made no calls. -/
theorem returnsOf_append {schedule : Schedule} {thread : Thread} (fresh : thread.returns = [])
    (id : Nat) : returnsOf { schedule with threads := schedule.threads ++ [thread] } id =
      schedule.returnsOf id := by
  rw [returnsOf, thread?_append]
  split
  next isNew =>
    rw [isNew, returnsOf, thread?_nextId]
    exact fresh
  next => rfl

end Schedule

section Effects

variable {site : Site} {args : Arguments} {before after : Frame}

namespace Frame

theorem jump_returnsOf {target : Int32} (success : before.jump site target = (.ok (), after))
    (id : Nat) : after.schedule.returnsOf id = before.schedule.returnsOf id := by
  obtain ⟨address, _, set⟩ := jump_eq_ok.1 success
  obtain ⟨thread, found, rfl⟩ := setPc_eq_ok.1 set
  refine Schedule.returnsOf_modify ?_ id
  intro other again
  cases found.symm.trans again
  rfl

theorem startThread_returnsOf {pc started : Nat} {isMission : Bool}
    (success : before.startThread site pc isMission = (.ok started, after)) (id : Nat) :
    after.schedule.returnsOf id = before.schedule.returnsOf id := by
  obtain ⟨starter, _, _, rfl⟩ := startThread_eq_ok.1 success
  have grown : (before.grown starter pc isMission).returnsOf id = before.schedule.returnsOf id :=
    Schedule.returnsOf_append (before.startedThread_new starter pc isMission).2.2 id
  cases site.config.switchOnNewThread with
  | true => exact (Schedule.returnsOf_pass _ id).trans grown
  | false => exact grown

/-- A change of a thread that keeps its stack keeps all stacks. -/
theorem changeThread_returnsOf {changed : Nat} {change : Thread → Except Error Thread}
    (kept : ∀ thread other, change thread = .ok other → other.returns = thread.returns)
    (success : before.changeThread changed change = (.ok (), after)) (id : Nat) :
    after.schedule.returnsOf id = before.schedule.returnsOf id := by
  obtain ⟨thread, other, found, isOther, rfl⟩ := changeThread_eq_ok.1 success
  refine Schedule.returnsOf_modify ?_ id
  intro again isAgain
  cases found.symm.trans isAgain
  exact kept thread other isOther

theorem setLocals_returnsOf {changed index : Nat} {values : List ArgValue}
    (success : (Behaviour.setLocals changed index values).run site before = (.ok (), after))
    (id : Nat) : after.schedule.returnsOf id = before.schedule.returnsOf id := by
  induction values generalizing index before with
  | nil =>
    cases success
    rfl
  | cons value rest ih =>
    obtain ⟨_, between, set, remaining⟩ := Program.run_bind_eq_ok.1 success
    refine (ih remaining).trans (changeThread_returnsOf ?_ set id)
    intro thread other isOther
    obtain ⟨_, _, rfl⟩ := Thread.setLocal_eq_ok isOther
    rfl

theorem assign_returnsOf {place : Place} {value : Value}
    (success : before.assign site place value = (.ok (), after)) (id : Nat) :
    after.schedule.returnsOf id = before.schedule.returnsOf id := by
  cases place with
  | global address =>
    have sameSchedule : (before.allocate site address value).2.schedule = before.schedule :=
      allocate_schedule site before address value
    have stored : before.allocate site address value = (.ok (), after) := success
    rw [stored] at sameSchedule
    rw [sameSchedule]
  | slot index =>
    refine changeThread_returnsOf ?_ success id
    intro thread other isOther
    obtain ⟨_, _, rfl⟩ := Thread.setLocal_eq_ok isOther
    rfl

/-- A call remembers where it returns to, for its own thread. -/
theorem call_returnsOf {target : Int32} (success : before.call site target = (.ok (), after))
    (id : Nat) : after.schedule.returnsOf id =
      if id = site.thread then site.instruction.next :: before.schedule.returnsOf site.thread
      else before.schedule.returnsOf id := by
  obtain ⟨address, thread, _, found, room, rfl⟩ := call_eq_ok.1 success
  rw [Schedule.returnsOf_of_found found, ← Thread.returns_called (thread.length_returns ▸ room)]
  exact Schedule.returnsOf_replace found id

/-- A return goes where the innermost call of its own thread returns to. -/
theorem ret_returnsOf (success : before.ret site = (.ok (), after)) :
    ∃ address rest, before.schedule.returnsOf site.thread = address :: rest ∧
      after.jumped = true ∧ after.schedule.StandsAt site.thread address ∧
      ∀ id, after.schedule.returnsOf id =
        if id = site.thread then rest else before.schedule.returnsOf id := by
  obtain ⟨thread, address, found, returns, rfl⟩ := ret_eq_ok.1 success
  refine ⟨address, thread.returned.returns, ?_, rfl, ?_, fun id =>
    Schedule.returnsOf_replace found id⟩
  · rw [Schedule.returnsOf_of_found found, returns]
  · rw [Schedule.StandsAt, Schedule.thread?_modify_self, found]
    rfl

theorem call_full {target : Int32} {address : Nat} {thread : Thread}
    (found : before.schedule.thread? site.thread = some thread)
    (resolved : before.resolveTarget site target = .ok address)
    (full : callDepth ≤ thread.returns.length) :
    before.call site target = (.error (.callStackOverflow callDepth), before) := by
  simp only [call, resolved, changeThread, found, Thread.pushReturn_eq, if_pos full]

theorem ret_empty {thread : Thread} (found : before.schedule.thread? site.thread = some thread)
    (empty : thread.returns = []) : before.ret site = (.error .callStackUnderflow, before) := by
  simp only [ret, found, Thread.popReturn_eq_error_iff.2 ⟨empty, rfl⟩]

end Frame

theorem Builtin.run_gosub {label : Int32} (given : args.int "label" = .ok label) :
    (Builtin.gosub.handler site args).run site before = before.call site label := by
  show (Behaviour.gosub site args).run site before = _
  rw [Behaviour.gosub, given]
  rfl

/-- Calls and returns apart, no built-in changes where a thread returns to, and a thread that is
started has nowhere to return to. -/
theorem Effect.returnsOf {builtin : Builtin} (effect : Effect site args before builtin after)
    (noCall : builtin ≠ .gosub) (noReturn : builtin ≠ .returnFromGosub) (id : Nat) :
    after.schedule.returnsOf id = before.schedule.returnsOf id := by
  cases effect with
  | wait given => exact Schedule.returnsOf_sleep _ _ _ id
  | terminateThisScript => exact Schedule.returnsOf_sleep _ _ _ id
  | startNewScript given resolved started | startMission given found started =>
    exact Frame.startThread_returnsOf started id
  | startNewScriptWithArgs given nonempty few number resolved start set =>
    exact (Frame.setLocals_returnsOf set id).trans (Frame.startThread_returnsOf start id)
  | scriptName given renamed =>
    refine Frame.changeThread_returnsOf ?_ renamed id
    intro thread other isOther
    cases isOther
    rfl
  | goto given jumped => exact Frame.jump_returnsOf jumped id
  | gotoIfFalse_true holds =>
    obtain ⟨_, rfl⟩ := Prod.mk.inj holds
    rfl
  | gotoIfFalse_false fails given jumped =>
    obtain ⟨_, rfl⟩ := Prod.mk.inj fails
    exact Frame.jump_returnsOf jumped id
  | gosub => exact absurd rfl noCall
  | returnFromGosub => exact absurd rfl noReturn
  | andor given shape opened =>
    have sameSchedule := congrArg (fun outcome => outcome.2.schedule) opened
    rw [Frame.openConditions_schedule] at sameSchedule
    rw [sameSchedule]
  | isIntVarGreaterThanNumber found number given pushed
  | isIntVarEqualToNumber found number given pushed =>
    have sameSchedule := congrArg (fun outcome => outcome.2.schedule) pushed
    rw [Frame.pushCondition_schedule] at sameSchedule
    rw [sameSchedule]
  | setVariable kind found given assigned
  | addValToIntVar found held number given addendNumber assigned =>
    exact Frame.assign_returnsOf assigned id

end Effects

/-! ## 3. Ticks and runs -/

namespace Machine

theorem accept_returnsOf (machine : Machine) (step : Step) (after : Frame) (id : Nat) :
    (machine.accept step after).schedule.returnsOf id = after.schedule.returnsOf id := by
  show Schedule.returnsOf (if after.jumped then _ else _) id = _
  split
  · rfl
  · refine Schedule.returnsOf_modify ?_ id
    exact fun _ _ => rfl

section Ticks

variable {machine : Machine} {record : TickRecord}
  (success : machine.tick.result = .ok record)
include success

theorem returnsOf_of_call (hasBuiltins : machine.registry.HasBuiltins)
    (isCall : record.isCall = true) (id : Nat) :
    machine.tick.machine.schedule.returnsOf id =
      if id = record.thread then record.next :: machine.schedule.returnsOf record.thread
      else machine.schedule.returnsOf id := by
  obtain ⟨step, after, prepared, ran, accepted, rfl⟩ := tick_of_ok success
  obtain ⟨thread, entry, ready⟩ := prepare_ready prepared
  have isOpcode : Builtin.gosub.opcode = step.site.instruction.opcode :=
    (of_decide_eq_true isCall).symm
  rw [accepted, accept_returnsOf]
  cases ready.effect_of_opcode hasBuiltins isOpcode ran with
  | gosub given called => exact Frame.call_returnsOf called id
  | setVariable kind _ _ _ => exact absurd kind (by decide)

theorem returnsOf_of_return (hasBuiltins : machine.registry.HasBuiltins)
    (isReturn : record.isReturn = true) :
    ∃ address rest, machine.schedule.returnsOf record.thread = address :: rest ∧
      machine.tick.machine.schedule.StandsAt record.thread address ∧
      ∀ id, machine.tick.machine.schedule.returnsOf id =
        if id = record.thread then rest else machine.schedule.returnsOf id := by
  obtain ⟨step, after, prepared, ran, accepted, rfl⟩ := tick_of_ok success
  obtain ⟨thread, entry, ready⟩ := prepare_ready prepared
  have isOpcode : Builtin.returnFromGosub.opcode = step.site.instruction.opcode :=
    (of_decide_eq_true isReturn).symm
  rw [accepted]
  cases ready.effect_of_opcode hasBuiltins isOpcode ran with
  | returnFromGosub returned =>
    obtain ⟨address, rest, returns, jumped, stands, others⟩ := Frame.ret_returnsOf returned
    refine ⟨address, rest, returns, ?_, fun id => ?_⟩
    · rw [accept, jumped]
      exact stands
    · rw [accept_returnsOf]
      exact others id
  | setVariable kind _ _ _ => exact absurd kind (by decide)

theorem returnsOf_of_plain (builtinOnly : machine.registry.BuiltinOnly)
    (hasBuiltins : machine.registry.HasBuiltins) (noCall : record.isCall = false)
    (noReturn : record.isReturn = false) (id : Nat) :
    machine.tick.machine.schedule.returnsOf id = machine.schedule.returnsOf id := by
  obtain ⟨step, after, prepared, ran, accepted, rfl⟩ := tick_of_ok success
  obtain ⟨thread, entry, ready⟩ := prepare_ready prepared
  rw [accepted, accept_returnsOf]
  rcases ready.reach builtinOnly ran with ⟨_, rfl⟩ | ⟨builtin, isOpcode, _, _⟩
  · rfl
  · refine (ready.effect_of_opcode hasBuiltins isOpcode ran).returnsOf ?_ ?_ id
    · rintro rfl
      exact of_decide_eq_false noCall isOpcode.symm
    · rintro rfl
      exact of_decide_eq_false noReturn isOpcode.symm

/-- The tick of one thread leaves the stacks of all others alone. -/
theorem returnsOf_of_other (builtinOnly : machine.registry.BuiltinOnly)
    (hasBuiltins : machine.registry.HasBuiltins) {id : Nat} (other : id ≠ record.thread) :
    machine.tick.machine.schedule.returnsOf id = machine.schedule.returnsOf id := by
  cases isCall : record.isCall with
  | true => rw [returnsOf_of_call success hasBuiltins isCall, if_neg other]
  | false =>
    cases isReturn : record.isReturn with
    | true =>
      obtain ⟨_, _, _, _, after⟩ := returnsOf_of_return success hasBuiltins isReturn
      rw [after id, if_neg other]
    | false => exact returnsOf_of_plain success builtinOnly hasBuiltins isCall isReturn id

end Ticks

/-- The ticks of one thread. -/
def ticksOf (log : List TickRecord) (id : Nat) : List TickRecord :=
  log.filter fun record => record.thread = id

theorem ticksOf_append (first second : List TickRecord) (id : Nat) :
    ticksOf (first ++ second) id = ticksOf first id ++ ticksOf second id :=
  List.filter_append first second

/-- Each thread returns to the places after the calls in its own ticks that no return has matched. -/
def CallsMatch (log : List TickRecord) (machine : Machine) : Prop :=
  ∀ id, Unmatched (ticksOf log id) (machine.schedule.returnsOf id).reverse

theorem load_callsMatch {bytes : Array UInt8} {registry : Registry Handler} {config : Config}
    {loaded : Machine} (load : Machine.load bytes registry config = .ok loaded) :
    loaded.CallsMatch [] := by
  obtain ⟨layout, code, _, _, rfl⟩ := load_eq_ok load
  intro id
  have nothing : (Schedule.empty.spawn 0 false).pass.returnsOf id = [] :=
    (Schedule.returnsOf_pass _ id).trans (Schedule.returnsOf_append rfl id)
  show Unmatched [] ((Schedule.empty.spawn 0 false).pass.returnsOf id).reverse
  rw [nothing]
  exact .none .nil

namespace CallsMatch

variable {machine : Machine} {log : List TickRecord}

theorem of_sameReturns {other : Machine} (calls : machine.CallsMatch log)
    (same : ∀ id, other.schedule.returnsOf id = machine.schedule.returnsOf id) :
    other.CallsMatch log := by
  intro id
  rw [same id]
  exact calls id

theorem tick {record : TickRecord} (calls : machine.CallsMatch log)
    (builtinOnly : machine.registry.BuiltinOnly) (hasBuiltins : machine.registry.HasBuiltins)
    (success : machine.tick.result = .ok record) :
    machine.tick.machine.CallsMatch (log ++ [record]) := by
  intro id
  have before := calls id
  rw [ticksOf_append]
  by_cases own : id = record.thread
  · have isOwn : ticksOf [record] id = [record] := by simp [ticksOf, own]
    rw [isOwn]
    cases isCall : record.isCall with
    | true =>
      rw [returnsOf_of_call success hasBuiltins isCall, if_pos own, List.reverse_cons, ← own]
      exact before.snoc_call isCall
    | false =>
      cases isReturn : record.isReturn with
      | true =>
        obtain ⟨address, rest, returns, _, after⟩ :=
          returnsOf_of_return success hasBuiltins isReturn
        rw [own, returns, List.reverse_cons, ← own] at before
        rw [after id, if_pos own]
        exact before.snoc_return isReturn
      | false =>
        rw [returnsOf_of_plain success builtinOnly hasBuiltins isCall isReturn]
        exact before.snoc_plain isCall isReturn
  · have notOwn : ticksOf [record] id = [] := by simp [ticksOf, Ne.symm own]
    rw [notOwn, List.append_nil, returnsOf_of_other success builtinOnly hasBuiltins own]
    exact before

theorem serve (calls : machine.CallsMatch log) (builtinOnly : machine.registry.BuiltinOnly)
    (hasBuiltins : machine.registry.HasBuiltins) (request : Request) :
    (machine.serve request).CallsMatch (log ++ (machine.record? request).toList) := by
  cases request with
  | tick =>
    cases result : machine.tick.result with
    | ok record =>
      have isRecord : (machine.record? .tick).toList = [record] := by
        rw [record?, result]
        rfl
      rw [isRecord]
      exact calls.tick builtinOnly hasBuiltins result
    | error error =>
      have noRecord : (machine.record? .tick).toList = [] := by
        rw [record?, result]
        rfl
      rw [noRecord, List.append_nil]
      refine calls.of_sameReturns fun id => ?_
      exact congrArg (fun schedule => schedule.returnsOf id) (tick_schedule_of_error result)
  | setThreadPc moved pc =>
    have noRecord : (machine.record? (.setThreadPc moved pc)).toList = [] := rfl
    rw [noRecord, List.append_nil]
    rcases machine.serve_setThreadPc moved pc with same | isMoved
    · rw [same]
      exact calls
    · rw [isMoved]
      refine calls.of_sameReturns fun id => Schedule.returnsOf_modify ?_ id
      exact fun _ _ => rfl

/-- After every run, each stack holds what the run leaves unmatched. -/
theorem serveAll (calls : machine.CallsMatch log) (builtinOnly : machine.registry.BuiltinOnly)
    (hasBuiltins : machine.registry.HasBuiltins) (requests : List Request) :
    (machine.serveAll requests).CallsMatch (log ++ machine.records requests) := by
  induction requests generalizing machine log with
  | nil =>
    rw [records, List.append_nil]
    exact calls
  | cons request rest ih =>
    have sameRegistry : (machine.serve request).registry = machine.registry :=
      (machine.serveAll_sameScript [request]).registry
    rw [records, ← List.append_assoc]
    exact ih (calls.serve builtinOnly hasBuiltins request) (sameRegistry ▸ builtinOnly)
      (sameRegistry ▸ hasBuiltins)

end CallsMatch

end Machine

/-- Calls and returns match, thread by thread and whatever the others do. After every run, the stack of
a thread consists of the places after those calls among its own ticks that no return of its own has
matched. A return leads to the place after the innermost of these calls, and fails if there is none.
A call fails if there are eight of them already. The tick of another thread does not matter, whether it
succeeds or fails. -/
theorem calls_match_returns {bytes : Array UInt8} {registry : Registry Handler} {config : Config}
    {loaded : Machine} (load : Machine.load bytes registry config = .ok loaded)
    (builtinOnly : registry.BuiltinOnly) (hasBuiltins : registry.HasBuiltins)
    (requests : List Request) :
    let machine := loaded.serveAll requests
    let history := Machine.ticksOf (loaded.records requests)
    (∀ id thread, machine.schedule.thread? id = some thread →
      ∀ calls, Unmatched (history id) calls ↔ thread.callStack = calls) ∧
    (∀ record, machine.tick.result = .ok record → record.isReturn = true →
      ∃ outer last, Unmatched (history record.thread) (outer ++ [last]) ∧
        machine.tick.machine.schedule.StandsAt record.thread last) ∧
    (∀ step calls label address, machine.cleared.prepare = .ok step →
      step.site.instruction.opcode = Builtin.gosub.opcode →
      Unmatched (history step.site.thread) calls → calls.length = 8 →
      step.args.int "label" = .ok label →
      machine.cleared.frame.resolveTarget step.site label = .ok address →
      machine.tick.result = .error (.callStackOverflow 8)) ∧
    (∀ step, machine.cleared.prepare = .ok step →
      step.site.instruction.opcode = Builtin.returnFromGosub.opcode →
      Unmatched (history step.site.thread) [] →
      machine.tick.result = .error .callStackUnderflow) ∧
    ∀ id thread, machine.schedule.current? ≠ some id →
      machine.schedule.thread? id = some thread →
      ∃ later, machine.tick.machine.schedule.thread? id = some later ∧
        later.callStack = thread.callStack := by
  intro machine history
  have isRegistry : machine.registry = registry := Machine.serveAll_registry load requests
  have isLoaded : loaded.registry = registry := Machine.load_registry load
  rw [← isRegistry] at builtinOnly hasBuiltins
  have calls : machine.CallsMatch (loaded.records requests) :=
    (Machine.load_callsMatch load).serveAll (isLoaded ▸ isRegistry ▸ builtinOnly)
      (isLoaded ▸ isRegistry ▸ hasBuiltins) requests
  have unmatchedStack {id thread} (found : machine.schedule.thread? id = some thread) :
      Unmatched (history id) thread.callStack := by
    have unmatched := calls id
    rw [Schedule.returnsOf_of_found found, Thread.reverse_returns] at unmatched
    exact unmatched
  refine ⟨?_, ?_, ?_, ?_, ?_⟩
  · intro id thread found others
    constructor
    · exact (unmatchedStack found).unique
    · rintro rfl
      exact unmatchedStack found
  · intro record success isReturn
    obtain ⟨address, rest, returns, stands, _⟩ :=
      Machine.returnsOf_of_return success hasBuiltins isReturn
    have unmatched := calls record.thread
    rw [returns, List.reverse_cons] at unmatched
    exact ⟨rest.reverse, address, unmatched, stands⟩
  · intro step others label address prepared isCall unmatched eight given resolved
    obtain ⟨thread, entry, ready⟩ := Machine.prepare_ready prepared
    have full : callDepth ≤ thread.returns.length := by
      have isStack := (unmatchedStack ready.found).unique unmatched
      rw [← isStack, ← Thread.reverse_returns, List.length_reverse] at eight
      exact Nat.le_of_eq eight.symm
    have failed : step.run machine.cleared.frame =
        (.error (.callStackOverflow 8), machine.cleared.frame) := by
      rw [ready.run_of_opcode hasBuiltins isCall.symm, Builtin.run_gosub given]
      exact Frame.call_full ready.found resolved full
    rw [Machine.tick_eq_of_failed prepared failed]
  · intro step prepared isReturn unmatched
    obtain ⟨thread, entry, ready⟩ := Machine.prepare_ready prepared
    have empty : thread.returns = [] := by
      have isStack := (unmatchedStack ready.found).unique unmatched
      rw [← Thread.reverse_returns] at isStack
      exact List.reverse_eq_nil_iff.1 isStack
    have failed : step.run machine.cleared.frame =
        (.error .callStackUnderflow, machine.cleared.frame) := by
      rw [ready.run_of_opcode hasBuiltins isReturn.symm]
      exact Frame.ret_empty ready.found empty
    rw [Machine.tick_eq_of_failed prepared failed]
  · intro id thread other found
    cases result : machine.tick.result with
    | error error =>
      rw [Machine.tick_schedule_of_error result]
      exact ⟨thread, found, rfl⟩
    | ok record =>
      obtain ⟨step, after, prepared, ran, accepted, rfl⟩ := Machine.tick_of_ok result
      obtain ⟨_, entry, ready⟩ := Machine.prepare_ready prepared
      have apart : id ≠ step.site.thread := fun same => other (same ▸ ready.current)
      have kept := (ready.keepsRest builtinOnly hasBuiltins ran).others id thread apart found
      rw [accepted]
      refine ⟨_, kept, ?_⟩
      split
      · rfl
      · rfl

/-! ## Two threads that make calls -/

namespace CallMatchingExample

/-- Main code starts a thread at 56, waits at 48 and then calls itself for ever at 52. The other thread
calls what follows, waits at 60 and returns to 60. -/
def script : Array UInt8 := #[
  0x02, 0x00, 0x01, 0x0C, 0x00, 0x00, 0x00, 0x6D,
  0x00, 0x00, 0x00, 0x00,
  0x02, 0x00, 0x01, 0x18, 0x00, 0x00, 0x00, 0x00,
  0x00, 0x00, 0x00, 0x00,
  0x02, 0x00, 0x01, 0x2C, 0x00, 0x00, 0x00, 0x00,
  0x00, 0x00, 0x00, 0x00, 0x00, 0x00, 0x00, 0x00, 0x00, 0x00, 0x00, 0x00,
  0xD7, 0x00, 0x04, 0x38,
  0x01, 0x00, 0x04, 0x00,
  0x50, 0x00, 0x04, 0x34,
  0x50, 0x00, 0x04, 0x3C,
  0x01, 0x00, 0x04, 0x00,
  0x51, 0x00]

/-- The other thread is about to return. Main code has run since its call. -/
def beforeReturn : List Request := List.replicate 7 .tick

/-- Main code is about to make its ninth call. -/
def beforeOverflow : List Request := List.replicate 17 .tick

/-- The eighth tick is a return of the other thread from its only call. In the eighteenth one, main code
is about to call itself once more, with eight calls on its stack. -/
abbrev ReturnsAndCalls (loaded : Machine) : Prop :=
  (∃ record ∈ (loaded.serveAll beforeReturn).tick.result.toOption,
    record.thread = 1 ∧ record.isReturn = true) ∧
  (∃ thread ∈ (loaded.serveAll beforeReturn).schedule.thread? 1, thread.callStack = [60]) ∧
  (∃ thread ∈ (loaded.serveAll beforeOverflow).schedule.thread? 0,
    thread.callStack = List.replicate 8 56) ∧
  ∃ step ∈ (loaded.serveAll beforeOverflow).cleared.prepare.toOption, step.site.thread = 0 ∧
    step.site.instruction.opcode = Builtin.gosub.opcode ∧
    ∃ label ∈ (step.args.int "label").toOption,
      52 ∈ ((loaded.serveAll beforeOverflow).cleared.frame.resolveTarget step.site label).toOption

end CallMatchingExample

open CallMatchingExample in
/-- The other thread returns to the place after its call, although main code has run in between. Main
code calls itself eight times, and then no more. -/
theorem return_and_overflow_by_matching :
    ∃ registry loaded record, Registry.builtin = .ok registry ∧
      Machine.load script registry {} = .ok loaded ∧
      Unmatched (Machine.ticksOf (loaded.records beforeReturn) 1) [60] ∧
      (loaded.serveAll beforeReturn).tick.result = .ok record ∧ record.thread = 1 ∧
      record.isReturn = true ∧
      (loaded.serveAll beforeReturn).tick.machine.schedule.StandsAt 1 60 ∧
      Unmatched (Machine.ticksOf (loaded.records beforeOverflow) 0) (List.replicate 8 56) ∧
      (loaded.serveAll beforeOverflow).tick.result = .error (.callStackOverflow 8) := by
  obtain ⟨registry, loaded, built, load, ⟨record, isRecord, isThread, returns⟩,
      ⟨thread, found, stack⟩, ⟨deep, foundDeep, deepStack⟩,
      step, prepared, isMain, isGosub, label, given, resolved⟩ :=
    Machine.exists_loaded_of_evaluation Registry.builtin script {} ReturnsAndCalls
      (by decide +kernel)
  have success := except_toOption_eq_some.1 isRecord
  obtain ⟨shallowStacks, leads, _⟩ := calls_match_returns load (Registry.builtin_builtinOnly built)
    (Registry.builtin_hasBuiltins built) beforeReturn
  obtain ⟨deepStacks, _, overflows, _⟩ := calls_match_returns load
    (Registry.builtin_builtinOnly built) (Registry.builtin_hasBuiltins built) beforeOverflow
  have unmatched := (shallowStacks 1 thread found [60]).2 stack
  have deepUnmatched := (deepStacks 0 deep foundDeep (List.replicate 8 56)).2 deepStack
  have stands : (loaded.serveAll beforeReturn).tick.machine.schedule.StandsAt 1 60 := by
    obtain ⟨outer, last, others, stands⟩ := leads record success returns
    rw [isThread] at others stands
    -- The only call that waits is the last one.
    have isLast : [] ++ [60] = outer ++ [last] := unmatched.unique others
    cases (List.append_inj' isLast rfl).2
    exact stands
  refine ⟨registry, loaded, record, built, load, unmatched, success, isThread, returns, stands,
    deepUnmatched, ?_⟩
  refine overflows step (List.replicate 8 56) label 52 (except_toOption_eq_some.1 prepared) isGosub
    ?_ rfl (except_toOption_eq_some.1 given) (except_toOption_eq_some.1 resolved)
  rw [isMain]
  exact deepUnmatched

end MissionScript
