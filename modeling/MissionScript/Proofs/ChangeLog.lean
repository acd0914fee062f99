import MissionScript.Proofs.Soundness

/-!
# Dirty spans as a change log

A host that shows memory need not read all of it after every tick. It keeps a copy and, after each
tick, takes over the bytes of the dirty spans and nothing else. This module shows that the copy
never goes stale.

A tick starts with no dirty span, and every byte that a behaviour changes lies in a span that is
listed when the behaviour ends (`Memory.LogsFrom`), however often spans overlap. A tick that fails
lists nothing, but it has put back everything as well.

Results:
1. `Memory.refresh_eq`: a copy of what memory was is brought up to date by the listed spans.
2. `Machine.Sound.tick_logsFrom`: a tick lists what it changes.
3. `dirty_spans_complete`: a host that watches a run holds the bytes of memory all the time.
-/

namespace MissionScript

/-! ## 1. Bringing a copy up to date -/

namespace Memory

/-- Takes over the bytes of one span from memory. -/
def takeOver (memory : Memory) (copy : Array UInt8) (span : Span) : Array UInt8 :=
  overwrite copy span.start (memory.slice span)

/-- Takes over the bytes of all dirty spans from memory. -/
def refresh (memory : Memory) (copy : Array UInt8) : Array UInt8 :=
  memory.dirty.foldl memory.takeOver copy

/-- Every byte that differs from what stood there at first lies in a dirty span. -/
def LogsFrom (memory : Memory) (first : Array UInt8) : Prop :=
  ∀ index, (∀ span ∈ memory.dirty, span.contains index = false) →
    memory.bytes[index]? = first[index]?

variable {memory : Memory}

@[simp] theorem size_takeOver (copy : Array UInt8) (span : Span) :
    (memory.takeOver copy span).size = copy.size :=
  size_overwrite copy span.start _

theorem getElem?_takeOver {copy : Array UInt8} (sameSize : copy.size = memory.size) {span : Span}
    (ordered : span.start ≤ span.stop) (fits : span.stop ≤ memory.size) (index : Nat) :
    (memory.takeOver copy span)[index]? =
      if span.contains index then memory.bytes[index]? else copy[index]? := by
  have length := length_slice fits
  have stops : span.start + (memory.slice span).length = span.stop := by omega
  rw [takeOver, getElem?_overwrite _ _ _ _ (by rw [stops, sameSize]; exact fits), stops]
  by_cases inside : span.start ≤ index ∧ index < span.stop
  · have contained : span.contains index = true := by simp [Span.contains, inside]
    rw [if_pos inside, if_pos contained, slice, Array.getElem?_toList, Array.getElem?_extract]
    have reached : index - span.start < min span.stop memory.bytes.size - span.start := by
      rw [Nat.min_eq_left (show span.stop ≤ memory.bytes.size from fits)]
      omega
    rw [if_pos reached, Nat.add_sub_cancel' inside.1]
  · have outside : ¬ span.contains index = true := by simpa [Span.contains] using inside
    rw [if_neg inside, if_neg outside]

/-- Spans can be taken over in any order and overlap: whatever lies in one of them is up to date. -/
theorem getElem?_foldl_takeOver {spans : List Span} {copy : Array UInt8}
    (sameSize : copy.size = memory.size)
    (sound : ∀ span ∈ spans, span.start < span.stop ∧ span.stop ≤ memory.size) (index : Nat) :
    (spans.foldl memory.takeOver copy)[index]? =
      if spans.any (·.contains index) then memory.bytes[index]? else copy[index]? := by
  induction spans generalizing copy with
  | nil => rfl
  | cons span rest ih =>
    obtain ⟨⟨ordered, fits⟩, restSound⟩ := List.forall_mem_cons.1 sound
    rw [List.foldl_cons, ih ((size_takeOver copy span).trans sameSize) restSound,
      getElem?_takeOver sameSize (Nat.le_of_lt ordered) fits, List.any_cons]
    cases span.contains index <;> cases rest.any (·.contains index) <;> rfl

/-- A copy of what stood in memory at first is up to date once the dirty spans are taken over. -/
theorem refresh_eq {first : Array UInt8} (sound : memory.Sound first.size)
    (logs : memory.LogsFrom first) : memory.refresh first = memory.bytes := by
  apply Array.ext_getElem?
  intro index
  rw [refresh, getElem?_foldl_takeOver sound.size_eq.symm sound.dirty]
  split
  · rfl
  · next unmarked =>
    refine (logs index fun span member => ?_).symm
    rw [Bool.not_eq_true, List.any_eq_false] at unmarked
    exact Bool.not_eq_true _ ▸ unmarked span member

/-! ## 2. What ticks list -/

theorem LogsFrom.write {written : Memory} {first : Array UInt8} {address : Nat} {data : List UInt8}
    (logs : memory.LogsFrom first) (success : memory.write address data = .ok written) :
    written.LogsFrom first := by
  obtain ⟨fits, bytes, _, dirty, _⟩ := write_eq_ok success
  intro index unmarked
  rw [dirty] at unmarked
  -- A write of nothing lists no span, and no byte lies in the span that it would list.
  have outside : ¬ (address ≤ index ∧ index < address + data.length) := by
    intro inside
    have nonempty : data.isEmpty = false := by
      cases data with
      | nil => exact absurd inside.2 (Nat.not_lt_of_le inside.1)
      | cons => rfl
    rw [nonempty] at unmarked
    have missed := unmarked ⟨address, address + data.length⟩
      (List.mem_append_right _ (List.mem_singleton_self _))
    simp [Span.contains, inside] at missed
  have unmarkedBefore : ∀ span ∈ memory.dirty, span.contains index = false := by
    intro span member
    apply unmarked span
    split
    · exact member
    · exact List.mem_append_left _ member
  rw [bytes, getElem?_overwrite _ _ _ _ fits, if_neg outside]
  exact logs index unmarkedBefore

theorem LogsFrom.allocate {allocated : Memory} {first : Array UInt8} {address : Nat}
    {dataType : DataType} {data : List UInt8} (logs : memory.LogsFrom first)
    (success : memory.allocate address dataType data = .ok allocated) :
    allocated.LogsFrom first := by
  obtain ⟨written, wrote, rfl⟩ := allocate_eq_ok success
  have logged : written.LogsFrom first := logs.write wrote
  exact logged

end Memory

/-- Every behaviour, whatever it asks for, lists what it changes. -/
theorem Step.run_logsFrom (step : Step) {frame : Frame} {first : Array UInt8}
    (logs : frame.memory.LogsFrom first) : (step.run frame).2.memory.LogsFrom first := by
  apply step.run_preserves fun frame => frame.memory.LogsFrom first
  · intro operation frame holds
    rcases operation.perform_memory step.site frame with kept | ⟨_, _, _, _, _, made⟩
    · rw [kept]
      exact holds
    · exact holds.allocate made
  · exact logs

namespace Machine

variable {machine : Machine} {size : Nat}

theorem Sound.tick_logsFrom (sound : machine.Sound size) :
    machine.tick.machine.memory.LogsFrom machine.memory.bytes := by
  cases result : machine.tick.result with
  | error error =>
    rw [tick_machine_of_error sound.journal result]
    exact fun _ _ => rfl
  | ok record =>
    obtain ⟨step, after, _, ran, accepted, _⟩ := tick_of_ok result
    have start : machine.cleared.frame.memory.LogsFrom machine.memory.bytes := fun _ _ => rfl
    have logs := step.run_logsFrom start
    rw [ran] at logs
    rw [accepted]
    exact logs

/-! ## 3. Watching a run -/

/-- What a host holds that starts with a copy and takes over the dirty spans after every tick. -/
def watch (machine : Machine) (copy : Array UInt8) : List Request → Array UInt8
  | [] => copy
  | .tick :: rest =>
    let next := machine.tick.machine
    next.watch (next.memory.refresh copy) rest
  | .setThreadPc id pc :: rest => (machine.serve (.setThreadPc id pc)).watch copy rest

/-- A host that starts with the bytes of a sound machine has the bytes of the machine at the end. -/
theorem Sound.watch_eq (sound : machine.Sound size) (requests : List Request) :
    machine.watch machine.memory.bytes requests = (machine.serveAll requests).memory.bytes := by
  induction requests generalizing machine with
  | nil => rfl
  | cons request rest ih =>
    cases request with
    | tick =>
      have sameSize : size = machine.memory.bytes.size := sound.memory.size_eq.symm
      have refreshed : machine.tick.machine.memory.refresh machine.memory.bytes =
          machine.tick.machine.memory.bytes :=
        Memory.refresh_eq (sameSize ▸ sound.tick.memory) sound.tick_logsFrom
      rw [watch, refreshed, ih sound.tick]
      rfl
    | setThreadPc id pc =>
      have unchanged : (machine.serve (.setThreadPc id pc)).memory = machine.memory := by
        rcases machine.serve_setThreadPc id pc with same | moved
        · rw [same]
        · rw [moved]
      rw [watch, ← unchanged, ih (sound.serve _)]
      rfl

end Machine

/-- The dirty spans are a complete change log. A host that keeps a copy of the script and after every
tick, successful or not, takes over the bytes of the dirty spans alone, holds the bytes of memory after
every run, whatever the behaviours in the registry do. -/
theorem dirty_spans_complete {bytes : Array UInt8} {registry : Registry Handler} {config : Config}
    {loaded : Machine} (load : Machine.load bytes registry config = .ok loaded)
    (requests : List Request) :
    loaded.watch bytes requests = (loaded.serveAll requests).memory.bytes := by
  have initial : loaded.memory.bytes = bytes := by
    obtain ⟨layout, code, _, _, rfl⟩ := Machine.load_eq_ok load
    rfl
  have watched := (Machine.load_sound load).watch_eq requests
  rw [initial] at watched
  exact watched

/-! ## A behaviour that fails every other time -/

namespace ChangeLogExample

/-- Makes overlapping cells, the second of them where the thread stands, and gives up unless the thread
stands at the first address. -/
def smear : Handler := fun site _ => do
  .allocate 28 (.int 7)
  .allocate (30 + site.instruction.address) (.float ⟨0x3FC00000⟩)
  .ensure site (site.instruction.address = 0) "only the first jump smears"

/-- Jumps smear here. -/
def registry : Registry Handler :=
  ⟨Table.empty.insert Builtin.goto.opcode.key ⟨Builtin.goto.definition, some smear⟩⟩

/-- A tick that succeeds and one that gives up after it has written. -/
def requests : List Request := [.tick, .setThreadPc 0 8, .tick]

/-- What the run has written in the end. Its last tick runs an instruction and fails. -/
abbrev Smeared (loaded : Machine) : Prop :=
  (loaded.serveAll requests).memory.slice ⟨28, 38⟩ = [7, 0, 0, 0, 0xC0, 0x3F, 0, 0, 0, 0] ∧
  (loaded.serveAll (requests.take 2)).tick.step?.isSome = true ∧
  (loaded.serveAll (requests.take 2)).tick.result.toBool = false

end ChangeLogExample

open ChangeLogExample in
/-- The second tick runs, writes and fails; the host holds what the first one wrote and nothing of what
the second one did. -/
theorem smears_watched :
    ∃ loaded, Machine.load FailedTickExample.script registry {} = .ok loaded ∧
      (loaded.serveAll requests).memory.slice ⟨28, 38⟩ = [7, 0, 0, 0, 0xC0, 0x3F, 0, 0, 0, 0] ∧
      (loaded.serveAll (requests.take 2)).tick.step?.isSome = true ∧
      (loaded.serveAll (requests.take 2)).tick.result.toBool = false ∧
      loaded.watch FailedTickExample.script requests =
        (loaded.serveAll requests).memory.bytes := by
  obtain ⟨loaded, load, written, ran, failed⟩ :=
    exists_ok_of_evaluation (Machine.load FailedTickExample.script registry {}) Smeared
      (by decide +kernel)
  exact ⟨loaded, load, written, ran, failed, dirty_spans_complete load requests⟩

end MissionScript
