import MissionScript.Inspect.Listing
import MissionScript.Proofs.ArgumentSlots
import MissionScript.Proofs.ControlFlow

/-!
# Listings of a running script

A listing is not kept: it is made anew from memory, by decoding at the addresses that loading has
recorded. Running the script changes global variables and threads, but the recorded instructions fill
main code from its start on, and what the decoder reads at one of them depends on no byte outside of
it. So as long as the bytes of code are the loaded ones, every line can be made again, and is the line
that it was.

Results:
1. `Listing.render_eq_ok_iff`: a listing has a header and one line for each recorded start.
2. `Listing.Shows.kept`: a line stays as it is while the bytes of code do.
3. `listing_stable`: a listing after any run is the one right after loading.
-/

namespace MissionScript

namespace Listing

variable {machine loaded : Machine} {address : Nat} {line text : String}

/-! ## 1. Lines -/

/-- The line for an address: the label of the mission that starts there, the address, the instruction
under the name that its opcode has, and the instructions that jump there. -/
def Shows (machine : Machine) (address : Nat) (line : String) : Prop :=
  ∃ instruction definition, machine.decode address = .ok instruction ∧
    machine.registry.definition? instruction.opcode = some definition ∧
    line = missionLabel machine.layout address ++ Text.address8 address ++ "  " ++
      instruction.render definition ++ sourceNote (machine.code.sourcesOf address) ++ "\n"

/-- One line for each recorded start, in the order of the starts. -/
structure Lists (machine : Machine) (lines : List String) : Prop where
  length : lines.length = machine.code.starts.toList.length
  shows : ∀ (index : Nat) start line, machine.code.starts.toList[index]? = some start →
    lines[index]? = some line → Shows machine start line

theorem instructionLine_eq_ok_iff :
    instructionLine machine address = .ok line ↔ Shows machine address line := by
  unfold instructionLine
  rw [except_bind_eq_ok]
  constructor
  · rintro ⟨instruction, decoded, success⟩
    split at success
    next definition found =>
      cases success
      exact ⟨instruction, definition, decoded, found, rfl⟩
    · cases success
  · rintro ⟨instruction, definition, decoded, found, rfl⟩
    refine ⟨instruction, decoded, ?_⟩
    rw [found]
    rfl

theorem mapM_instructionLine_eq_ok_iff {lines : List String} :
    machine.code.starts.toList.mapM (instructionLine machine) = .ok lines ↔ Lists machine lines := by
  rw [mapM_eq_ok_iff]
  simp only [instructionLine_eq_ok_iff]
  exact ⟨fun parts => ⟨parts.1, parts.2⟩, fun lists => ⟨lists.length, lists.shows⟩⟩

/-- A listing is a header and then its lines. -/
theorem render_eq_ok_iff :
    render machine = .ok text ↔
      ∃ lines, Lists machine lines ∧ text = header machine.layout ++ String.join lines := by
  unfold render
  rw [except_bind_eq_ok]
  simp only [mapM_instructionLine_eq_ok_iff]
  refine exists_congr fun lines => and_congr_right fun _ => ?_
  constructor
  · intro isText
    exact (Except.ok.inj isText).symm
  · rintro rfl
    rfl

theorem exists_lists (each : ∀ start ∈ machine.code.starts, ∃ line, Shows machine start line) :
    ∃ lines, Lists machine lines := by
  have made : ∀ start ∈ machine.code.starts.toList, ∃ line, instructionLine machine start = .ok line := by
    intro start member
    obtain ⟨line, shows⟩ := each start (Array.mem_toList_iff.1 member)
    exact ⟨line, instructionLine_eq_ok_iff.2 shows⟩
  obtain ⟨lines, success⟩ := mapM_succeeds made
  exact ⟨lines, mapM_instructionLine_eq_ok_iff.1 success⟩

/-! ## 2. Code that is kept -/

/-- While the bytes of code are the loaded ones, the line of a recorded start is the loaded one. -/
theorem Shows.kept (mapped : loaded.Mapped) (kept : loaded.CodeKept machine)
    (same : loaded.SameScript machine) (isStart : address ∈ loaded.code.starts)
    (shows : Shows loaded address line) : Shows machine address line := by
  obtain ⟨instruction, definition, decoded, found, isLine⟩ := shows
  obtain ⟨recorded, isRecorded, isKept, _⟩ := mapped.decodes kept isStart
  cases decoded.symm.trans isRecorded
  refine ⟨instruction, definition, ?_, ?_, ?_⟩
  · rw [Machine.decode, same.registry]
    exact isKept
  · rw [same.registry]
    exact found
  · rw [same.layout, same.code]
    exact isLine

theorem Lists.kept {lines : List String} (mapped : loaded.Mapped) (kept : loaded.CodeKept machine)
    (same : loaded.SameScript machine) (lists : Lists loaded lines) : Lists machine lines := by
  refine ⟨same.code ▸ lists.length, fun index start line isStart isLine => ?_⟩
  rw [same.code] at isStart
  have member : start ∈ loaded.code.starts := Array.mem_toList_iff.1 (List.mem_of_getElem? isStart)
  exact (lists.shows index start line isStart isLine).kept mapped kept same member

/-- Loading has decoded what it has recorded, so every recorded start has a line. -/
theorem exists_shows {draft : Registry.Draft Handler} {registry : Registry Handler}
    (built : draft.build = .ok registry) {bytes : Array UInt8} {config : Config}
    (load : Machine.load bytes registry config = .ok loaded) (isStart : address ∈ loaded.code.starts) :
    ∃ line, Shows loaded address line := by
  obtain ⟨instruction, decoded, _⟩ :=
    (Machine.load_mapped load).chain.next_mem (Array.mem_toList_iff.2 isStart)
  rw [← Machine.load_registry load] at built
  obtain ⟨definition, _, found, _⟩ := Registry.decode_reads built decoded
  exact ⟨_, instruction, definition, decoded, found, rfl⟩

end Listing

/-- Load a script with a registry that was built from a draft, and let its host ask for any ticks and
moves of threads, whatever the instructions do. If the bytes of code are then those of the loaded
script, a listing can be made, is the listing that could be made right after loading, and consists of
the header and of one line for each recorded start, by ascending address. -/
theorem listing_stable {draft : Registry.Draft Handler} {registry : Registry Handler}
    (built : draft.build = .ok registry) {bytes : Array UInt8} {config : Config} {loaded : Machine}
    (load : Machine.load bytes registry config = .ok loaded) (requests : List Request)
    (kept : loaded.CodeKept (loaded.serveAll requests)) :
    ∃ lines, Listing.Lists loaded lines ∧ loaded.code.starts.toList.Pairwise (· < ·) ∧
      Listing.render loaded = .ok (Listing.header loaded.layout ++ String.join lines) ∧
      Listing.render (loaded.serveAll requests) = Listing.render loaded := by
  have mapped := Machine.load_mapped load
  have same := loaded.serveAll_sameScript requests
  obtain ⟨lines, lists⟩ := Listing.exists_lists fun start => Listing.exists_shows built load
  have first := Listing.render_eq_ok_iff.2 ⟨lines, lists, rfl⟩
  have later := Listing.render_eq_ok_iff.2 ⟨lines, lists.kept mapped kept same, rfl⟩
  rw [same.layout] at later
  exact ⟨lines, lists, mapped.chain.ascending, first, later.trans first.symm⟩

/-- After seven ticks a global variable has been set and the code is kept. Eight instructions have been
recorded. -/
abbrev ControlFlowExample.Stores (loaded : Machine) : Prop :=
  loaded.CodeKept (loaded.serveAll (List.replicate 7 .tick)) ∧
  loaded.memory.slice ⟨8, 12⟩ = [0, 0, 0, 0] ∧
  (loaded.serveAll (List.replicate 7 .tick)).memory.slice ⟨8, 12⟩ = [5, 0, 0, 0] ∧
  loaded.code.starts.toList.length = 8

open ControlFlowExample in
/-- The subroutine has set a global variable and started the mission, and the listing still has the
same eight lines. -/
theorem listing_survives_store :
    ∃ registry loaded, Registry.builtin = .ok registry ∧
      Machine.load script registry {} = .ok loaded ∧
      loaded.memory.slice ⟨8, 12⟩ = [0, 0, 0, 0] ∧
      (loaded.serveAll (List.replicate 7 .tick)).memory.slice ⟨8, 12⟩ = [5, 0, 0, 0] ∧
      ∃ lines, Listing.Lists loaded lines ∧ lines.length = 8 ∧
        Listing.render (loaded.serveAll (List.replicate 7 .tick)) =
          .ok (Listing.header loaded.layout ++ String.join lines) := by
  obtain ⟨registry, loaded, isBuiltin, load, kept, before, after, count⟩ :=
    Machine.exists_loaded_of_evaluation Registry.builtin script {} Stores (by decide +kernel)
  obtain ⟨draft, _, built⟩ := except_bind_eq_ok.1 isBuiltin
  obtain ⟨lines, lists, _, first, again⟩ := listing_stable built load (List.replicate 7 .tick) kept
  exact ⟨registry, loaded, isBuiltin, load, before, after, lines, lists, lists.length.trans count,
    again.trans first⟩

end MissionScript
