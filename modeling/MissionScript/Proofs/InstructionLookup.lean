import MissionScript.Proofs.LinearScan

/-!
# The instruction at an address

To find the instruction that an address lies in, the code map looks for the last start at or before
the address. The map has no lengths, so it cannot see where that instruction ends. It does not have to
as long as another instruction starts there, and all instructions but the last are followed by another
one. Behind the last instruction memory ends, and behind that end the answer is wrong: there the map
still names the last instruction, however far away the address is.

Results:
1. `CodeMap.startBefore?_of_inside`: before the end of memory the answer is the instruction that takes up
   the address.
2. `CodeMap.startBefore?_of_past`: from the end of memory on the answer is the last start.
3. `instruction_located_before_end`: the answer is right exactly before the end of memory, unless there is no
   instruction at all.
-/

namespace MissionScript

namespace CodeMap

/-- The search is right at an address: it finds the recorded instruction that takes up the address, and
none where no recorded instruction does. -/
structure Locates {H : Type} (registry : Registry H) (memory : Memory) (map : CodeMap)
    (address : Nat) : Prop where
  found_iff : ∀ first, map.startBefore? address = some first ↔
    first ∈ map.starts ∧ Occupies registry memory first address
  none_of_free : (∀ first ∈ map.starts, ¬ Occupies registry memory first address) →
    map.startBefore? address = none

variable {H : Type} {registry : Registry H} {memory : Memory} {map : CodeMap} {start : Nat}

/-- That nothing is found where no instruction is follows from what is found. -/
theorem Locates.of_found_iff {address : Nat}
    (found_iff : ∀ first, map.startBefore? address = some first ↔
      first ∈ map.starts ∧ Occupies registry memory first address) :
    Locates registry memory map address where
  found_iff := found_iff
  none_of_free free := by
    refine Option.eq_none_iff_forall_ne_some.2 fun first found => ?_
    obtain ⟨member, occupies⟩ := (found_iff first).1 found
    exact free first member occupies

theorem exists_startBefore? (sorted : map.starts.toList.Pairwise (· < ·)) {address first : Nat}
    (member : first ∈ map.starts) (notAfter : first ≤ address) :
    ∃ found, map.startBefore? address = some found := by
  unfold startBefore?
  have brackets := countUpTo_brackets sorted address
  cases counted : map.countUpTo address with
  | zero =>
    rw [counted] at brackets
    obtain ⟨index, isFirst⟩ := Array.mem_iff_getElem?.1 member
    exact absurd notAfter (Nat.not_le_of_lt (brackets.above index first (Nat.zero_le _) isFirst))
  | succ count =>
    rw [counted] at brackets
    exact ⟨_, Array.getElem?_eq_getElem brackets.high_le⟩

/-- No instruction reaches over the end of memory. -/
theorem not_occupies_of_past {address first : Nat} (past : memory.size ≤ address) :
    ¬ Occupies registry memory first address := by
  rintro ⟨instruction, decoded, _, before⟩
  have inside := Registry.decode_next_le decoded
  omega

section Chain

variable (chain : Chain registry memory start map.starts.toList)
include chain

/-- The last start at or before an address belongs to the instruction that takes up the address, since
the next instruction starts behind it. -/
theorem occupies_of_startBefore? {address first : Nat} (inside : address < memory.size)
    (found : map.startBefore? address = some first) : Occupies registry memory first address := by
  obtain ⟨member, notAfter, greatest⟩ := (startBefore?_eq_some_iff chain.ascending).1 found
  obtain ⟨instruction, decoded, goesOn⟩ := chain.next_mem (Array.mem_toList_iff.2 member)
  refine ⟨instruction, decoded, notAfter, Nat.lt_of_not_le fun behind => ?_⟩
  cases goesOn with
  | inl nextMember =>
    have notGreater := greatest instruction.next (Array.mem_toList_iff.1 nextMember) behind
    exact Nat.not_lt_of_le notGreater (Registry.decode_lt_next decoded)
  | inr isEnd => exact Nat.not_lt_of_le (isEnd ▸ behind) inside

/-- Before the end of memory the search is right: an instruction that takes up the address starts at or
before it, so something is found, and no two instructions take up the same address. -/
theorem startBefore?_of_inside {address : Nat} (inside : address < memory.size) :
    Locates registry memory map address := by
  refine .of_found_iff fun first => ⟨fun found => ?_, ?_⟩
  · refine ⟨?_, occupies_of_startBefore? chain inside found⟩
    exact ((startBefore?_eq_some_iff chain.ascending).1 found).1
  · rintro ⟨member, occupies⟩
    have notAfter : first ≤ address := by
      obtain ⟨_, _, notAfter, _⟩ := occupies
      exact notAfter
    obtain ⟨found, isFound⟩ := exists_startBefore? chain.ascending member notAfter
    have foundMember := ((startBefore?_eq_some_iff chain.ascending).1 isFound).1
    have startLe : start ≤ address :=
      Nat.le_trans (chain.le_of_mem (Array.mem_toList_iff.2 member)) notAfter
    obtain ⟨sole, _, _, unique⟩ := chain.divided startLe inside
    rw [isFound, unique first (Array.mem_toList_iff.2 member) occupies,
      unique found (Array.mem_toList_iff.2 foundMember) (occupies_of_startBefore? chain inside isFound)]

/-- From the end of memory on, all instructions start before the address. -/
theorem startBefore?_of_past {address : Nat} (past : memory.size ≤ address) :
    map.startBefore? address = map.starts.back? := by
  have brackets := countUpTo_brackets chain.ascending address
  have all : map.countUpTo address = map.starts.size := by
    refine Nat.le_antisymm brackets.high_le (Nat.le_of_not_lt fun fewer => ?_)
    have isStart : map.starts[map.countUpTo address]? = some (map.starts[map.countUpTo address]) :=
      Array.getElem?_eq_getElem fewer
    have behind := brackets.above _ _ (Nat.le_refl _) isStart
    obtain ⟨instruction, decoded, _⟩ :=
      chain.next_mem (Array.mem_toList_iff.2 (Array.getElem_mem fewer))
    have progress := Registry.decode_lt_next decoded
    have inside := Registry.decode_next_le decoded
    omega
  unfold startBefore?
  rw [all, Array.back?]
  cases size : map.starts.size with
  | zero => exact (Array.getElem?_eq_none (by omega)).symm
  | succ count => rfl

end Chain

end CodeMap

/-- Let the code be mapped. At every address before the end of memory the search finds the recorded start
of the instruction that takes up the address, and none if there is no such instruction. From the end of
memory on it finds the last start, although no instruction takes up the address; so it is right there only
if nothing is recorded, which is if the code starts at or behind the end of memory. -/
theorem instruction_located_before_end {H : Type} {registry : Registry H} {memory : Memory}
    {start : Nat} {layout? : Option Layout} {map : CodeMap}
    (success : CodeMap.build registry memory start layout? = .ok map) (address : Nat) :
    (CodeMap.Locates registry memory map address ↔
      address < memory.size ∨ memory.size ≤ start) ∧
    (memory.size ≤ address → map.startBefore? address = map.starts.back? ∧
      ∀ first ∈ map.starts, ¬ CodeMap.Occupies registry memory first address) := by
  have chain := CodeMap.build_chain success
  refine ⟨⟨fun locates => ?_, ?_⟩, fun past => ?_⟩
  · refine (Nat.lt_or_ge address memory.size).imp_right fun past => ?_
    have nothing := locates.none_of_free fun _ _ => CodeMap.not_occupies_of_past past
    rw [CodeMap.startBefore?_of_past chain past, Array.back?_eq_none_iff] at nothing
    exact chain.tiles.empty_iff.1 (congrArg Array.toList nothing)
  · rintro (inside | noCode)
    · exact CodeMap.startBefore?_of_inside chain inside
    · have noStarts : map.starts.toList = [] := chain.tiles.empty_iff.2 noCode
      have noMember (first : Nat) : first ∉ map.starts := by
        rw [← Array.mem_toList_iff, noStarts]
        exact List.not_mem_nil
      refine .of_found_iff fun first => iff_of_false (fun found => ?_) fun found => ?_
      · exact noMember first ((CodeMap.startBefore?_eq_some_iff chain.ascending).1 found).1
      · exact noMember first found.1
  · exact ⟨CodeMap.startBefore?_of_past chain past,
      fun _ _ => CodeMap.not_occupies_of_past past⟩

open LinearScanExample in
/-- In the middle of the first of two instructions its start is found, before both of them none, and right
behind the last one the search still finds that one. -/
theorem two_instructions_located :
    ∃ map, CodeMap.build registry memory 1 none = .ok map ∧
      CodeMap.Locates registry memory map 6 ∧ CodeMap.Locates registry memory map 0 ∧
      map.startBefore? 15 = map.starts.back? := by
  have success : CodeMap.build registry memory 1 none =
      .ok ⟨#[1, 11], #[⟨1, 1⟩, ⟨11, 1⟩]⟩ := rfl
  have size : memory.size = 15 := rfl
  refine ⟨_, success, ?_, ?_, ?_⟩
  · exact (instruction_located_before_end success 6).1.2 (Or.inl (by rw [size]; decide))
  · exact (instruction_located_before_end success 0).1.2 (Or.inl (by rw [size]; decide))
  · exact ((instruction_located_before_end success 15).2 (Nat.le_of_eq size)).1

open LinearScanExample in
/-- The fifteen bytes end with the instruction at 11. The address 15 is behind them and belongs to no
instruction, but the search finds the one at 11. -/
theorem last_instruction_has_no_end :
    ∃ map, CodeMap.build registry memory 1 none = .ok map ∧
      map.startBefore? 15 = some 11 ∧ ¬ CodeMap.Occupies registry memory 11 15 ∧
      ¬ CodeMap.Locates registry memory map 15 := by
  have success : CodeMap.build registry memory 1 none =
      .ok ⟨#[1, 11], #[⟨1, 1⟩, ⟨11, 1⟩]⟩ := rfl
  have free : ¬ CodeMap.Occupies registry memory 11 15 :=
    CodeMap.not_occupies_of_past (Nat.le_refl 15)
  have found : CodeMap.startBefore? ⟨#[1, 11], #[⟨1, 1⟩, ⟨11, 1⟩]⟩ 15 = some 11 := by decide
  exact ⟨_, success, found, free, fun locates => free ((locates.found_iff 11).1 found).2⟩

end MissionScript
