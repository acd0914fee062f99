import MissionScript.CodeMap
import MissionScript.Proofs.Grammar

/-!
# The linear scan

The code map is made by walking over the code, one instruction after the other. Three things are
shown about it.

1. The walk ends: the bound on its length is never what stops it. `CodeMap.Scans` is the walk
   without a bound, and what `CodeMap.build` returns is a result of it on every memory.
2. The instructions that were found tile the code: they follow each other from the start to the end
   of memory without a gap and without an overlap (`CodeMap.Tiles`).
3. The starts are therefore in ascending order, which is what the search by halves needs to find
   the greatest start at or before an address (`CodeMap.startBefore?_eq_some_iff`), and so every start
   and nothing else (`CodeMap.startsAt_iff_mem`).
-/

namespace MissionScript

namespace CodeMap

section Walk

variable {H : Type} (registry : Registry H) (memory : Memory) (layout? : Option Layout)

/-! ## 1. The walk without a bound -/

/-- The walk from an address with the map so far comes to a result. -/
inductive Scans : Nat → CodeMap → Except Error CodeMap → Prop where
  | stop {address : Nat} {map : CodeMap} (past : memory.size ≤ address) :
      Scans address map (.ok map)
  | unreadable {address : Nat} {map : CodeMap} {error : Error} (inside : address < memory.size)
      (failed : registry.decode memory address = .error error) :
      Scans address map (.error error)
  | unresolved {address : Nat} {map : CodeMap} {instruction : Instruction} {error : Error}
      (inside : address < memory.size)
      (decoded : registry.decode memory address = .ok instruction)
      (failed : map.add layout? instruction = .error error) :
      Scans address map (.error error)
  | step {address : Nat} {map longer : CodeMap} {instruction : Instruction}
      {result : Except Error CodeMap} (inside : address < memory.size)
      (decoded : registry.decode memory address = .ok instruction)
      (added : map.add layout? instruction = .ok longer)
      (rest : Scans instruction.next longer result) :
      Scans address map result

/-- The starts of the instructions that follow each other from an address to the end of memory. -/
inductive Chain : Nat → List Nat → Prop where
  | stop {address : Nat} (past : memory.size ≤ address) : Chain address []
  | step {address : Nat} {instruction : Instruction} {starts : List Nat}
      (inside : address < memory.size)
      (decoded : registry.decode memory address = .ok instruction)
      (rest : Chain instruction.next starts) :
      Chain address (address :: starts)

/-- The instruction at `first` takes up the byte at `address`. -/
def Occupies (first address : Nat) : Prop :=
  ∃ instruction, registry.decode memory first = .ok instruction ∧
    first ≤ address ∧ address < instruction.next

/-- The instructions at the starts divide the addresses from `start` to the end of memory. -/
structure Tiles (start : Nat) (starts : List Nat) : Prop where
  empty_iff : starts = [] ↔ memory.size ≤ start
  head : ∀ first, starts.head? = some first → first = start
  ascending : starts.Pairwise (· < ·)
  /-- Each start but the first is where the instruction before it ends. -/
  adjacent : ∀ index first second, starts[index]? = some first → starts[index + 1]? = some second →
    ∃ instruction, registry.decode memory first = .ok instruction ∧ instruction.next = second
  last : ∀ first, starts.getLast? = some first →
    ∃ instruction, registry.decode memory first = .ok instruction ∧ instruction.next = memory.size
  /-- Every address belongs to one instruction and to no other. -/
  divided : ∀ address, start ≤ address → address < memory.size →
    ∃ first ∈ starts, Occupies registry memory first address ∧
      ∀ other ∈ starts, Occupies registry memory other address → other = first

end Walk

variable {H : Type} {registry : Registry H} {memory : Memory} {layout? : Option Layout}

theorem add_starts {map longer : CodeMap} {instruction : Instruction}
    (success : map.add layout? instruction = .ok longer) :
    longer.starts = map.starts.push instruction.address := by
  unfold add at success
  split at success
  · cases success
    rfl
  · split at success
    · cases success
    · cases success
      rfl

/-- With as many steps as there are bytes left, the bounded walk is the walk without a bound: every
step leaves fewer bytes. -/
theorem scan_scans {left address : Nat} (enough : memory.size - address ≤ left) (map : CodeMap) :
    Scans registry memory layout? address map
      (scan registry memory layout? left address map) := by
  induction left generalizing address map with
  | zero => exact .stop (Nat.le_of_sub_eq_zero (Nat.le_zero.1 enough))
  | succ left ih =>
    unfold scan
    by_cases past : memory.size ≤ address
    · rw [if_pos past]
      exact .stop past
    · have inside : address < memory.size := Nat.lt_of_not_le past
      rw [if_neg past]
      cases decoded : registry.decode memory address with
      | error error => exact .unreadable inside decoded
      | ok instruction =>
        simp only
        cases added : map.add layout? instruction with
        | error error => exact .unresolved inside decoded added
        | ok longer =>
          -- An instruction takes at least one byte, so what is left of the bound still covers the rest.
          refine .step inside decoded added (ih ?_ longer)
          have progress := Registry.decode_lt_next decoded
          omega

/-- The walk has no other result than the bounded one. -/
theorem Scans.eq_scan {left address : Nat} {map : CodeMap} {result : Except Error CodeMap}
    (scans : Scans registry memory layout? address map result)
    (enough : memory.size - address ≤ left) :
    result = scan registry memory layout? left address map := by
  induction scans generalizing left with
  | stop past =>
    cases left with
    | zero => rfl
    | succ left => rw [scan, if_pos past]
  | unreadable inside failed =>
    obtain ⟨left, rfl⟩ := Nat.exists_eq_succ_of_ne_zero (show left ≠ 0 by omega)
    rw [scan, if_neg (Nat.not_le_of_lt inside), failed]
  | unresolved inside decoded failed =>
    obtain ⟨left, rfl⟩ := Nat.exists_eq_succ_of_ne_zero (show left ≠ 0 by omega)
    simp only [scan, if_neg (Nat.not_le_of_lt inside), decoded, failed]
  | step inside decoded added _ ih =>
    obtain ⟨left, rfl⟩ := Nat.exists_eq_succ_of_ne_zero (show left ≠ 0 by omega)
    have progress := Registry.decode_lt_next decoded
    simp only [scan, if_neg (Nat.not_le_of_lt inside), decoded, added]
    exact ih (by omega)

theorem scans_iff_eq_build {start : Nat} {result : Except Error CodeMap} :
    Scans registry memory layout? start empty result ↔
      result = build registry memory start layout? := by
  constructor
  · intro scans
    exact scans.eq_scan (Nat.le_refl _)
  · rintro rfl
    exact scan_scans (Nat.le_refl _) empty

/-- A walk that succeeds adds the starts of a chain to the map. -/
theorem Scans.chain {address : Nat} {map result : CodeMap}
    (scans : Scans registry memory layout? address map (.ok result)) :
    ∃ starts, Chain registry memory address starts ∧
      result.starts.toList = map.starts.toList ++ starts := by
  generalize outcome : Except.ok result = value at scans
  induction scans with
  | stop past =>
    cases outcome
    exact ⟨[], .stop past, (List.append_nil _).symm⟩
  | unreadable | unresolved => cases outcome
  | @step address map longer instruction value inside decoded added _ ih =>
    obtain ⟨starts, chain, extended⟩ := ih outcome
    refine ⟨address :: starts, .step inside decoded chain, ?_⟩
    rw [extended, add_starts added, Registry.decode_address decoded, Array.toList_push,
      List.append_assoc, List.singleton_append]

theorem build_chain {start : Nat} {map : CodeMap}
    (success : build registry memory start layout? = .ok map) :
    Chain registry memory start map.starts.toList := by
  obtain ⟨starts, chain, extended⟩ := (scans_iff_eq_build.2 success.symm).chain
  rw [extended]
  exact chain

/-! ## 2. Tiling -/

namespace Chain

variable {address : Nat} {starts : List Nat}

/-- Where a chain begins, as long as it begins before the end of memory. -/
theorem address_mem (chain : Chain registry memory address starts)
    (inside : address < memory.size) : address ∈ starts := by
  cases chain with
  | stop past => omega
  | step => exact List.mem_cons_self

/-- A chain goes up. -/
theorem le_of_mem (chain : Chain registry memory address starts) {first : Nat}
    (member : first ∈ starts) : address ≤ first := by
  induction chain with
  | stop => cases member
  | @step address instruction starts _ decoded _ ih =>
    cases member with
    | head => exact Nat.le_refl _
    | tail _ later => exact Nat.le_trans (Nat.le_of_lt (Registry.decode_lt_next decoded)) (ih later)

/-- Every member of a chain is an instruction, and where it ends is a member as well or the end of
memory. -/
theorem next_mem (chain : Chain registry memory address starts) {first : Nat}
    (member : first ∈ starts) :
    ∃ instruction, registry.decode memory first = .ok instruction ∧
      (instruction.next ∈ starts ∨ instruction.next = memory.size) := by
  induction chain with
  | stop => cases member
  | @step address instruction starts _ decoded rest ih =>
    cases member with
    | head =>
      refine ⟨instruction, decoded, ?_⟩
      by_cases inside : instruction.next < memory.size
      · exact Or.inl (List.mem_cons_of_mem _ (rest.address_mem inside))
      · have := Registry.decode_next_le decoded
        exact Or.inr (by omega)
    | tail _ later =>
      obtain ⟨found, isFound, goesOn⟩ := ih later
      exact ⟨found, isFound, goesOn.imp (List.mem_cons_of_mem _) id⟩

theorem ascending (chain : Chain registry memory address starts) : starts.Pairwise (· < ·) := by
  induction chain with
  | stop => exact .nil
  | @step address instruction starts _ decoded rest ih =>
    refine .cons (fun later member => ?_) ih
    exact Nat.lt_of_lt_of_le (Registry.decode_lt_next decoded) (rest.le_of_mem member)

theorem head (chain : Chain registry memory address starts) {first : Nat}
    (isHead : starts.head? = some first) : first = address := by
  cases chain with
  | stop => cases isHead
  | step => exact (Option.some.inj isHead).symm

theorem adjacent (chain : Chain registry memory address starts) {index first second : Nat}
    (isFirst : starts[index]? = some first) (isSecond : starts[index + 1]? = some second) :
    ∃ instruction, registry.decode memory first = .ok instruction ∧
      instruction.next = second := by
  induction chain generalizing index with
  | stop => cases isFirst
  | @step address instruction starts _ decoded rest ih =>
    rw [List.getElem?_cons_succ] at isSecond
    cases index with
    | zero =>
      cases isFirst
      rw [← List.head?_eq_getElem?] at isSecond
      exact ⟨instruction, decoded, (rest.head isSecond).symm⟩
    | succ index =>
      rw [List.getElem?_cons_succ] at isFirst
      exact ih isFirst isSecond

theorem last (chain : Chain registry memory address starts) {first : Nat}
    (isLast : starts.getLast? = some first) :
    ∃ instruction, registry.decode memory first = .ok instruction ∧
      instruction.next = memory.size := by
  induction chain with
  | stop => cases isLast
  | @step address instruction starts _ decoded rest ih =>
    -- The last instruction cannot end before the end of memory, or the walk would have gone on.
    cases rest with
    | stop past =>
      cases isLast
      exact ⟨instruction, decoded, Nat.le_antisymm (Registry.decode_next_le decoded) past⟩
    | step => exact ih (List.getLast?_cons_cons ▸ isLast)

/-- What lies before a chain belongs to none of its instructions. -/
theorem not_occupies (chain : Chain registry memory address starts) {first before : Nat}
    (member : first ∈ starts) (isBefore : before < address) :
    ¬ Occupies registry memory first before := by
  rintro ⟨_, _, notAfter, _⟩
  have := chain.le_of_mem member
  omega

theorem divided (chain : Chain registry memory address starts) {place : Nat}
    (notBefore : address ≤ place) (inside : place < memory.size) :
    ∃ first ∈ starts, Occupies registry memory first place ∧
      ∀ other ∈ starts, Occupies registry memory other place → other = first := by
  induction chain with
  | stop past => omega
  | @step address instruction starts _ decoded rest ih =>
    -- The byte belongs to the first instruction, or it comes after that one.
    by_cases early : place < instruction.next
    · refine ⟨address, List.mem_cons_self, ⟨instruction, decoded, notBefore, early⟩, ?_⟩
      intro other member occupies
      cases member with
      | head => rfl
      | tail _ later => exact absurd occupies (rest.not_occupies later early)
    · obtain ⟨first, member, occupies, unique⟩ := ih (Nat.le_of_not_lt early)
      refine ⟨first, List.mem_cons_of_mem _ member, occupies, ?_⟩
      intro other otherMember otherOccupies
      cases otherMember with
      | head =>
        obtain ⟨_, again, _, before⟩ := otherOccupies
        cases decoded.symm.trans again
        exact absurd before early
      | tail _ later => exact unique other later otherOccupies

theorem tiles (chain : Chain registry memory address starts) :
    Tiles registry memory address starts where
  empty_iff := by
    cases chain with
    | stop past => exact iff_of_true rfl past
    | step inside => exact iff_of_false (List.cons_ne_nil _ _) (Nat.not_le_of_lt inside)
  head _ := chain.head
  ascending := chain.ascending
  adjacent _ _ _ := chain.adjacent
  last _ := chain.last
  divided _ := chain.divided

end Chain

/-! ## 3. The search by halves -/

/-- The starts with an index below `low` are at or before the address, those with an index from
`high` on are behind it. -/
structure Brackets (starts : Array Nat) (address low high : Nat) : Prop where
  low_le : low ≤ high
  high_le : high ≤ starts.size
  below : ∀ index first, index < low → starts[index]? = some first → first ≤ address
  above : ∀ index first, high ≤ index → starts[index]? = some first → address < first

section Search

variable {starts : Array Nat} (sorted : starts.toList.Pairwise (· < ·))

include sorted in
theorem getElem?_lt_getElem? {low high first second : Nat} (less : low < high)
    (isFirst : starts[low]? = some first) (isSecond : starts[high]? = some second) :
    first < second := by
  obtain ⟨lowBound, rfl⟩ := Array.getElem?_eq_some_iff.1 isFirst
  obtain ⟨highBound, rfl⟩ := Array.getElem?_eq_some_iff.1 isSecond
  exact List.pairwise_iff_getElem.1 sorted low high lowBound highBound less

include sorted in
/-- Halving keeps the starts on their sides: one comparison with the start in the middle decides
about all starts on one side of it. -/
theorem search_brackets {address fuel low high : Nat} (brackets : Brackets starts address low high)
    (enough : high - low ≤ fuel) :
    Brackets starts address (search starts address fuel low high)
      (search starts address fuel low high) := by
  induction fuel generalizing low high with
  | zero =>
    have meet : high = low := by
      have := brackets.low_le
      omega
    subst meet
    exact brackets
  | succ fuel ih =>
    obtain ⟨lowLe, highLe, below, above⟩ := brackets
    unfold search
    by_cases apart : low < high
    · rw [if_pos apart]
      have inside : (low + high) / 2 < starts.size := by omega
      have isMiddle : starts[(low + high) / 2]? = some (starts.getD ((low + high) / 2) 0) := by
        rw [Array.getElem?_eq_getElem inside, Array.getD_eq_getD_getElem?,
          Array.getElem?_eq_getElem inside]
        rfl
      simp only
      by_cases notAfter : starts.getD ((low + high) / 2) 0 ≤ address
      · rw [if_pos notAfter]
        have fewer : high - ((low + high) / 2 + 1) ≤ fuel := by omega
        refine ih ⟨by omega, highLe, ?_, above⟩ fewer
        intro index first isBelow isFirst
        rcases Nat.lt_or_ge index ((low + high) / 2) with less | notLess
        · exact Nat.le_trans (Nat.le_of_lt (getElem?_lt_getElem? sorted less isFirst isMiddle))
            notAfter
        · obtain rfl : index = (low + high) / 2 := by omega
          exact Option.some.inj (isMiddle.symm.trans isFirst) ▸ notAfter
      · rw [if_neg notAfter]
        have fewer : (low + high) / 2 - low ≤ fuel := by omega
        refine ih ⟨by omega, by omega, below, ?_⟩ fewer
        intro index first isAbove isFirst
        rcases Nat.lt_or_ge ((low + high) / 2) index with less | notLess
        · exact Nat.lt_trans (Nat.lt_of_not_le notAfter)
            (getElem?_lt_getElem? sorted less isMiddle isFirst)
        · obtain rfl : index = (low + high) / 2 := by omega
          exact Option.some.inj (isMiddle.symm.trans isFirst) ▸ Nat.lt_of_not_le notAfter
    · rw [if_neg apart]
      obtain rfl : low = high := by omega
      exact ⟨lowLe, highLe, below, above⟩

end Search

theorem countUpTo_brackets {map : CodeMap} (sorted : map.starts.toList.Pairwise (· < ·))
    (address : Nat) :
    Brackets map.starts address (map.countUpTo address) (map.countUpTo address) := by
  refine search_brackets sorted ⟨Nat.zero_le _, Nat.le_refl _, ?_, ?_⟩ (Nat.le_refl _)
  · intro index first below
    exact absurd below (Nat.not_lt_zero index)
  · intro index first above isFirst
    rw [Array.getElem?_eq_none above] at isFirst
    cases isFirst

/-- The search finds the greatest start at or before the address. -/
theorem startBefore?_eq_some_iff {map : CodeMap} (sorted : map.starts.toList.Pairwise (· < ·))
    {address first : Nat} :
    map.startBefore? address = some first ↔ first ∈ map.starts ∧ first ≤ address ∧
      ∀ other ∈ map.starts, other ≤ address → other ≤ first := by
  have brackets := countUpTo_brackets sorted address
  unfold startBefore?
  cases counted : map.countUpTo address with
  | zero =>
    rw [counted] at brackets
    refine iff_of_false (fun found => by cases found) ?_
    rintro ⟨member, notAfter, _⟩
    obtain ⟨index, isFirst⟩ := Array.mem_iff_getElem?.1 member
    exact Nat.not_lt_of_le notAfter (brackets.above index first (Nat.zero_le _) isFirst)
  | succ count =>
    rw [counted] at brackets
    obtain ⟨last, isLast⟩ : ∃ last, map.starts[count]? = some last :=
      ⟨_, Array.getElem?_eq_getElem brackets.high_le⟩
    have lastMember : last ∈ map.starts := Array.mem_iff_getElem?.2 ⟨count, isLast⟩
    have notAfter := brackets.below count last (Nat.lt_succ_self _) isLast
    -- No start behind the last one that is counted is at or before the address.
    have greatest : ∀ other ∈ map.starts, other ≤ address → other ≤ last := by
      intro other member otherNotAfter
      obtain ⟨index, isOther⟩ := Array.mem_iff_getElem?.1 member
      have counts : index < count + 1 := by
        refine Nat.lt_of_not_le fun behind => ?_
        exact Nat.not_lt_of_le otherNotAfter (brackets.above index other behind isOther)
      rcases Nat.lt_or_ge index count with less | notLess
      · exact Nat.le_of_lt (getElem?_lt_getElem? sorted less isOther isLast)
      · obtain rfl : index = count := by omega
        exact Nat.le_of_eq (Option.some.inj (isOther.symm.trans isLast))
    show map.starts[count]? = some first ↔ _
    rw [isLast, Option.some.injEq]
    constructor
    · rintro rfl
      exact ⟨lastMember, notAfter, greatest⟩
    · rintro ⟨member, firstNotAfter, firstGreatest⟩
      exact Nat.le_antisymm (firstGreatest last lastMember notAfter)
        (greatest first member firstNotAfter)

/-- The search finds every start, and nothing else. -/
theorem startsAt_iff_mem {map : CodeMap} (sorted : map.starts.toList.Pairwise (· < ·))
    (address : Nat) : map.startsAt address = true ↔ address ∈ map.starts := by
  unfold startsAt
  rw [beq_iff_eq, startBefore?_eq_some_iff sorted]
  exact and_iff_left ⟨Nat.le_refl address, fun _ _ notAfter => notAfter⟩

end CodeMap

/-- The linear scan comes to an end on every memory, with the same result as the walk without a
bound. When it succeeds, the instructions that it has recorded tile the addresses from the start to
the end of memory, and the search by halves is true of exactly the recorded starts. -/
theorem build_tiles {H : Type} (registry : Registry H) (memory : Memory) (start : Nat)
    (layout? : Option Layout) :
    (∀ result, CodeMap.Scans registry memory layout? start .empty result ↔
      result = CodeMap.build registry memory start layout?) ∧
    ∀ map, CodeMap.build registry memory start layout? = .ok map →
      CodeMap.Tiles registry memory start map.starts.toList ∧
        ∀ address, map.startsAt address = true ↔ address ∈ map.starts := by
  refine ⟨fun _ => CodeMap.scans_iff_eq_build, fun map success => ?_⟩
  have chain := CodeMap.build_chain success
  exact ⟨chain.tiles, CodeMap.startsAt_iff_mem chain.ascending⟩

namespace LinearScanExample

def registry : Registry Unit :=
  ⟨(Table.empty.insert Builtin.goto.opcode.key ⟨Builtin.goto.definition, none⟩).insert
    Builtin.startNewScriptWithArgs.opcode.key ⟨Builtin.startNewScriptWithArgs.definition, none⟩⟩

/-- One byte that is no code, a start of a script with two values, and a jump whose last byte is the
last byte of memory. -/
def memory : Memory := Memory.ofBytes #[0xAA,
  0x4F, 0x00, 0x01, 0x01, 0x00, 0x00, 0x00, 0x04, 0x05, 0x00,
  0x02, 0x00, 0x04, 0x01]

end LinearScanExample

open LinearScanExample in
/-- Two instructions divide the fourteen bytes of code. The sixth byte is inside the first of them:
it belongs to that instruction and is no start. -/
theorem build_two_instructions :
    ∃ map, CodeMap.build registry memory 1 none = .ok map ∧ map.starts.toList = [1, 11] ∧
      CodeMap.Tiles registry memory 1 [1, 11] ∧ map.startsAt 11 = true ∧ map.startsAt 6 = false := by
  have success : CodeMap.build registry memory 1 none =
      .ok ⟨#[1, 11], #[⟨1, 1⟩, ⟨11, 1⟩]⟩ := rfl
  obtain ⟨tiles, found⟩ := (build_tiles registry memory 1 none).2 _ success
  refine ⟨_, success, rfl, tiles, (found 11).2 (by simp), ?_⟩
  exact Bool.eq_false_iff.2 fun started => absurd ((found 6).1 started) (by simp)

end MissionScript
