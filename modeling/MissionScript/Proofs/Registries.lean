import MissionScript.Proofs.Results
import MissionScript.Registry

/-!
# Entries of a registry

A registry that was built from a draft holds the entries of the draft's records and bindings and no
others, whatever the draft held. What is true of each of these entries is therefore true of the
registry (`Registry.Draft.build_every`). In particular every definition stands under its own opcode,
and a definition that was found for an opcode names that opcode. Conversely, no binding of the draft
gets lost (`Registry.Draft.Binds.build_entry?`), and a record that no binding refines keeps its own
entry (`Registry.Draft.Keyed.build_entry?_of_unbound`).

A binding is entered beside whatever has been entered so far. Since no opcode is bound twice, that is
the entry of its record (`Registry.Draft.Enumerates.buildInOrder_eq`), and the order in which records
and bindings are gone through does not matter (`Registry.Draft.Enumerates.buildInOrder_eq_ok_iff`).
-/

namespace MissionScript

theorem Opcode.key_injective {left right : Opcode} (same : left.key = right.key) : left = right := by
  cases left with
  | mk leftWord =>
    cases right with
    | mk rightWord =>
      have words : leftWord = rightWord := UInt16.toNat_inj.1 same
      rw [words]

namespace Table

variable {β : Type} {property : Nat → β → Prop}

/-- Every value has a property, together with the key it stands under. -/
def Every (property : Nat → β → Prop) (table : Table β) : Prop :=
  ∀ key value, table.get? key = some value → property key value

theorem every_empty : (empty : Table β).Every property := by
  intro key value found
  cases found

theorem Every.insert {table : Table β} (every : table.Every property) {key : Nat} {value : β}
    (holds : property key value) : (table.insert key value).Every property := by
  intro other found isFound
  rw [get?_insert] at isFound
  split at isFound
  · next hit =>
    cases isFound
    exact hit ▸ holds
  · exact every other found isFound

theorem mem_values_insert {table : Table β} {key : Nat} {value other : β}
    (member : other ∈ (table.insert key value).values) : other = value ∨ other ∈ table.values := by
  obtain ⟨entry, inTable, rfl⟩ := List.mem_map.1 member
  rcases mem_put inTable with new | old
  · exact Or.inl (congrArg Prod.snd new)
  · exact Or.inr (List.mem_map_of_mem old)

theorem find_of_mem {entries : List (Nat × β)} {entry : Nat × β}
    (ascending : entries.Pairwise fun left right => left.1 < right.1) (member : entry ∈ entries) :
    find entry.1 entries = some entry.2 := by
  induction entries with
  | nil => cases member
  | cons head rest ih =>
    obtain ⟨above, restAscending⟩ := List.pairwise_cons.1 ascending
    rw [find]
    cases member with
    | head => rw [if_pos rfl]
    | tail _ later => rw [if_neg (Nat.ne_of_lt (above entry later)), ih restAscending later]

/-- Every value stands under some key. -/
theorem get?_of_mem_values {table : Table β} {value : β} (member : value ∈ table.values) :
    ∃ key, table.get? key = some value := by
  obtain ⟨entry, inTable, rfl⟩ := List.mem_map.1 member
  exact ⟨entry.1, find_of_mem table.ascending inTable⟩

theorem mem_of_find {entries : List (Nat × β)} {key : Nat} {value : β}
    (found : find key entries = some value) : (key, value) ∈ entries := by
  induction entries with
  | nil => cases found
  | cons head rest ih =>
    rw [find] at found
    split at found
    · next same =>
      cases found
      exact same ▸ List.mem_cons_self
    · exact List.mem_cons_of_mem head (ih found)

theorem mem_values_of_get? {table : Table β} {key : Nat} {value : β}
    (found : table.get? key = some value) : value ∈ table.values :=
  List.mem_map.2 ⟨(key, value), mem_of_find found, rfl⟩

/-- Values that name their own key stand under different keys. -/
theorem values_distinct (key : β → Nat) {table : Table β}
    (keyed : table.Every fun place value => key value = place) :
    table.values.Pairwise fun left right => key left ≠ key right := by
  refine List.pairwise_map.2 (table.ascending.imp_of_mem ?_)
  intro left right isLeft isRight less same
  rw [keyed left.1 left.2 (find_of_mem table.ascending isLeft),
    keyed right.1 right.2 (find_of_mem table.ascending isRight)] at same
  exact Nat.ne_of_lt less same

theorem mem_values_iff (key : β → Nat) {table : Table β}
    (keyed : table.Every fun place value => key value = place) {value : β} :
    value ∈ table.values ↔ table.get? (key value) = some value := by
  constructor
  · intro member
    obtain ⟨place, found⟩ := get?_of_mem_values member
    rw [keyed place value found]
    exact found
  · exact mem_values_of_get?

/-- A table into which items are put, each under a key of its own, ends up with what is made of these
items, and with what it held before under other keys. -/
theorem foldlM_insert_made_get? {γ ε : Type} (key : γ → Nat) (make : γ → Except ε β)
    {items : List γ} (distinct : items.Pairwise fun left right => key left ≠ key right)
    {table final : Table β}
    (success : items.foldlM (fun table item => make item >>= fun made =>
      pure (table.insert (key item) made)) table = .ok final) {wanted : Nat} {found : β} :
    final.get? wanted = some found ↔
      (∃ item ∈ items, key item = wanted ∧ make item = .ok found) ∨
        (∀ item ∈ items, key item ≠ wanted) ∧ table.get? wanted = some found := by
  induction items generalizing table with
  | nil =>
    cases success
    simp
  | cons first rest ih =>
    obtain ⟨apart, restDistinct⟩ := List.pairwise_cons.1 distinct
    rw [List.foldlM_cons, except_bind_eq_ok] at success
    obtain ⟨next, stepped, remaining⟩ := success
    obtain ⟨made, isMade, inserted⟩ := except_bind_eq_ok.1 stepped
    cases inserted
    simp only [ih restDistinct remaining, get?_insert, List.mem_cons, exists_eq_or_imp,
      forall_eq_or_imp, isMade, Except.ok.injEq]
    by_cases hit : key first = wanted
    · -- No later item has this key, so the first one stays.
      have later : ∀ item ∈ rest, key item ≠ wanted := fun item member => hit ▸ (apart item member).symm
      rw [if_pos hit, Option.some.injEq]
      constructor
      · rintro (inRest | ⟨_, isFirst⟩)
        · exact Or.inl (Or.inr inRest)
        · exact Or.inl (Or.inl ⟨hit, isFirst⟩)
      · rintro ((⟨_, isFirst⟩ | inRest) | ⟨⟨notFirst, _⟩, _⟩)
        · exact Or.inr ⟨later, isFirst⟩
        · exact Or.inl inRest
        · exact absurd hit notFirst
    · rw [if_neg hit]
      simp [hit]

theorem foldl_insert_get? {γ : Type} (key : γ → Nat) (value : γ → β) {items : List γ}
    (distinct : items.Pairwise fun left right => key left ≠ key right) {table : Table β}
    {wanted : Nat} {found : β} :
    (items.foldl (fun table item => table.insert (key item) (value item)) table).get? wanted =
        some found ↔
      (∃ item ∈ items, key item = wanted ∧ value item = found) ∨
        (∀ item ∈ items, key item ≠ wanted) ∧ table.get? wanted = some found := by
  let make (item : γ) : Except Error β := .ok (value item)
  have folded : items.foldlM (fun table item => make item >>= fun made =>
      pure (table.insert (key item) made)) table =
        .ok (items.foldl (fun table item => table.insert (key item) (value item)) table) :=
    List.foldlM_pure
  refine (foldlM_insert_made_get? key make distinct folded).trans ?_
  simp only [make, Except.ok.injEq]

/-- A table to which items are added, each under a key that is new to it, ends up with these items and
with what it held before. The table is a part, `view`, of a larger state. -/
theorem foldlM_insert_get? {σ ε : Type} (view : σ → Table β) (key : β → Nat)
    {step : σ → β → Except ε σ}
    (adds : ∀ state item next, step state item = .ok next →
      (view state).get? (key item) = none ∧ view next = (view state).insert (key item) item)
    {items : List β} {state final : σ} (success : items.foldlM step state = .ok final)
    {wanted : Nat} {item : β} :
    (view final).get? wanted = some item ↔
      (item ∈ items ∧ key item = wanted) ∨ (view state).get? wanted = some item := by
  induction items generalizing state with
  | nil =>
    cases success
    simp
  | cons first rest ih =>
    rw [List.foldlM_cons, except_bind_eq_ok] at success
    obtain ⟨next, added, remaining⟩ := success
    obtain ⟨fresh, inserted⟩ := adds state first next added
    rw [ih remaining, inserted, get?_insert, List.mem_cons]
    by_cases same : key first = wanted
    · subst same
      rw [if_pos rfl, fresh]
      constructor
      · rintro (⟨later, sameKey⟩ | isFirst)
        · exact Or.inl ⟨Or.inr later, sameKey⟩
        · cases isFirst
          exact Or.inl ⟨Or.inl rfl, rfl⟩
      · rintro (⟨rfl | later, sameKey⟩ | impossible)
        · exact Or.inr rfl
        · exact Or.inl ⟨later, sameKey⟩
        · cases impossible
    · rw [if_neg same]
      refine or_congr_left ⟨fun ⟨later, sameKey⟩ => ⟨Or.inr later, sameKey⟩, ?_⟩
      rintro ⟨rfl | later, sameKey⟩
      · exact absurd sameKey same
      · exact ⟨later, sameKey⟩

/-- All items can be added exactly when their keys are new to the table and differ from each other. -/
theorem foldlM_insert_succeeds {σ ε : Type} (view : σ → Table β) (key : β → Nat)
    {step : σ → β → Except ε σ}
    (adds : ∀ state item next, step state item = .ok next →
      (view state).get? (key item) = none ∧ view next = (view state).insert (key item) item)
    (accepts : ∀ state item, (view state).get? (key item) = none → ∃ next, step state item = .ok next)
    {items : List β} {state : σ} :
    (∃ final, items.foldlM step state = .ok final) ↔
      (items.Pairwise fun left right => key left ≠ key right) ∧
        ∀ item ∈ items, (view state).get? (key item) = none := by
  induction items generalizing state with
  | nil => exact iff_of_true ⟨state, rfl⟩ ⟨.nil, List.forall_mem_nil _⟩
  | cons first rest ih =>
    rw [List.pairwise_cons, List.forall_mem_cons]
    constructor
    · rintro ⟨final, success⟩
      rw [List.foldlM_cons, except_bind_eq_ok] at success
      obtain ⟨next, added, remaining⟩ := success
      obtain ⟨fresh, inserted⟩ := adds state first next added
      obtain ⟨distinct, free⟩ := ih.1 ⟨final, remaining⟩
      -- A later item finds the first one in the table already, so it has another key.
      have later : ∀ item ∈ rest, key first ≠ key item ∧ (view state).get? (key item) = none := by
        intro item member
        have isFree := free item member
        rw [inserted, get?_insert] at isFree
        split at isFree
        · cases isFree
        next different => exact ⟨different, isFree⟩
      exact ⟨⟨fun item member => (later item member).1, distinct⟩, fresh,
        fun item member => (later item member).2⟩
    · rintro ⟨⟨apart, distinct⟩, fresh, free⟩
      obtain ⟨next, added⟩ := accepts state first fresh
      have nextFree : ∀ item ∈ rest, (view next).get? (key item) = none := by
        intro item member
        rw [(adds state first next added).2, get?_insert, if_neg (apart item member)]
        exact free item member
      obtain ⟨final, remaining⟩ := ih.2 ⟨distinct, nextFree⟩
      exact ⟨final, by rw [List.foldlM_cons, added]; exact remaining⟩

end Table

/-- The number of arguments that a record counts. -/
def Record.arity (record : Record) : Arity :=
  match record.argumentCount.toInt with
  | .ofNat count => .fixed count
  | .negSucc _ => .variadic 0

/-- Names do not matter to the arity of a generic definition. -/
theorem Record.arity_definition (record : Record) (name? : Option String) :
    (record.definition name?).arity = record.arity := by
  unfold Definition.arity Record.definition Record.arity
  cases record.argumentCount.toInt with
  | ofNat count =>
    have single : ∀ param ∈ (List.range count).map genericParam, param.kind.isVariadic = false := by
      intro param member
      obtain ⟨index, _, rfl⟩ := List.mem_map.1 member
      rfl
    have noVariadic : ((List.range count).map genericParam).any
        (fun param => param.kind.isVariadic) = false := by
      rw [List.any_eq_false]
      intro param member
      rw [single param member]
      exact Bool.false_ne_true
    have counted : ((List.range count).map genericParam).countP
        (fun param => !param.kind.isVariadic) = count := by
      rw [List.countP_eq_length.2 fun param member => by rw [single param member]; rfl,
        List.length_map, List.length_range]
    simp only [noVariadic, counted]
    rfl
  | negSucc count => rfl

namespace Binding

variable {H : Type}

/-- The entry of a binding next to the record for its opcode, if there is one. -/
def entry (binding : Binding H) (record? : Option Record) : Entry H where
  definition :=
    match record? with
    | some record => { binding.definition with notes := record.notes }
    | none => binding.definition
  handler? := some binding.handler

/-- A binding has an entry unless the entry that is already there counts other arguments. -/
theorem entryBeside_eq_ok_iff {binding : Binding H} {known? : Option (Entry H)} {entry : Entry H} :
    binding.entryBeside known? = .ok entry ↔
      (∀ known, known? = some known → known.definition.arity = binding.definition.arity) ∧
      entry = ⟨{ binding.definition with
        notes := (known?.map fun known => known.definition.notes).getD binding.definition.notes },
        some binding.handler⟩ := by
  unfold entryBeside
  cases known? with
  | none => simp [eq_comm]
  | some known =>
    by_cases same : known.definition.arity = binding.definition.arity
    · simp [same, eq_comm]
    · simp [same]

/-- An entry of a binding has the opcode, the parameters and the behaviour of the binding. -/
theorem entryBeside_eq_ok {binding : Binding H} {known? : Option (Entry H)} {entry : Entry H}
    (success : binding.entryBeside known? = .ok entry) :
    entry.definition.opcode = binding.definition.opcode ∧
      entry.definition.params = binding.definition.params ∧
      entry.handler? = some binding.handler := by
  obtain ⟨_, rfl⟩ := entryBeside_eq_ok_iff.1 success
  exact ⟨rfl, rfl, rfl⟩

/-- Each of several bindings with different opcodes only finds what was there before all of them. -/
theorem foldlM_enter {bindings : List (Binding H)}
    (distinct : bindings.Pairwise fun left right =>
      left.definition.opcode.key ≠ right.definition.opcode.key)
    {first entries : Table (Entry H)}
    (kept : ∀ binding ∈ bindings,
      entries.get? binding.definition.opcode.key = first.get? binding.definition.opcode.key) :
    bindings.foldlM enter entries = bindings.foldlM (fun entries binding =>
      binding.entryBeside (first.get? binding.definition.opcode.key) >>= fun entry =>
        pure (entries.insert binding.definition.opcode.key entry)) entries := by
  induction bindings generalizing entries with
  | nil => rfl
  | cons binding rest ih =>
    obtain ⟨apart, restDistinct⟩ := List.pairwise_cons.1 distinct
    obtain ⟨keptFirst, keptRest⟩ := List.forall_mem_cons.1 kept
    rw [List.foldlM_cons, List.foldlM_cons, enter, keptFirst]
    cases binding.entryBeside (first.get? binding.definition.opcode.key) with
    | error error => rfl
    | ok entry =>
      refine ih restDistinct fun later member => ?_
      rw [Table.get?_insert, if_neg (apart later member)]
      exact keptRest later member

end Binding

namespace Registry

variable {H : Type}

namespace Draft

variable {draft : Draft H} {property : Nat → Entry H → Prop}

theorem genericEntries_every
    (generic : ∀ record, property record.opcode.key ⟨draft.genericDefinition record, none⟩)
    (records : List Record) : (draft.genericEntries records).Every property := by
  unfold genericEntries
  suffices ∀ entries : Table (Entry H), entries.Every property → (records.foldl
      (fun entries record => entries.insert record.opcode.key ⟨draft.genericDefinition record, none⟩)
      entries).Every property by
    exact this _ Table.every_empty
  induction records with
  | nil => exact fun entries every => every
  | cons record rest ih => exact fun entries every => ih _ (every.insert (generic record))

/-- What is true of the entries of all records and bindings is true of the registry. -/
theorem build_every {registry : Registry H}
    (generic : ∀ record, property record.opcode.key ⟨draft.genericDefinition record, none⟩)
    (bound : ∀ binding ∈ draft.bindings.values, ∀ known? entry,
      binding.entryBeside known? = .ok entry → property binding.definition.opcode.key entry)
    (built : draft.build = .ok registry) : registry.entries.Every property := by
  obtain ⟨entries, folded, made⟩ := except_bind_eq_ok.1 built
  cases made
  refine foldlM_invariant (Table.Every property) (genericEntries_every generic _) ?_ folded
  intro binding member entries next every entered
  obtain ⟨entry, isEntry, inserted⟩ := except_bind_eq_ok.1 entered
  cases inserted
  exact every.insert (bound binding member _ entry isEntry)

/-- Every record and every binding of the draft stands under its own opcode. -/
structure Keyed (draft : Draft H) : Prop where
  records : draft.records.Every fun key record => record.opcode.key = key
  bindings : draft.bindings.Every fun key binding => binding.definition.opcode.key = key

/-- The draft has a binding. -/
def Binds (draft : Draft H) (binding : Binding H) : Prop :=
  draft.bindings.get? binding.definition.opcode.key = some binding

theorem keyed_empty : (empty : Draft H).Keyed := ⟨Table.every_empty, Table.every_empty⟩

theorem Keyed.bind {draft next : Draft H} {binding : Binding H} (keyed : draft.Keyed)
    (added : draft.bind binding = .ok next) : next.Keyed := by
  unfold Draft.bind at added
  split at added
  · cases added
  · cases added
    exact ⟨keyed.records, keyed.bindings.insert rfl⟩

theorem Keyed.bindAll {draft bound : Draft H} {bindings : List (Binding H)} (keyed : draft.Keyed)
    (success : draft.bindAll bindings = .ok bound) : bound.Keyed :=
  foldlM_invariant Keyed keyed (fun _ _ _ _ kept added => kept.bind added) success

theorem bind_eq_ok {draft next : Draft H} {binding : Binding H}
    (added : draft.bind binding = .ok next) :
    draft.bindings.get? binding.definition.opcode.key = none ∧
      next = { draft with
        bindings := draft.bindings.insert binding.definition.opcode.key binding } := by
  unfold Draft.bind at added
  split at added
  · cases added
  · next free =>
    cases added
    exact ⟨by simpa [Table.contains] using free, rfl⟩

theorem addRecord_eq_ok {draft next : Draft H} {record : Record}
    (added : draft.addRecord record = .ok next) :
    draft.records.get? record.opcode.key = none ∧
      next = { draft with records := draft.records.insert record.opcode.key record } := by
  unfold addRecord at added
  split at added
  · cases added
  · next free =>
    cases added
    exact ⟨by simpa [Table.contains] using free, rfl⟩

/-- A draft has the bindings that were added to it, and those from before. -/
theorem bindAll_get? {draft bound : Draft H} {bindings : List (Binding H)}
    (success : draft.bindAll bindings = .ok bound) {key : Nat} {binding : Binding H} :
    bound.bindings.get? key = some binding ↔
      (binding ∈ bindings ∧ binding.definition.opcode.key = key) ∨
        draft.bindings.get? key = some binding := by
  refine Table.foldlM_insert_get? Draft.bindings (fun binding => binding.definition.opcode.key) ?_
    success
  intro state item next added
  obtain ⟨free, rfl⟩ := bind_eq_ok added
  exact ⟨free, rfl⟩

/-- A draft has the records that were added to it, and those from before. -/
theorem addRecords_get? {draft longer : Draft H} {records : List Record}
    (success : draft.addRecords records = .ok longer) {key : Nat} {record : Record} :
    longer.records.get? key = some record ↔
      (record ∈ records ∧ record.opcode.key = key) ∨ draft.records.get? key = some record := by
  refine Table.foldlM_insert_get? Draft.records (fun record => record.opcode.key) ?_ success
  intro state item next added
  obtain ⟨free, rfl⟩ := addRecord_eq_ok added
  exact ⟨free, rfl⟩

/-- Bindings leave names and records alone. -/
theorem bindAll_rest {draft bound : Draft H} {bindings : List (Binding H)}
    (success : draft.bindAll bindings = .ok bound) :
    bound.names = draft.names ∧ bound.records = draft.records := by
  refine foldlM_invariant (fun later => later.names = draft.names ∧ later.records = draft.records)
    ⟨rfl, rfl⟩ ?_ success
  intro binding _ state next kept added
  obtain ⟨_, rfl⟩ := bind_eq_ok added
  exact kept

/-- Records leave the bindings alone. -/
theorem addRecords_bindings {draft longer : Draft H} {records : List Record}
    (success : draft.addRecords records = .ok longer) : longer.bindings = draft.bindings := by
  refine foldlM_invariant (fun later => later.bindings = draft.bindings) rfl ?_ success
  intro record _ state next kept added
  obtain ⟨_, rfl⟩ := addRecord_eq_ok added
  exact kept

/-- The entry of a binding beside the record for its opcode. -/
def boundEntry (draft : Draft H) (binding : Binding H) : Except Error (Entry H) :=
  binding.entryBeside ((draft.records.get? binding.definition.opcode.key).map fun record =>
    ⟨draft.genericDefinition record, none⟩)

/-- A binding has an entry unless the record for its opcode counts other arguments. -/
theorem boundEntry_eq_ok_iff {binding : Binding H} {entry : Entry H} :
    draft.boundEntry binding = .ok entry ↔
      (∀ record, draft.records.get? binding.definition.opcode.key = some record →
        record.arity = binding.definition.arity) ∧
      entry = binding.entry (draft.records.get? binding.definition.opcode.key) := by
  unfold boundEntry Binding.entry
  rw [Binding.entryBeside_eq_ok_iff]
  cases draft.records.get? binding.definition.opcode.key with
  | none => simp
  | some record =>
    have arity : (draft.genericDefinition record).arity = record.arity := record.arity_definition _
    have notes : (draft.genericDefinition record).notes = record.notes := rfl
    simp [arity, notes]

/-- The lists go through the records and the bindings of the draft, each of them once, in some
order. -/
structure Enumerates (draft : Draft H) (records : List Record) (bindings : List (Binding H)) :
    Prop where
  records : records.Perm draft.records.values
  bindings : bindings.Perm draft.bindings.values

theorem enumerates_values (draft : Draft H) :
    draft.Enumerates draft.records.values draft.bindings.values := ⟨.refl _, .refl _⟩

section InOrder

variable {records : List Record} {bindings : List (Binding H)} {registry : Registry H}
  (keyed : draft.Keyed) (enumerates : draft.Enumerates records bindings)
include keyed enumerates

/-- The records alone give every one of them its generic entry, and nothing else. -/
theorem Enumerates.genericEntries_get? (key : Nat) :
    (draft.genericEntries records).get? key =
      (draft.records.get? key).map fun record => ⟨draft.genericDefinition record, none⟩ := by
  let place (record : Record) : Nat := record.opcode.key
  let generic (record : Record) : Entry H := ⟨draft.genericDefinition record, none⟩
  have distinct : records.Pairwise fun left right => place left ≠ place right :=
    (Table.values_distinct place keyed.records).perm enumerates.records.symm Ne.symm
  refine Option.ext fun entry => ?_
  refine (Table.foldl_insert_get? place generic distinct).trans ?_
  rw [Option.map_eq_some_iff]
  constructor
  · rintro (⟨record, member, rfl, isEntry⟩ | ⟨_, impossible⟩)
    · have isValue := enumerates.records.mem_iff.1 member
      exact ⟨record, (Table.mem_values_iff place keyed.records).1 isValue, isEntry⟩
    · cases impossible
  · rintro ⟨record, found, isEntry⟩
    have member := enumerates.records.mem_iff.2 (Table.mem_values_of_get? found)
    exact Or.inl ⟨record, member, keyed.records key record found, isEntry⟩

theorem Enumerates.bindings_distinct : bindings.Pairwise fun left right =>
    left.definition.opcode.key ≠ right.definition.opcode.key :=
  (Table.values_distinct (fun binding => binding.definition.opcode.key) keyed.bindings).perm
    enumerates.bindings.symm Ne.symm

/-- Although every binding is entered beside what has been entered so far, it only finds the entry of
its record. -/
theorem Enumerates.buildInOrder_eq : draft.buildInOrder records bindings =
    bindings.foldlM (fun entries binding => draft.boundEntry binding >>= fun entry =>
      pure (entries.insert binding.definition.opcode.key entry)) (draft.genericEntries records) >>=
    fun entries => pure ⟨entries⟩ := by
  unfold buildInOrder boundEntry
  rw [Binding.foldlM_enter (enumerates.bindings_distinct keyed) fun _ _ => rfl]
  simp only [enumerates.genericEntries_get? keyed]

theorem Enumerates.buildInOrder_succeeds :
    (∃ registry, draft.buildInOrder records bindings = .ok registry) ↔
      ∀ binding ∈ draft.bindings.values, ∃ entry, draft.boundEntry binding = .ok entry := by
  simp only [← enumerates.bindings.mem_iff]
  rw [enumerates.buildInOrder_eq keyed, ← foldlM_make_succeeds]
  constructor
  · rintro ⟨registry, built⟩
    obtain ⟨entries, folded, _⟩ := except_bind_eq_ok.1 built
    exact ⟨entries, folded⟩
  · rintro ⟨entries, folded⟩
    exact ⟨⟨entries⟩, except_bind_eq_ok.2 ⟨entries, folded, rfl⟩⟩

/-- What stands under an opcode comes from the binding for it, or else from the record. -/
theorem Enumerates.buildInOrder_get? (built : draft.buildInOrder records bindings = .ok registry)
    {key : Nat} {entry : Entry H} :
    registry.entries.get? key = some entry ↔
      (∃ binding, draft.bindings.get? key = some binding ∧ draft.boundEntry binding = .ok entry) ∨
        draft.bindings.get? key = none ∧ ((draft.records.get? key).map fun record =>
          Entry.mk (draft.genericDefinition record) none) = some entry := by
  let place (binding : Binding H) : Nat := binding.definition.opcode.key
  rw [enumerates.buildInOrder_eq keyed] at built
  obtain ⟨entries, folded, made⟩ := except_bind_eq_ok.1 built
  cases made
  have bound {binding : Binding H} :
      binding ∈ bindings ∧ place binding = key ↔ draft.bindings.get? key = some binding := by
    rw [enumerates.bindings.mem_iff, Table.mem_values_iff place keyed.bindings]
    constructor
    · rintro ⟨found, rfl⟩
      exact found
    · intro found
      have isKey : place binding = key := keyed.bindings key binding found
      exact ⟨isKey ▸ found, isKey⟩
  refine (Table.foldlM_insert_made_get? place draft.boundEntry
    (enumerates.bindings_distinct keyed) folded).trans (or_congr ?_ (and_congr ?_ ?_))
  · simp only [← and_assoc, bound]
  · rw [Option.eq_none_iff_forall_ne_some]
    simp only [← bound, not_and, ne_eq]
  · rw [enumerates.genericEntries_get? keyed]

/-- Records and bindings may be gone through in any order. -/
theorem Enumerates.buildInOrder_of_ok {records' : List Record} {bindings' : List (Binding H)}
    (others : draft.Enumerates records' bindings')
    (built : draft.buildInOrder records bindings = .ok registry) :
    draft.buildInOrder records' bindings' = .ok registry := by
  obtain ⟨other, alsoBuilt⟩ := (others.buildInOrder_succeeds keyed).2
    ((enumerates.buildInOrder_succeeds keyed).1 ⟨registry, built⟩)
  have same : other.entries = registry.entries := Table.ext_get? fun key => Option.ext fun entry =>
    (others.buildInOrder_get? keyed alsoBuilt).trans (enumerates.buildInOrder_get? keyed built).symm
  rw [alsoBuilt]
  exact congrArg (fun entries => Except.ok (Registry.mk entries)) same

theorem Enumerates.buildInOrder_eq_ok_iff :
    draft.buildInOrder records bindings = .ok registry ↔ draft.build = .ok registry :=
  ⟨enumerates.buildInOrder_of_ok keyed draft.enumerates_values,
    draft.enumerates_values.buildInOrder_of_ok keyed enumerates⟩

end InOrder

/-- A registry has the entries of all bindings of its draft. -/
theorem Binds.build_entry? {draft : Draft H} (keyed : draft.Keyed) {binding : Binding H}
    (bound : draft.Binds binding) {registry : Registry H} (built : draft.build = .ok registry) :
    ∃ entry, draft.boundEntry binding = .ok entry ∧
      registry.entry? binding.definition.opcode = some entry := by
  obtain ⟨entry, isEntry⟩ := (draft.enumerates_values.buildInOrder_succeeds keyed).1
    ⟨registry, built⟩ binding (Table.mem_values_of_get? bound)
  exact ⟨entry, isEntry,
    (draft.enumerates_values.buildInOrder_get? keyed built).2 (Or.inl ⟨binding, bound, isEntry⟩)⟩

/-- Without a binding, an opcode has the entry of its record, if it has a record. -/
theorem Keyed.build_entry?_of_unbound {draft : Draft H} (keyed : draft.Keyed) {opcode : Opcode}
    (unbound : draft.bindings.get? opcode.key = none) {registry : Registry H}
    (built : draft.build = .ok registry) :
    registry.entry? opcode = (draft.records.get? opcode.key).map fun record =>
      ⟨draft.genericDefinition record, none⟩ := by
  refine Option.ext fun entry => ?_
  refine (draft.enumerates_values.buildInOrder_get? keyed built).trans ?_
  rw [unbound]
  simp

end Draft

/-- A definition that was found for an opcode names that opcode. -/
theorem definition?_opcode {draft : Draft H} {registry : Registry H}
    (built : draft.build = .ok registry) {opcode : Opcode} {definition : Definition}
    (found : registry.definition? opcode = some definition) : definition.opcode = opcode := by
  have keyed : registry.entries.Every fun key entry => entry.definition.opcode.key = key := by
    refine Draft.build_every (fun record => rfl) ?_ built
    intro binding _ _ entry isEntry
    rw [(Binding.entryBeside_eq_ok isEntry).1]
  obtain ⟨entry, inTable, rfl⟩ := Option.map_eq_some_iff.1 found
  exact Opcode.key_injective (keyed opcode.key entry inTable)

end Registry

end MissionScript
