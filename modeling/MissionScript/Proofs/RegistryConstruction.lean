import MissionScript.Proofs.Registries

/-!
# What a registry is made of

A registry is built from names, records and bindings. Each of the three is kept in a table of its own
until the end, and tables do not remember in which order they were filled. So a draft is determined by
what it holds (`Registry.Draft.Holds.unique`), and with it the registry: the order of records and of
bindings matters neither to whether a registry can be built nor to the registry itself. Nor does the
order in which the tables of the draft are gone through when the registry is built.

What stands under an opcode comes from the record and the binding for this opcode and from nothing
else. `Registry.Gathers` says what that is, without reference to how the registry was built.

Results:
1. `Registry.Draft.ofSources_succeeds` and `Registry.Draft.holds_of_ofSources`: when there is a draft
   of the sources, and what it holds.
2. `Registry.Draft.Holds.build_succeeds`: bindings and records must agree about arities.
3. `registry_gathers_sources`: when a registry can be built, that order does not matter, and what the
   registry then knows.
-/

namespace MissionScript

/-! ## 1. Words -/

/-- A word is taken apart into its fifteen lower bits and the bit above them. -/
theorem Opcode.split_eq_bits (raw : UInt16) :
    Opcode.split raw = (⟨raw &&& 0x7FFF⟩, raw.toNat.testBit 15) := by
  have bound := raw.toNat_lt
  have lower : raw % negationBit = raw &&& 0x7FFF := by
    apply UInt16.toNat_inj.1
    rw [UInt16.toNat_mod, UInt16.toNat_and]
    exact (Nat.and_two_pow_sub_one_eq_mod raw.toNat 15).symm
  have upper : decide (negationBit ≤ raw) = raw.toNat.testBit 15 := by
    rw [Nat.testBit_eq_decide_div_mod_eq, decide_eq_decide, UInt16.le_iff_toNat_le]
    show 32768 ≤ raw.toNat ↔ raw.toNat / 32768 % 2 = 1
    omega
  rw [split, lower, upper]

namespace Registry

variable {H : Type}

/-! ## 2. Sources -/

/-- The draft of a table of names, a list of records and a list of bindings. -/
def Draft.ofSources (names : Table String) (records : List Record) (bindings : List (Binding H)) :
    Except Error (Draft H) := do
  let catalogued ← (Draft.empty.addNames names).addRecords records
  catalogued.bindAll bindings

/-- The registry of a table of names, a list of records and a list of bindings. -/
def ofSources (names : Table String) (records : List Record) (bindings : List (Binding H)) :
    Except Error (Registry H) := do
  let draft ← Draft.ofSources names records bindings
  draft.build

/-- Records and bindings do not contradict each other: none of either kind is there twice, and a
binding counts the arguments that the record for its opcode counts. -/
structure Consistent (records : List Record) (bindings : List (Binding H)) : Prop where
  distinctRecords : (records.map Record.opcode).Nodup
  distinctBindings : (bindings.map fun binding => binding.definition.opcode).Nodup
  arities : ∀ record ∈ records, ∀ binding ∈ bindings, record.opcode = binding.definition.opcode →
    record.arity = binding.definition.arity

/-- A registry knows what the sources say, and nothing else. -/
structure Gathers (registry : Registry H) (names : Table String) (records : List Record)
    (bindings : List (Binding H)) : Prop where
  /-- The opcodes are those of the records and those of the bindings. -/
  domain : ∀ key, registry.entries.contains key = true ↔
    (∃ record ∈ records, record.opcode.key = key) ∨
      ∃ binding ∈ bindings, binding.definition.opcode.key = key
  opcode : ∀ opcode definition, registry.definition? opcode = some definition →
    definition.opcode = opcode
  isBound : ∀ opcode, registry.isBound opcode = true ↔
    ∃ binding ∈ bindings, binding.definition.opcode = opcode
  /-- A binding for an opcode with a record takes over the notes of the record. -/
  refined : ∀ binding ∈ bindings, ∀ record ∈ records, record.opcode = binding.definition.opcode →
    registry.entry? binding.definition.opcode =
      some ⟨{ binding.definition with notes := record.notes }, some binding.handler⟩
  /-- Without a record, the definition of a binding stays as it is. -/
  unrefined : ∀ binding ∈ bindings, (∀ record ∈ records, record.opcode ≠ binding.definition.opcode) →
    registry.entry? binding.definition.opcode = some ⟨binding.definition, some binding.handler⟩
  /-- Without a binding, a record has its generic definition, under the name for its opcode in lower
  case, or under its opcode when there is no name. -/
  generic : ∀ record ∈ records, (∀ binding ∈ bindings, binding.definition.opcode ≠ record.opcode) →
    registry.entry? record.opcode = some ⟨{ record.definition none with
      symbol := match names.get? record.opcode.key with
        | some name => Text.lower name
        | none => "opcode_" ++ record.opcode.text }, none⟩
  /-- A word is looked up by its fifteen lower bits; the bit above them says whether it is negated. -/
  lookup : ∀ raw : UInt16, registry.lookup? raw =
    (registry.definition? ⟨raw &&& 0x7FFF⟩).map fun definition => (definition, raw.toNat.testBit 15)

namespace Draft

/-- The draft has these names, records and bindings, each under its opcode. -/
structure Holds (draft : Draft H) (names : Table String) (records : List Record)
    (bindings : List (Binding H)) : Prop where
  names : draft.names = names
  records : ∀ key record, draft.records.get? key = some record ↔
    record ∈ records ∧ record.opcode.key = key
  bindings : ∀ key binding, draft.bindings.get? key = some binding ↔
    binding ∈ bindings ∧ binding.definition.opcode.key = key

variable {draft : Draft H} {names : Table String} {records : List Record}
  {bindings : List (Binding H)}

/-- What a draft holds determines the draft. -/
theorem Holds.unique {other : Draft H} (holds : draft.Holds names records bindings)
    (otherHolds : other.Holds names records bindings) : draft = other := by
  have sameNames : draft.names = other.names := holds.names.trans otherHolds.names.symm
  have sameRecords : draft.records = other.records :=
    Table.ext_get? fun key => Option.ext fun record =>
      (holds.records key record).trans (otherHolds.records key record).symm
  have sameBindings : draft.bindings = other.bindings :=
    Table.ext_get? fun key => Option.ext fun binding =>
      (holds.bindings key binding).trans (otherHolds.bindings key binding).symm
  cases draft
  cases other
  simp only at sameNames sameRecords sameBindings
  rw [sameNames, sameRecords, sameBindings]

/-- The order of records and bindings is not held. -/
theorem Holds.perm {records' : List Record} {bindings' : List (Binding H)}
    (holds : draft.Holds names records bindings) (sameRecords : records'.Perm records)
    (sameBindings : bindings'.Perm bindings) : draft.Holds names records' bindings' where
  names := holds.names
  records key record := by rw [holds.records, sameRecords.mem_iff]
  bindings key binding := by rw [holds.bindings, sameBindings.mem_iff]

theorem Holds.keyed (holds : draft.Holds names records bindings) : draft.Keyed where
  records key record found := ((holds.records key record).1 found).2
  bindings key binding found := ((holds.bindings key binding).1 found).2

/-- In an empty draft, the names that are added are all the names. -/
theorem empty_addNames (names : Table String) : (empty.addNames names : Draft H).names = names := by
  have distinct : names.entries.Pairwise fun left right => left.1 ≠ right.1 :=
    names.ascending.imp fun less => Nat.ne_of_lt less
  refine Table.ext_get? fun key => Option.ext fun name => ?_
  refine (Table.foldl_insert_get? Prod.fst Prod.snd distinct).trans ?_
  constructor
  · rintro (⟨entry, member, rfl, rfl⟩ | ⟨_, impossible⟩)
    · exact Table.find_of_mem names.ascending member
    · cases impossible
  · intro found
    exact Or.inl ⟨(key, name), Table.mem_of_find found, rfl, rfl⟩

theorem addRecords_succeeds :
    (∃ longer, draft.addRecords records = .ok longer) ↔
      (records.Pairwise fun left right => left.opcode.key ≠ right.opcode.key) ∧
        ∀ record ∈ records, draft.records.get? record.opcode.key = none := by
  refine Table.foldlM_insert_succeeds Draft.records (fun record => record.opcode.key) ?_ ?_
  · intro state record next added
    obtain ⟨free, rfl⟩ := addRecord_eq_ok added
    exact ⟨free, rfl⟩
  · intro state record free
    simp only [addRecord, Table.contains, free, Option.isSome_none, Bool.false_eq_true, if_false]
    exact ⟨_, rfl⟩

theorem bindAll_succeeds :
    (∃ bound, draft.bindAll bindings = .ok bound) ↔
      (bindings.Pairwise fun left right => left.definition.opcode.key ≠ right.definition.opcode.key) ∧
        ∀ binding ∈ bindings, draft.bindings.get? binding.definition.opcode.key = none := by
  refine Table.foldlM_insert_succeeds Draft.bindings (fun binding => binding.definition.opcode.key) ?_ ?_
  · intro state binding next added
    obtain ⟨free, rfl⟩ := bind_eq_ok added
    exact ⟨free, rfl⟩
  · intro state binding free
    simp only [bind, Table.contains, free, Option.isSome_none, Bool.false_eq_true, if_false]
    exact ⟨_, rfl⟩

/-- A draft of the sources holds them. -/
theorem holds_of_ofSources (success : ofSources names records bindings = .ok draft) :
    draft.Holds names records bindings := by
  obtain ⟨catalogued, filled, extended⟩ := except_bind_eq_ok.1 success
  refine ⟨?_, fun key record => ?_, fun key binding => ?_⟩
  · have kept : catalogued.names = (empty.addNames names : Draft H).names := by
      refine foldlM_invariant (fun later => later.names = (empty.addNames names : Draft H).names) rfl
        ?_ filled
      intro record _ state next same added
      obtain ⟨_, rfl⟩ := addRecord_eq_ok added
      exact same
    rw [(bindAll_rest extended).1, kept, empty_addNames]
  · rw [(bindAll_rest extended).2, addRecords_get? filled]
    exact or_iff_left fun impossible => by cases impossible
  · rw [bindAll_get? extended, addRecords_bindings filled]
    exact or_iff_left fun impossible => by cases impossible

/-- There is a draft of the sources when no opcode comes twice among the records or among the
bindings. -/
theorem ofSources_succeeds :
    (∃ draft : Draft H, ofSources names records bindings = .ok draft) ↔
      (records.map Record.opcode).Nodup ∧
        (bindings.map fun binding => binding.definition.opcode).Nodup := by
  have keysDiffer {left right : Opcode} : left.key ≠ right.key ↔ left ≠ right :=
    not_congr ⟨Opcode.key_injective, congrArg Opcode.key⟩
  simp only [List.Nodup, List.pairwise_map, ← keysDiffer]
  constructor
  · rintro ⟨draft, success⟩
    obtain ⟨catalogued, filled, extended⟩ := except_bind_eq_ok.1 success
    exact ⟨(addRecords_succeeds.1 ⟨catalogued, filled⟩).1, (bindAll_succeeds.1 ⟨draft, extended⟩).1⟩
  · rintro ⟨recordsDiffer, bindingsDiffer⟩
    have noRecord (key : Nat) : (empty.addNames names : Draft H).records.get? key = none := rfl
    obtain ⟨catalogued, filled⟩ := addRecords_succeeds.2 ⟨recordsDiffer, fun record _ => noRecord _⟩
    have noBinding (key : Nat) : catalogued.bindings.get? key = none := by
      rw [addRecords_bindings filled]
      rfl
    obtain ⟨draft, extended⟩ := bindAll_succeeds.2 ⟨bindingsDiffer, fun binding _ => noBinding _⟩
    exact ⟨draft, except_bind_eq_ok.2 ⟨catalogued, filled, extended⟩⟩

/-- A draft that holds the sources, without an opcode that comes twice, is their draft. -/
theorem Holds.ofSources_eq (holds : draft.Holds names records bindings)
    (distinctRecords : (records.map Record.opcode).Nodup)
    (distinctBindings : (bindings.map fun binding => binding.definition.opcode).Nodup) :
    ofSources names records bindings = .ok draft := by
  obtain ⟨other, success⟩ := ofSources_succeeds.2 ⟨distinctRecords, distinctBindings⟩
  rw [success, (holds_of_ofSources success).unique holds]

/-! ## 3. Entries -/

/-- A registry can be built from what a draft holds when no binding contradicts a record. -/
theorem Holds.build_succeeds (holds : draft.Holds names records bindings) :
    (∃ registry, draft.build = .ok registry) ↔
      ∀ record ∈ records, ∀ binding ∈ bindings, record.opcode = binding.definition.opcode →
        record.arity = binding.definition.arity := by
  rw [build, draft.enumerates_values.buildInOrder_succeeds holds.keyed]
  constructor
  · intro bound record isRecord binding isBinding same
    have held := (holds.bindings _ binding).2 ⟨isBinding, rfl⟩
    obtain ⟨entry, isEntry⟩ := bound binding (Table.mem_values_of_get? held)
    refine (boundEntry_eq_ok_iff.1 isEntry).1 record ?_
    exact (holds.records _ record).2 ⟨isRecord, congrArg Opcode.key same⟩
  · intro arities binding member
    obtain ⟨key, held⟩ := Table.get?_of_mem_values member
    refine ⟨_, boundEntry_eq_ok_iff.2 ⟨fun record found => ?_, rfl⟩⟩
    obtain ⟨isRecord, sameKey⟩ := (holds.records _ record).1 found
    exact arities record isRecord binding ((holds.bindings key binding).1 held).1
      (Opcode.key_injective sameKey)

section Built

variable {registry : Registry H}

theorem Holds.entry?_of_binding (holds : draft.Holds names records bindings)
    (built : draft.build = .ok registry) {binding : Binding H} (member : binding ∈ bindings) :
    registry.entry? binding.definition.opcode =
      some (binding.entry (draft.records.get? binding.definition.opcode.key)) := by
  have isBound : draft.Binds binding := (holds.bindings _ binding).2 ⟨member, rfl⟩
  obtain ⟨entry, isEntry, found⟩ := isBound.build_entry? holds.keyed built
  obtain ⟨_, rfl⟩ := boundEntry_eq_ok_iff.1 isEntry
  exact found

theorem Holds.entry?_of_unbound (holds : draft.Holds names records bindings)
    (built : draft.build = .ok registry) {opcode : Opcode}
    (unbound : ∀ binding ∈ bindings, binding.definition.opcode ≠ opcode) :
    registry.entry? opcode =
      (draft.records.get? opcode.key).map fun record => ⟨draft.genericDefinition record, none⟩ := by
  have free : draft.bindings.get? opcode.key = none := by
    refine Option.eq_none_iff_forall_ne_some.2 fun binding held => ?_
    obtain ⟨member, sameKey⟩ := (holds.bindings _ binding).1 held
    exact unbound binding member (Opcode.key_injective sameKey)
  exact holds.keyed.build_entry?_of_unbound free built

/-- Every key of a registry is the key of an opcode. -/
theorem exists_key_of_contains (built : draft.build = .ok registry) {key : Nat}
    (present : registry.entries.contains key = true) : ∃ opcode : Opcode, opcode.key = key := by
  have keys : registry.entries.Every fun key _ => ∃ opcode : Opcode, opcode.key = key :=
    build_every (fun record => ⟨record.opcode, rfl⟩)
      (fun binding _ _ _ _ => ⟨binding.definition.opcode, rfl⟩) built
  obtain ⟨entry, found⟩ := Option.isSome_iff_exists.1 present
  exact keys key entry found

/-- A registry knows what its draft holds. -/
theorem Holds.gathers (holds : draft.Holds names records bindings)
    (built : draft.build = .ok registry) : registry.Gathers names records bindings where
  domain key := by
    constructor
    · intro present
      obtain ⟨opcode, rfl⟩ := exists_key_of_contains built present
      by_cases bound : ∃ binding ∈ bindings, binding.definition.opcode = opcode
      · obtain ⟨binding, member, same⟩ := bound
        exact Or.inr ⟨binding, member, congrArg Opcode.key same⟩
      · -- Nothing is bound to the opcode, so the entry is that of a record.
        have unbound : ∀ binding ∈ bindings, binding.definition.opcode ≠ opcode :=
          fun binding member same => bound ⟨binding, member, same⟩
        have generic := holds.entry?_of_unbound built unbound
        obtain ⟨entry, found⟩ := Option.isSome_iff_exists.1 present
        obtain ⟨record, held, _⟩ := Option.map_eq_some_iff.1 (generic.symm.trans found)
        exact Or.inl ⟨record, (holds.records _ record).1 held⟩
    · intro known
      by_cases bound : ∃ binding ∈ bindings, binding.definition.opcode.key = key
      · obtain ⟨binding, member, rfl⟩ := bound
        exact Option.isSome_iff_exists.2 ⟨_, holds.entry?_of_binding built member⟩
      · obtain ⟨record, member, rfl⟩ := known.resolve_right bound
        have generic := holds.entry?_of_unbound built fun binding isBinding same =>
          bound ⟨binding, isBinding, congrArg Opcode.key same⟩
        rw [(holds.records _ record).2 ⟨member, rfl⟩] at generic
        exact Option.isSome_iff_exists.2 ⟨_, generic⟩
  opcode _ _ := definition?_opcode built
  isBound opcode := by
    by_cases bound : ∃ binding ∈ bindings, binding.definition.opcode = opcode
    · obtain ⟨binding, member, rfl⟩ := bound
      refine iff_of_true ?_ ⟨binding, member, rfl⟩
      rw [Registry.isBound, holds.entry?_of_binding built member]
      rfl
    · refine iff_of_false ?_ bound
      rw [Registry.isBound, holds.entry?_of_unbound built fun binding member same =>
        bound ⟨binding, member, same⟩]
      cases draft.records.get? opcode.key <;> exact Bool.false_ne_true
  refined binding isBinding record isRecord same := by
    rw [holds.entry?_of_binding built isBinding,
      (holds.records _ record).2 ⟨isRecord, congrArg Opcode.key same⟩]
    rfl
  unrefined binding isBinding absent := by
    have free : draft.records.get? binding.definition.opcode.key = none := by
      refine Option.eq_none_iff_forall_ne_some.2 fun record held => ?_
      obtain ⟨member, sameKey⟩ := (holds.records _ record).1 held
      exact absent record member (Opcode.key_injective sameKey)
    rw [holds.entry?_of_binding built isBinding, free]
    rfl
  generic record isRecord unbound := by
    rw [holds.entry?_of_unbound built unbound, (holds.records _ record).2 ⟨isRecord, rfl⟩]
    simp only [genericDefinition, holds.names, Option.map_some]
    cases names.get? record.opcode.key <;> rfl
  lookup raw := by rw [lookup?, Opcode.split_eq_bits]

end Built

end Draft

variable {names : Table String} {records : List Record} {bindings : List (Binding H)}
  {registry : Registry H}

/-- When there is a registry of the sources. -/
theorem ofSources_succeeds :
    (∃ registry : Registry H, ofSources names records bindings = .ok registry) ↔
      Consistent records bindings := by
  constructor
  · rintro ⟨registry, success⟩
    obtain ⟨draft, drafted, built⟩ := except_bind_eq_ok.1 success
    obtain ⟨distinctRecords, distinctBindings⟩ := Draft.ofSources_succeeds.1 ⟨draft, drafted⟩
    have holds := Draft.holds_of_ofSources drafted
    exact ⟨distinctRecords, distinctBindings, holds.build_succeeds.1 ⟨registry, built⟩⟩
  · rintro ⟨distinctRecords, distinctBindings, arities⟩
    obtain ⟨draft, drafted⟩ := Draft.ofSources_succeeds.2 ⟨distinctRecords, distinctBindings⟩
    have holds : draft.Holds names records bindings := Draft.holds_of_ofSources drafted
    obtain ⟨registry, built⟩ := holds.build_succeeds.2 arities
    exact ⟨registry, except_bind_eq_ok.2 ⟨draft, drafted, built⟩⟩

/-- The same sources in another order give the same registry. -/
theorem ofSources_perm {records' : List Record} {bindings' : List (Binding H)}
    (sameRecords : records'.Perm records) (sameBindings : bindings'.Perm bindings)
    (success : ofSources names records bindings = .ok registry) :
    ofSources names records' bindings' = .ok registry := by
  obtain ⟨draft, drafted, built⟩ := except_bind_eq_ok.1 success
  obtain ⟨distinctRecords, distinctBindings⟩ := Draft.ofSources_succeeds.1 ⟨draft, drafted⟩
  have holds := (Draft.holds_of_ofSources drafted).perm sameRecords sameBindings
  have again := holds.ofSources_eq ((sameRecords.map _).nodup_iff.2 distinctRecords)
    ((sameBindings.map _).nodup_iff.2 distinctBindings)
  exact except_bind_eq_ok.2 ⟨draft, again, built⟩

end Registry

/-- What a registry is made of. There is a registry for a table of names, a list of records and a list
of bindings exactly when no two records and no two bindings have the same opcode and wherever a record
and a binding do, their arities agree. Records and bindings in another order give the same registry, or
none if there was none; and so it does not matter either in which order the records and the bindings of
the draft are gone through in the end. A registry knows the opcodes of records and bindings and no
others, and what it knows about them is what `Registry.Gathers` lists. -/
theorem registry_gathers_sources {H : Type} (names : Table String) (records : List Record)
    (bindings : List (Binding H)) :
    ((∃ registry, Registry.ofSources names records bindings = .ok registry) ↔
      Registry.Consistent records bindings) ∧
    (∀ records' bindings', records'.Perm records → bindings'.Perm bindings →
      ∀ registry, Registry.ofSources names records' bindings' = .ok registry ↔
        Registry.ofSources names records bindings = .ok registry) ∧
    (∀ draft, Registry.Draft.ofSources names records bindings = .ok draft →
      ∀ records' bindings', draft.Enumerates records' bindings' →
        ∀ registry, draft.buildInOrder records' bindings' = .ok registry ↔
          Registry.ofSources names records bindings = .ok registry) ∧
    ∀ registry, Registry.ofSources names records bindings = .ok registry →
      registry.Gathers names records bindings := by
  refine ⟨Registry.ofSources_succeeds, ?_, ?_, ?_⟩
  · intro records' bindings' sameRecords sameBindings registry
    exact ⟨Registry.ofSources_perm sameRecords.symm sameBindings.symm,
      Registry.ofSources_perm sameRecords sameBindings⟩
  · intro draft drafted records' bindings' enumerates registry
    have keyed := (Registry.Draft.holds_of_ofSources drafted).keyed
    rw [enumerates.buildInOrder_eq_ok_iff keyed, Registry.ofSources, drafted]
    exact Iff.rfl
  · intro registry success
    obtain ⟨draft, drafted, built⟩ := except_bind_eq_ok.1 success
    exact (Registry.Draft.holds_of_ofSources drafted).gathers built

namespace RegistryExample

/-- A record with variable arguments, and one with two arguments. -/
def records : List Record := [⟨⟨0x0A00⟩, -1, "show things"⟩, ⟨⟨0x0A01⟩, 2, "do a thing"⟩]

/-- A name for the second record, and one for an opcode without a record. -/
def names : Table String := (Table.empty.insert 0x0A01 "DO_THING").insert 0x0A02 "REST"

/-- A definition that refines the first record. -/
def shows : Definition := ⟨⟨0x0A00⟩, "show", [⟨"things", .variadic .var⟩], ""⟩

/-- A definition for an opcode without a record. -/
def rests : Definition := ⟨⟨0x0A02⟩, "rest", [], "own notes"⟩

def bindings : List (Binding Nat) := [⟨shows, 1⟩, ⟨rests, 2⟩]

end RegistryExample

open RegistryExample in
/-- Two records and two bindings, one of them for the same opcode, give one registry in both orders. It
knows three opcodes. The bound ones have the definitions of their bindings, one of them with the notes
of its record; the other one has a generic definition and is found by its negated word. -/
theorem both_orders_gather :
    Registry.Consistent records bindings ∧ ∃ registry,
      Registry.ofSources names records bindings = .ok registry ∧
      Registry.ofSources names records.reverse bindings.reverse = .ok registry ∧
      registry.entry? ⟨0x0A00⟩ = some ⟨{ shows with notes := "show things" }, some 1⟩ ∧
      registry.entry? ⟨0x0A02⟩ = some ⟨rests, some 2⟩ ∧
      registry.lookup? 0x8A01 =
        some (⟨⟨0x0A01⟩, "do_thing", [genericParam 0, genericParam 1], "do a thing"⟩, true) ∧
      registry.isBound ⟨0x0A01⟩ = false ∧ registry.entries.contains 0x8A01 = false := by
  have consistent : Registry.Consistent records bindings := ⟨by decide, by decide, by decide⟩
  obtain ⟨succeeds, anyOrder, _, gathers⟩ := registry_gathers_sources names records bindings
  obtain ⟨registry, success⟩ := succeeds.2 consistent
  have holds := gathers registry success
  have again := (anyOrder records.reverse bindings.reverse records.reverse_perm
    bindings.reverse_perm registry).2 success
  refine ⟨consistent, registry, success, again, ?_, ?_, ?_, ?_, ?_⟩
  · exact holds.refined ⟨shows, 1⟩ List.mem_cons_self _ List.mem_cons_self rfl
  · exact holds.unrefined ⟨rests, 2⟩ (List.mem_cons_of_mem _ List.mem_cons_self) (by decide)
  · have generic := holds.generic _ (List.mem_cons_of_mem _ List.mem_cons_self) (by decide)
    have known := congrArg (Option.map Entry.definition) generic
    have isWord : (0x8A01 &&& 0x7FFF : UInt16) = 0x0A01 := by decide
    rw [holds.lookup 0x8A01, isWord, Registry.definition?, known]
    decide +kernel
  · rw [Bool.eq_false_iff, Ne, holds.isBound]
    decide
  · rw [Bool.eq_false_iff, Ne, holds.domain]
    decide

end MissionScript
