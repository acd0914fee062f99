import MissionScript.Proofs.Grammar

/-!
# Bindings that refine records

A binding takes the place of a catalogue record with the same opcode. Scripts were written for the
record, so the binding must not change how their bytes are read. What the decoder sees of a list of
parameters is its shape: which of them are variadic, in order. Building a registry compares less than
that, the arities. They count single parameters and say whether there is a variadic one, and not how
many there are.

The gap is exactly there. A record without variable arguments has no variadic parameter, and neither
has a binding with its arity; a record with variable arguments has one and nothing else, and a binding
with its arity has one or more. Every variadic parameter takes an end marker, so one too many asks for
a marker that scripts do not have.

Results:
1. `decodeParams_of_shape`: parameters of one shape read the same arguments.
2. `Definition.shape_eq_iff_of_arity`: when the arity tells the shape.
3. `refinement_reads_alike`: which bindings leave the encoding of a record as it was.
-/

namespace MissionScript

/-! ## 1. Shapes -/

/-- What the decoder sees of a definition: for each parameter, whether it is variadic. -/
def Definition.shape (definition : Definition) : List Bool :=
  definition.params.map fun param => param.kind.isVariadic

/-- The number of variadic parameters. -/
def Definition.variadics (definition : Definition) : Nat := definition.shape.count true

/-- Names and constraints of parameters do not matter to the decoder. -/
theorem decodeParams_of_shape {left right : List Param}
    (same : left.map (fun param => param.kind.isVariadic) =
      right.map fun param => param.kind.isVariadic) (memory : Memory) (address : Nat) :
    decodeParams memory left address = decodeParams memory right address := by
  induction left generalizing right address with
  | nil =>
    cases right with
    | nil => rfl
    | cons param rest => cases same
  | cons param rest ih =>
    cases right with
    | nil => cases same
    | cons other others =>
      obtain ⟨sameKind, sameRest⟩ := List.cons.inj same
      obtain ⟨name, kind⟩ := param
      obtain ⟨otherName, otherKind⟩ := other
      cases kind with
      | single constraint =>
        cases otherKind with
        | single otherConstraint => simp only [decodeParams, ih sameRest]
        | variadic otherConstraint => cases sameKind
      | variadic constraint =>
        cases otherKind with
        | single otherConstraint => cases sameKind
        | variadic otherConstraint => simp only [decodeParams, ih sameRest]

/-- Every parameter takes at least one argument. -/
theorem Splits.length_le {params : List Param} {args : List Argument} (splits : Splits params args) :
    params.length ≤ args.length := by
  induction splits with
  | nil => exact Nat.le_refl 0
  | single _ _ ih => exact Nat.succ_le_succ ih
  | variadic _ _ _ ih =>
    rw [List.length_append, List.length_cons, List.length_cons]
    exact Nat.le_trans (Nat.succ_le_succ ih) (Nat.le_add_left _ _)

/-- Where every parameter takes one argument only, a variadic one takes its end marker. -/
theorem Splits.map_isEnd {params : List Param} {args : List Argument} (splits : Splits params args)
    (short : args.length ≤ params.length) :
    args.map Argument.isEnd = params.map fun param => param.kind.isVariadic := by
  induction splits with
  | nil => rfl
  | single notEnd _ ih =>
    rw [List.map_cons, List.map_cons, notEnd, ih (Nat.le_of_succ_le_succ short)]
    rfl
  | @variadic _ _ params taken marker args _ isMarker splits ih =>
    have restLength := splits.length_le
    simp only [List.length_append, List.length_cons] at short
    obtain rfl : taken = [] := List.length_eq_zero_iff.1 (by omega)
    rw [List.nil_append, List.map_cons, List.map_cons, isMarker, ih (by omega)]
    rfl

/-- The shortest argument that a parameter can take. -/
def Param.shortest (param : Param) : Argument :=
  if param.kind.isVariadic then ⟨.endMarker, []⟩ else ⟨.int8, [0]⟩

theorem Param.isEnd_shortest (param : Param) : param.shortest.isEnd = param.kind.isVariadic := by
  unfold shortest
  cases param.kind.isVariadic <;> rfl

theorem Param.wellFormed_shortest (param : Param) : param.shortest.WellFormed := by
  unfold shortest
  cases param.kind.isVariadic <;> exact ⟨rfl, rfl⟩

theorem splits_map_shortest (params : List Param) : Splits params (params.map Param.shortest) := by
  induction params with
  | nil => exact .nil
  | cons param rest ih =>
    obtain ⟨name, kind⟩ := param
    cases kind with
    | single constraint => exact .single rfl ih
    | variadic constraint =>
      show Splits _ ([] ++ _ :: _)
      exact .variadic (List.forall_mem_nil _) rfl ih

namespace Registry

variable {H : Type} {left right : Registry H} {leftDefinition rightDefinition : Definition}
  {word : UInt16}

/-- The two registries read every instruction that starts with a word alike. -/
def ReadAlike (left right : Registry H) (word : UInt16) : Prop :=
  ∀ (memory : Memory) (address : Nat), memory.readUInt16 address = .ok word →
    left.decode memory address = right.decode memory address

theorem decode_of_word {registry : Registry H} {definition : Definition}
    (known : registry.definition? (Opcode.split word).1 = some definition) {memory : Memory}
    {address : Nat} (isWord : memory.readUInt16 address = .ok word) :
    registry.decode memory address =
      (decodeParams memory definition.params (address + Opcode.width)).map fun args =>
        { address, opcode := definition.opcode, negated := (Opcode.split word).2, args } := by
  have found := lookup?_eq_some_iff.2 ⟨known, rfl⟩
  simp only [decode, isWord, found]

/-- An instruction with the shortest arguments for one definition, which the other definition reads as
well: the other one has no more parameters. -/
theorem ReadAlike.splits_shortest (alike : left.ReadAlike right word)
    (isLeft : left.definition? (Opcode.split word).1 = some leftDefinition)
    (isRight : right.definition? (Opcode.split word).1 = some rightDefinition) :
    Splits rightDefinition.params (leftDefinition.params.map Param.shortest) := by
  let args := leftDefinition.params.map Param.shortest
  let memory := Memory.ofBytes (toLittleEndian 2 word.toNat ++ args.flatMap Argument.bytes).toArray
  have holds := Memory.holds_ofBytes (toLittleEndian 2 word.toNat ++ args.flatMap Argument.bytes)
  rw [Memory.holds_append, length_toLittleEndian] at holds
  have isWord : memory.readUInt16 0 = .ok word := Memory.readUInt16_eq_ok_iff.2 holds.1
  have wellFormed : ∀ argument ∈ args, argument.WellFormed := by
    intro argument member
    obtain ⟨param, _, rfl⟩ := List.mem_map.1 member
    exact param.wellFormed_shortest
  have decoded := decodeParams_complete (splits_map_shortest leftDefinition.params) wellFormed holds.2
  have same := alike memory 0 isWord
  rw [decode_of_word isLeft isWord, decode_of_word isRight isWord, Opcode.width, decoded] at same
  obtain ⟨found, isFound, sameInstruction⟩ := except_map_eq_ok.1 same.symm
  obtain rfl : found = args := congrArg Instruction.args sameInstruction
  exact (decodeParams_sound isFound).1

/-- Two definitions of one opcode read everything alike exactly when they have the same shape. -/
theorem readAlike_iff_shape_eq
    (isLeft : left.definition? (Opcode.split word).1 = some leftDefinition)
    (isRight : right.definition? (Opcode.split word).1 = some rightDefinition)
    (sameOpcode : leftDefinition.opcode = rightDefinition.opcode) :
    left.ReadAlike right word ↔ leftDefinition.shape = rightDefinition.shape := by
  constructor
  · intro alike
    have toRight := alike.splits_shortest isLeft isRight
    have toLeft := ReadAlike.splits_shortest (fun memory address isWord =>
      (alike memory address isWord).symm) isRight isLeft
    have short := toLeft.length_le
    rw [List.length_map] at short
    have ends := toRight.map_isEnd (by rw [List.length_map]; exact short)
    rw [List.map_map] at ends
    refine Eq.trans (List.map_congr_left fun param _ => ?_) ends
    exact param.isEnd_shortest.symm
  · intro sameShape memory address isWord
    rw [decode_of_word isLeft isWord, decode_of_word isRight isWord, sameOpcode,
      decodeParams_of_shape sameShape]

end Registry

/-! ## 2. Arities -/

namespace Definition

theorem arity_eq (definition : Definition) :
    definition.arity = if true ∈ definition.shape then .variadic (definition.shape.count false)
      else .fixed (definition.shape.count false) := by
  have singles : (definition.params.countP fun param => !param.kind.isVariadic) =
      definition.shape.count false := by
    rw [shape, List.count, List.countP_map]
    congr 1
    funext param
    exact (beq_false _).symm
  have some : (definition.params.any fun param => param.kind.isVariadic) = true ↔
      true ∈ definition.shape := by
    rw [shape, List.any_eq_true, List.mem_map]
  simp only [arity, singles, some]

/-- A record counts single parameters, or has one variadic parameter and no other. -/
theorem shape_generic (record : Record) (name? : Option String) :
    (∃ count, (record.definition name?).shape = List.replicate count false) ∨
      (record.definition name?).shape = [true] := by
  unfold shape Record.definition
  cases record.argumentCount.toInt with
  | ofNat count =>
    refine Or.inl ⟨count, ?_⟩
    show ((List.range count).map genericParam).map _ = _
    rw [List.map_map]
    exact (List.map_const' ..).trans (by rw [List.length_range])
  | negSucc count => exact Or.inr rfl

/-- Without one of the two kinds of parameters, a shape is as good as its length. -/
theorem shape_eq_replicate {definition : Definition} (kind : Bool)
    (absent : (!kind) ∉ definition.shape) :
    definition.shape = List.replicate (definition.shape.count kind) kind := by
  have every : ∀ other ∈ definition.shape, kind = other := by
    rintro other member
    cases kind <;> cases other <;> first | rfl | exact absurd member absent
  rw [List.count_eq_length.2 every]
  exact List.eq_replicate_of_mem fun other member => (every other member).symm

/-- A definition with the arity of a record has the record's shape, unless it has more than one
variadic parameter. -/
theorem shape_eq_iff_of_arity {definition : Definition} {record : Record} {name? : Option String}
    (sameArity : (record.definition name?).arity = definition.arity) :
    definition.shape = (record.definition name?).shape ↔ definition.variadics ≤ 1 := by
  rw [arity_eq, arity_eq] at sameArity
  unfold variadics
  rcases shape_generic record name? with ⟨count, generic⟩ | generic
  · -- Neither has a variadic parameter, and both have as many single ones.
    have noVariadic : true ∉ List.replicate count false := by
      intro member
      cases List.eq_of_mem_replicate member
    rw [generic, if_neg noVariadic, List.count_replicate_self] at sameArity
    split at sameArity
    · cases sameArity
    next absent =>
    have sameCount := Arity.fixed.inj sameArity
    rw [generic, sameCount, List.count_eq_zero.2 absent]
    exact iff_of_true (shape_eq_replicate false absent) (Nat.zero_le 1)
  · -- Neither has a single parameter, and each has a variadic one.
    rw [generic, if_pos List.mem_cons_self] at sameArity
    split at sameArity
    next present =>
      have noSingle := List.count_eq_zero.1 (Arity.variadic.inj sameArity).symm
      have some := List.count_pos_iff.2 present
      rw [generic, shape_eq_replicate true noSingle, List.count_replicate_self]
      constructor
      · intro same
        simpa using Nat.le_of_eq (congrArg List.length same)
      · intro few
        rw [Nat.le_antisymm few some]
        rfl
    · cases sameArity

end Definition

/-! ## 3. Registries -/

namespace Registry.Draft

variable {H : Type}

/-- What stands in a draft that holds nothing but names and records. -/
theorem addRecords_catalogued {names : Table String} {records : List Record} {draft : Draft H}
    (catalogued : (empty.addNames names).addRecords records = .ok draft) :
    draft.Keyed ∧ (∀ key, draft.bindings.get? key = none) ∧
      ∀ record ∈ records, draft.records.get? record.opcode.key = some record := by
  have noBindings : draft.bindings = .empty := addRecords_bindings catalogued
  refine ⟨⟨?_, ?_⟩, ?_, ?_⟩
  · intro key record found
    rcases (addRecords_get? catalogued).1 found with ⟨_, isKey⟩ | impossible
    · exact isKey
    · cases impossible
  · rw [noBindings]
    exact Table.every_empty
  · intro key
    rw [noBindings]
    rfl
  · intro record member
    exact (addRecords_get? catalogued).2 (Or.inl ⟨member, rfl⟩)

/-- Without a binding, a record's opcode has the record's definition. -/
theorem definition?_of_unbound {draft : Draft H} (keyed : draft.Keyed) {record : Record}
    (found : draft.records.get? record.opcode.key = some record)
    (unbound : draft.bindings.get? record.opcode.key = none) {registry : Registry H}
    (built : draft.build = .ok registry) :
    registry.definition? record.opcode = some (draft.genericDefinition record) := by
  rw [definition?, keyed.build_entry?_of_unbound unbound built, found]
  rfl

/-- A binding that refines a record reads as the record does exactly when it has at most one variadic
parameter. -/
theorem Binds.readAlike_iff {bound : Draft H} (keyed : bound.Keyed) {binding : Binding H}
    (isBound : bound.Binds binding) {record : Record}
    (found : bound.records.get? binding.definition.opcode.key = some record)
    {plain refined : Registry H} (built : bound.build = .ok refined) {word : UInt16}
    (isOpcode : binding.definition.opcode = (Opcode.split word).1)
    (isPlain : plain.definition? (Opcode.split word).1 = some (bound.genericDefinition record))
    (sameOpcode : record.opcode = binding.definition.opcode) :
    refined.ReadAlike plain word ↔ binding.definition.variadics ≤ 1 := by
  obtain ⟨entry, isEntry, isRefined⟩ := isBound.build_entry? keyed built
  have refinedDefinition : refined.definition? (Opcode.split word).1 = some entry.definition := by
    rw [← isOpcode, definition?, isRefined, Option.map_some]
  have opcodes : entry.definition.opcode = (bound.genericDefinition record).opcode :=
    (Binding.entryBeside_eq_ok isEntry).1.trans sameOpcode.symm
  have sameShape : entry.definition.shape = binding.definition.shape := by
    rw [Definition.shape, (Binding.entryBeside_eq_ok isEntry).2.1]
    rfl
  rw [readAlike_iff_shape_eq refinedDefinition isPlain opcodes, sameShape]
  exact Definition.shape_eq_iff_of_arity
    ((record.arity_definition _).trans ((boundEntry_eq_ok_iff.1 isEntry).1 record found))

end Registry.Draft

/-- Which bindings leave the encoding of a record as it was. Take any catalogue, with whatever names,
and any bindings, such that a registry can be built from the catalogue alone and from both together.
For every word whose opcode is in the catalogue, both registries give the same instruction or the same
error wherever the word stands in memory, if and only if no binding for the opcode has more than one
variadic parameter. -/
theorem refinement_reads_alike {H : Type} {names : Table String} {records : List Record}
    {bindings : List (Binding H)} {draft bound : Registry.Draft H} {plain refined : Registry H}
    (catalogued : (Registry.Draft.empty.addNames names).addRecords records = .ok draft)
    (plainBuilt : draft.build = .ok plain) (extended : draft.bindAll bindings = .ok bound)
    (refinedBuilt : bound.build = .ok refined) {word : UInt16} {record : Record}
    (member : record ∈ records) (isOpcode : record.opcode = (Opcode.split word).1) :
    (∀ (memory : Memory) (address : Nat), memory.readUInt16 address = .ok word →
      refined.decode memory address = plain.decode memory address) ↔
    ∀ binding ∈ bindings, binding.definition.opcode = record.opcode →
      binding.definition.variadics ≤ 1 := by
  obtain ⟨keyed, unbound, catalogue⟩ :=
    Registry.Draft.addRecords_catalogued catalogued
  obtain ⟨sameNames, sameRecords⟩ := Registry.Draft.bindAll_rest extended
  have boundKeyed : bound.Keyed := keyed.bindAll extended
  have found : bound.records.get? record.opcode.key = some record := by
    rw [sameRecords]
    exact catalogue record member
  have isPlain : plain.definition? (Opcode.split word).1 = some (bound.genericDefinition record) := by
    rw [← isOpcode, Registry.Draft.definition?_of_unbound keyed
      (catalogue record member) (unbound _) plainBuilt, Registry.Draft.genericDefinition,
      Registry.Draft.genericDefinition, sameNames]
  have added : ∀ binding ∈ bindings, binding.definition.opcode = record.opcode →
      bound.bindings.get? record.opcode.key = some binding := by
    intro binding inBindings same
    exact (Registry.Draft.bindAll_get? extended).2 (Or.inl ⟨inBindings, congrArg Opcode.key same⟩)
  show refined.ReadAlike plain word ↔ _
  cases isBound : bound.bindings.get? record.opcode.key with
  | none =>
    -- Nothing is bound to the opcode, so both registries have the definition of the record.
    have isRefined := Registry.Draft.definition?_of_unbound boundKeyed found isBound
      refinedBuilt
    rw [isOpcode] at isRefined
    refine iff_of_true ((Registry.readAlike_iff_shape_eq isRefined isPlain rfl).2 rfl) ?_
    intro binding inBindings same
    cases isBound.symm.trans (added binding inBindings same)
  | some binding =>
    obtain ⟨inBindings, sameKey⟩ : binding ∈ bindings ∧
        binding.definition.opcode.key = record.opcode.key := by
      rcases (Registry.Draft.bindAll_get? extended).1 isBound with new | old
      · exact new
      · cases (unbound _).symm.trans old
    have same : binding.definition.opcode = record.opcode := Opcode.key_injective sameKey
    have binds : bound.Binds binding := by
      unfold Registry.Draft.Binds
      rw [same]
      exact isBound
    rw [binds.readAlike_iff boundKeyed (same ▸ found) refinedBuilt (same.trans isOpcode) isPlain
      same.symm]
    constructor
    · intro few other inOthers sameOther
      cases isBound.symm.trans (added other inOthers sameOther)
      exact few
    · intro few
      exact few binding inBindings same

/-! ## One variadic parameter, and two -/

namespace RefinementExample

open Registry (Draft)

/-- An instruction with variable arguments. -/
def record : Record := ⟨⟨0x0A00⟩, -1, "show things"⟩

def binding (params : List Param) : Binding Unit :=
  ⟨{ opcode := ⟨0x0A00⟩, symbol := "show", params }, ()⟩

/-- The same arguments, which must now be variables. -/
def whole : Binding Unit := binding [⟨"things", .variadic .var⟩]

/-- Two lists of arguments, each with an end marker of its own. -/
def halves : Binding Unit := binding [⟨"persons", .variadic .any⟩, ⟨"places", .variadic .any⟩]

def draft : Draft Unit := { Draft.empty with records := Table.empty.insert 0x0A00 record }

def bound (binding : Binding Unit) : Draft Unit :=
  { draft with bindings := Table.empty.insert 0x0A00 binding }

def registry (draft : Draft Unit) : Registry Unit := draft.build.toOption.getD ⟨.empty⟩

/-- The instruction without any arguments: a word and an end marker. -/
def memory : Memory := Memory.ofBytes #[0x00, 0x0A, 0x00]

end RefinementExample

open RefinementExample in
/-- A binding that only restricts the arguments keeps the encoding, here of the negated word. -/
theorem whole_reads_alike :
    (bound whole).build = .ok (registry (bound whole)) ∧ whole.definition.variadics = 1 ∧
      ∀ (memory : Memory) (address : Nat), memory.readUInt16 address = .ok 0x8A00 →
        (registry (bound whole)).decode memory address = (registry draft).decode memory address := by
  have catalogued : (Registry.Draft.empty.addNames .empty).addRecords [record] = .ok draft := rfl
  have extended : draft.bindAll [whole] = .ok (bound whole) := rfl
  have isOpcode : record.opcode = (Opcode.split 0x8A00).1 := rfl
  have few : ∀ binding ∈ [whole], binding.definition.opcode = record.opcode →
      binding.definition.variadics ≤ 1 := by decide
  exact ⟨rfl, rfl, (refinement_reads_alike catalogued rfl extended rfl List.mem_cons_self isOpcode).2
    few⟩

open RefinementExample in
/-- A binding with two lists of arguments has the arity of the record, and a registry can be built with
it; but it does not read what the record reads. -/
theorem halves_want_second_marker :
    (Registry.Draft.empty.addNames .empty).addRecords [record] = .ok draft ∧
      draft.build = .ok (registry draft) ∧ draft.bindAll [halves] = .ok (bound halves) ∧
      (bound halves).build = .ok (registry (bound halves)) ∧
      memory.readUInt16 0 = .ok 0x0A00 ∧ record.opcode = (Opcode.split 0x0A00).1 ∧
      (registry draft).decode memory 0 = .ok ⟨0, ⟨0x0A00⟩, false, [⟨.endMarker, []⟩]⟩ ∧
      (registry (bound halves)).decode memory 0 = .error (.outOfBounds 3 1 3) :=
  ⟨rfl, rfl, rfl, rfl, rfl, rfl, rfl, rfl⟩

end MissionScript
