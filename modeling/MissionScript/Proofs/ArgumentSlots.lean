import MissionScript.Proofs.GlobalVariables
import MissionScript.Proofs.Grammar
import MissionScript.Proofs.LocalVariables

/-!
# Arguments and their parameters

The parameters of a definition are walked over twice: by the decoder, which reads arguments from
memory, and by the resolver, which takes them from the list that the decoder has made. The two walks
share nothing but the order of the parameters, and a variadic parameter takes as many arguments as it
finds. They stay together all the same: the resolver checks every argument against the parameter that
it was decoded for.

The decoder's walk is given as a relation that notes the parameter of each argument (`Reads`). The
resolver is shown to be a plain traversal of these notes, and what it returns is read off that.

Results:
1. `decodeParams_reads`: what the decoder reads, it reads for one parameter each.
2. `Slot.resolve_eq_error_iff`: what can be wrong with one argument.
3. `Reads.resolveParams_eq`: the resolver traverses what was read, without the end markers.
4. `resolver_follows_decoder`: what comes of it.
-/

namespace MissionScript

/-! ## 1. The walk of the decoder -/

/-- A decoded argument, its position among all arguments and the parameter that it was decoded for. -/
structure Slot where
  position : Nat
  param : Param
  argument : Argument
deriving DecidableEq, Repr

def Slot.isSingle (slot : Slot) : Bool := !slot.param.kind.isVariadic

/-- The arguments that a resolver looks at. -/
def withoutEnds (slots : List Slot) : List Slot := slots.filter fun slot => !slot.argument.isEnd

theorem notEnd_of_mem_withoutEnds {slots : List Slot} {slot : Slot} (member : slot ∈ withoutEnds slots) :
    slot.argument.isEnd = false := by
  simpa using (List.mem_filter.1 member).2

/-- The walk of the decoder over parameters, from a position among the arguments and an address on. A
variadic parameter stays until an end marker has been read for it. -/
inductive Reads (memory : Memory) : List Param → Nat → Nat → List Slot → Prop where
  | nil {position address : Nat} : Reads memory [] position address []
  | single {name : String} {constraint : Constraint} {params : List Param} {position address : Nat}
      {argument : Argument} {slots : List Slot}
      (decoded : decodeArgument memory address false = .ok argument)
      (rest : Reads memory params (position + 1) (address + argument.byteLength) slots) :
      Reads memory (⟨name, .single constraint⟩ :: params) position address
        (⟨position, ⟨name, .single constraint⟩, argument⟩ :: slots)
  | more {name : String} {constraint : Constraint} {params : List Param} {position address : Nat}
      {argument : Argument} {slots : List Slot}
      (decoded : decodeArgument memory address true = .ok argument) (notEnd : argument.isEnd = false)
      (rest : Reads memory (⟨name, .variadic constraint⟩ :: params) (position + 1)
        (address + argument.byteLength) slots) :
      Reads memory (⟨name, .variadic constraint⟩ :: params) position address
        (⟨position, ⟨name, .variadic constraint⟩, argument⟩ :: slots)
  | close {name : String} {constraint : Constraint} {params : List Param} {position address : Nat}
      {argument : Argument} {slots : List Slot}
      (decoded : decodeArgument memory address true = .ok argument) (isEnd : argument.isEnd = true)
      (rest : Reads memory params (position + 1) (address + argument.byteLength) slots) :
      Reads memory (⟨name, .variadic constraint⟩ :: params) position address
        (⟨position, ⟨name, .variadic constraint⟩, argument⟩ :: slots)

/-- An end marker is not read where none may stand. -/
theorem decodeArgument_notEnd {memory : Memory} {address : Nat} {argument : Argument}
    (decoded : decodeArgument memory address false = .ok argument) : argument.isEnd = false := by
  obtain ⟨_, allowed, _⟩ := decodeArgument_sound decoded
  cases isEnd : argument.isEnd with
  | false => rfl
  | true => cases allowed isEnd

/-- What is read up to an end marker is read for the variadic parameter, and the others are read
behind it. -/
theorem decodeVariadic_reads {memory : Memory} {left address : Nat} {args : List Argument}
    (success : decodeVariadic memory left address = .ok args) (name : String)
    (constraint : Constraint) {params : List Param} (position : Nat) {slots : List Slot}
    (rest : Reads memory params (position + args.length) (address + argumentsLength args) slots) :
    ∃ own : List Slot, own.map Slot.argument = args ∧
      Reads memory (⟨name, .variadic constraint⟩ :: params) position address (own ++ slots) := by
  induction left generalizing address args position with
  | zero => cases success
  | succ left ih =>
    unfold decodeVariadic at success
    cases decoded : decodeArgument memory address true with
    | error error =>
      rw [decoded] at success
      cases success
    | ok argument =>
      simp only [decoded] at success
      cases isEnd : argument.isEnd with
      | true =>
        rw [isEnd, if_pos rfl] at success
        cases success
        exact ⟨[⟨position, ⟨name, .variadic constraint⟩, argument⟩], rfl, .close decoded isEnd rest⟩
      | false =>
        rw [isEnd, if_neg Bool.false_ne_true] at success
        obtain ⟨others, decodedRest, rfl⟩ := except_map_eq_ok.1 success
        have sameRest : Reads memory params (position + 1 + others.length)
            (address + argument.byteLength + argumentsLength others) slots := by
          rw [List.length_cons, Nat.add_comm others.length, ← Nat.add_assoc] at rest
          rw [argumentsLength, ← Nat.add_assoc] at rest
          exact rest
        obtain ⟨own, isOwn, reads⟩ := ih decodedRest (position + 1) sameRest
        refine ⟨⟨position, ⟨name, .variadic constraint⟩, argument⟩ :: own, ?_, .more decoded isEnd reads⟩
        rw [List.map_cons, isOwn]

/-- What the decoder reads for parameters, it reads for one of them each. -/
theorem decodeParams_reads {memory : Memory} {params : List Param} {address : Nat}
    {args : List Argument} (success : decodeParams memory params address = .ok args)
    (position : Nat) :
    ∃ slots, Reads memory params position address slots ∧ slots.map Slot.argument = args := by
  induction params generalizing address args position with
  | nil =>
    cases success
    exact ⟨[], .nil, rfl⟩
  | cons param params ih =>
    obtain ⟨name, kind⟩ := param
    unfold decodeParams at success
    cases kind with
    | single constraint =>
      simp only at success
      split at success
      · cases success
      next argument decoded =>
      obtain ⟨rest, decodedRest, rfl⟩ := except_map_eq_ok.1 success
      obtain ⟨slots, reads, rfl⟩ := ih decodedRest (position + 1)
      exact ⟨_, .single decoded reads, rfl⟩
    | variadic constraint =>
      simp only at success
      split at success
      · cases success
      next own decoded =>
      obtain ⟨rest, decodedRest, rfl⟩ := except_map_eq_ok.1 success
      obtain ⟨slots, reads, rfl⟩ := ih decodedRest (position + own.length)
      obtain ⟨ownSlots, rfl, allReads⟩ := decodeVariadic_reads decoded name constraint position reads
      exact ⟨_, allReads, List.map_append⟩

namespace Reads

variable {memory : Memory} {params : List Param} {position address : Nat} {slots other : List Slot}

/-- The walk has one result. -/
theorem unique (reads : Reads memory params position address slots)
    (again : Reads memory params position address other) : slots = other := by
  induction reads generalizing other with
  | nil =>
    cases again
    rfl
  | single decoded _ ih =>
    cases again with
    | single decodedAgain rest =>
      cases decoded.symm.trans decodedAgain
      rw [ih rest]
  | more decoded notEnd _ ih =>
    cases again with
    | more decodedAgain _ rest =>
      cases decoded.symm.trans decodedAgain
      rw [ih rest]
    | close decodedAgain isEnd =>
      cases decoded.symm.trans decodedAgain
      cases notEnd.symm.trans isEnd
  | close decoded isEnd _ ih =>
    cases again with
    | more decodedAgain notEnd =>
      cases decoded.symm.trans decodedAgain
      cases notEnd.symm.trans isEnd
    | close decodedAgain _ rest =>
      cases decoded.symm.trans decodedAgain
      rw [ih rest]

/-- Positions count the arguments. -/
theorem positions (reads : Reads memory params position address slots) :
    slots.map Slot.position = List.range' position slots.length := by
  induction reads with
  | nil => rfl
  | single _ _ ih | more _ _ _ ih | close _ _ _ ih =>
    rw [List.map_cons, ih, List.length_cons, List.range'_succ]

/-- Each single parameter gets one argument, in the order of the parameters, and no end marker. -/
theorem singles (reads : Reads memory params position address slots) :
    ((withoutEnds slots).filter Slot.isSingle).map Slot.param =
      params.filter fun param => !param.kind.isVariadic := by
  induction reads with
  | nil => rfl
  | single decoded _ ih =>
    simpa [withoutEnds, decodeArgument_notEnd decoded, Slot.isSingle, ParamKind.isVariadic] using ih
  | more _ notEnd _ ih => simpa [withoutEnds, notEnd, Slot.isSingle, ParamKind.isVariadic] using ih
  | close _ isEnd _ ih => simpa [withoutEnds, isEnd, ParamKind.isVariadic] using ih

end Reads

/-! ## 2. One argument -/

theorem Argument.operand_eq_endMarker_iff {argument : Argument} :
    argument.operand = .endMarker ↔ argument.isEnd = true := by
  rw [Argument.isEnd_iff]
  cases kind : argument.dataType <;> simp [operand, kind]

namespace Slot

variable {source : Arguments.Source} {slot : Slot}

/-- What is wrong with an argument, if anything: its parameter does not accept its data type, or it is
a variable that the thread does not have, or one that does not lie in memory. -/
def fault? (source : Arguments.Source) (slot : Slot) : Option Error :=
  if slot.param.kind.constraint.accepts slot.argument.dataType then
    match slot.argument.operand with
    | .localVar index =>
      if localSlots + timerSlots ≤ index then
        some (.invalidLocalSlot index (localSlots + timerSlots))
      else none
    | .globalVar address =>
      if source.memory.size < address + cellWidth then
        some (.outOfBounds address cellWidth source.memory.size)
      else none
    | _ => none
  else
    some (.typeMismatch source.opcode slot.position slot.param.kind.constraint.name
      slot.argument.dataType.name)

/-- What an argument is worth: a literal is worth itself, and a variable what it holds. -/
def value? (source : Arguments.Source) (slot : Slot) : Option ArgValue :=
  match slot.argument.operand with
  | .endMarker => none
  | .int value => some ⟨slot.argument.dataType, .int value, none⟩
  | .float value => some ⟨slot.argument.dataType, .float value, none⟩
  | .text value => some ⟨slot.argument.dataType, .text value, none⟩
  | .globalVar address =>
    (Arguments.readGlobal source.memory address).toOption.map
      (⟨slot.argument.dataType, ·, some (.global address)⟩)
  | .localVar index =>
    (source.thread.getLocal index source.now).toOption.map
      (⟨slot.argument.dataType, ·, some (.slot index)⟩)

/-- The resolver, on an argument and the parameter that it was decoded for. -/
def resolve (source : Arguments.Source) (slot : Slot) : Except Error ArgValue :=
  Arguments.resolveOne source slot.param.kind.constraint slot.position slot.argument

/-- The resolver refuses an argument exactly when something is wrong with it. -/
theorem resolve_eq_error_iff (notEnd : slot.argument.isEnd = false) {error : Error} :
    slot.resolve source = .error error ↔ slot.fault? source = some error := by
  unfold resolve Arguments.resolveOne fault?
  cases accepted : slot.param.kind.constraint.accepts slot.argument.dataType with
  | false => simp [accepted]
  | true =>
    cases operand : slot.argument.operand with
    | endMarker =>
      rw [Argument.operand_eq_endMarker_iff.1 operand] at notEnd
      cases notEnd
    | int | float | text => simp [accepted]
    | globalVar address =>
      simp only [accepted, Bool.not_true, Bool.false_eq_true, if_false, if_true, except_map_eq_error,
        Arguments.readGlobal_eq_error_iff, Option.ite_none_right_eq_some, Option.some.injEq]
      exact and_congr_right fun _ => eq_comm
    | localVar index =>
      simp only [accepted, Bool.not_true, Bool.false_eq_true, if_false, if_true, except_map_eq_error,
        Thread.getLocal_eq_error_iff, Option.ite_none_right_eq_some, Option.some.injEq]
      exact and_congr_right fun _ => eq_comm

/-- What the resolver makes of an argument is what it is worth. -/
theorem value?_of_resolve {value : ArgValue} (success : slot.resolve source = .ok value) :
    slot.value? source = some value := by
  unfold resolve Arguments.resolveOne at success
  unfold value?
  cases accepted : slot.param.kind.constraint.accepts slot.argument.dataType with
  | false =>
    simp only [accepted] at success
    cases success
  | true =>
    cases operand : slot.argument.operand with
    | endMarker =>
      simp only [accepted, operand] at success
      cases success
    | int | float | text =>
      simp only [accepted, operand] at success
      cases success
      rfl
    | globalVar | localVar =>
      simp only [accepted, operand] at success
      obtain ⟨held, read, rfl⟩ := except_map_eq_ok.1 success
      simp only [read, Except.toOption, Option.map_some]

end Slot

/-! ## 3. The walk of the resolver -/

namespace Slot

/-- A single parameter gets its argument by name. The arguments of variadic ones are lined up. -/
def deliver (slot : Slot) (value : ArgValue) :
    List (String × ArgValue) × List ArgValue → List (String × ArgValue) × List ArgValue
  | (named, variadic) =>
    if slot.isSingle then ((slot.param.name, value) :: named, variadic)
    else (named, value :: variadic)

/-- Resolves arguments in order, up to the first that is refused. -/
def traverse (source : Arguments.Source) :
    List Slot → Except Error (List (String × ArgValue) × List ArgValue)
  | [] => .ok ([], [])
  | slot :: rest =>
    match slot.resolve source with
    | .error error => .error error
    | .ok value => (traverse source rest).map (slot.deliver value)

variable {source : Arguments.Source} {slots : List Slot}

/-- The first argument that something is wrong with decides. -/
theorem traverse_eq_error_iff (notEnd : ∀ slot ∈ slots, slot.argument.isEnd = false) {error : Error} :
    traverse source slots = .error error ↔ slots.findSome? (fault? source) = some error := by
  induction slots with
  | nil => simp [traverse]
  | cons slot rest ih =>
    obtain ⟨first, others⟩ := List.forall_mem_cons.1 notEnd
    rw [traverse, List.findSome?_cons]
    cases resolved : slot.resolve source with
    | error refusal =>
      rw [(resolve_eq_error_iff first).1 resolved]
      simp
    | ok value =>
      have sound : slot.fault? source = none := by
        refine Option.eq_none_iff_forall_ne_some.2 fun fault isFault => ?_
        cases resolved.symm.trans ((resolve_eq_error_iff first).2 isFault)
      rw [sound]
      exact except_map_eq_error.trans (ih others)

/-- Named values are those of the single parameters and the others those of the variadic ones, both in
the order of the arguments. -/
theorem traverse_values {named : List (String × ArgValue)} {variadic : List ArgValue}
    (success : traverse source slots = .ok (named, variadic)) :
    (named.map fun entry => (entry.1, some entry.2)) =
        (slots.filter isSingle).map (fun slot => (slot.param.name, slot.value? source)) ∧
      variadic.map some = (slots.filter (!·.isSingle)).map (value? source) := by
  induction slots generalizing named variadic with
  | nil =>
    cases success
    exact ⟨rfl, rfl⟩
  | cons slot rest ih =>
    rw [traverse] at success
    cases resolved : slot.resolve source with
    | error error =>
      rw [resolved] at success
      cases success
    | ok value =>
      rw [resolved] at success
      obtain ⟨⟨laterNamed, laterVariadic⟩, traversed, delivered⟩ := except_map_eq_ok.1 success
      obtain ⟨isNamed, isVariadic⟩ := ih traversed
      have worth := value?_of_resolve resolved
      unfold deliver at delivered
      cases single : slot.isSingle with
      | true | false =>
        rw [single] at delivered
        cases delivered
        simp [single, worth, isNamed, isVariadic]

end Slot

namespace Arguments

variable {source : Source} {name : String} {constraint : Constraint} {params : List Param}
  {index : Nat} {argument : Argument} {rest : List Argument}

/-- A variadic parameter takes one more argument and goes on. -/
theorem resolveParams_more (notEnd : argument.isEnd = false) :
    resolveParams source (⟨name, .variadic constraint⟩ :: params) index (argument :: rest) =
      match resolveOne source constraint index argument with
      | .error error => .error error
      | .ok value =>
        (resolveParams source (⟨name, .variadic constraint⟩ :: params) (index + 1) rest).map
          fun (named, variadic) => (named, value :: variadic) := by
  simp only [resolveParams, List.takeWhile_cons, List.dropWhile_cons, notEnd, Bool.not_false,
    if_true, resolveEach, List.length_cons]
  cases resolveOne source constraint index argument with
  | error error => rfl
  | ok value =>
    simp only
    cases resolveEach source constraint (index + 1)
      (rest.takeWhile fun argument => !argument.isEnd) with
    | error error => rfl
    | ok values =>
      -- The resolver counts the arguments of a parameter at once, the walk one at a time.
      rw [Nat.add_comm _ 1, ← Nat.add_assoc]
      simp only
      cases resolveParams source params _ _ with
      | error error => rfl
      | ok handed => rfl

/-- A variadic parameter is done with at an end marker. -/
theorem resolveParams_close (isEnd : argument.isEnd = true) :
    resolveParams source (⟨name, .variadic constraint⟩ :: params) index (argument :: rest) =
      resolveParams source params (index + 1) rest := by
  simp only [resolveParams, List.takeWhile_cons, List.dropWhile_cons, isEnd, Bool.not_true,
    Bool.false_eq_true, if_false, resolveEach, List.length_nil, List.length_cons, List.tail_cons]
  rw [Nat.add_zero, Nat.min_eq_left (Nat.le_add_left 1 rest.length)]
  cases resolveParams source params (index + 1) rest with
  | error error => rfl
  | ok handed => rfl

end Arguments

/-- The resolver traverses what was read, without the end markers: its own count of parameters stays
with that of the decoder. -/
theorem Reads.resolveParams_eq {memory : Memory} {params : List Param} {position address : Nat}
    {slots : List Slot} (reads : Reads memory params position address slots)
    (source : Arguments.Source) :
    Arguments.resolveParams source params position (slots.map Slot.argument) =
      Slot.traverse source (withoutEnds slots) := by
  unfold withoutEnds
  -- Along the decoder's walk, which sees the arguments of a variadic parameter one by one.
  induction reads with
  | nil => rfl
  | single decoded _ ih =>
    have notEnd := decodeArgument_notEnd decoded
    rw [List.filter_cons_of_pos (by rw [notEnd]; rfl), Slot.traverse, ← ih]
    rfl
  | more _ notEnd _ ih =>
    rw [List.filter_cons_of_pos (by rw [notEnd]; rfl), Slot.traverse, ← ih]
    exact Arguments.resolveParams_more notEnd
  | close _ isEnd _ ih =>
    rw [List.filter_cons_of_neg (by rw [isEnd]; exact Bool.false_ne_true), ← ih]
    exact Arguments.resolveParams_close isEnd

/-! ## 4. Both walks -/

/-- No argument is missing, and nothing that is wrong with one is about an end marker. -/
theorem Slot.fault?_ne {source : Arguments.Source} {slot : Slot} {error : Error}
    (notEnd : slot.argument.isEnd = false) (isFault : slot.fault? source = some error) :
    (∀ opcode name, error ≠ .unknownArgument opcode name) ∧
      ∀ opcode index expected, error ≠ .typeMismatch opcode index expected DataType.endMarker.name := by
  have notNamed : slot.argument.dataType.name ≠ DataType.endMarker.name := by
    have notMarker : slot.argument.dataType ≠ .endMarker := by
      intro isMarker
      rw [Argument.isEnd_iff.2 isMarker] at notEnd
      cases notEnd
    revert notMarker
    cases slot.argument.dataType <;> simp [DataType.name]
  unfold fault? at isFault
  split at isFault
  · split at isFault
    · obtain ⟨_, isError⟩ := Option.ite_none_right_eq_some.1 isFault
      cases isError
      simp
    · obtain ⟨_, isError⟩ := Option.ite_none_right_eq_some.1 isFault
      cases isError
      simp
    · cases isFault
  · cases isFault
    simp [notNamed]

/-- What the decoder reads, it reads for the parameters of the definition that the opcode has. -/
theorem Registry.decode_reads {H : Type} {draft : Draft H} {registry : Registry H}
    (built : draft.build = .ok registry) {memory : Memory} {address : Nat} {instruction : Instruction}
    (decoded : registry.decode memory address = .ok instruction) :
    ∃ definition slots, registry.definition? instruction.opcode = some definition ∧
      Reads memory definition.params 0 (address + Opcode.width) slots ∧
      slots.map Slot.argument = instruction.args := by
  obtain ⟨word, definition, found, _, isOpcode, _, splits, wellFormed, holds⟩ :=
    decode_eq_ok_iff.1 decoded
  obtain ⟨inTable, _⟩ := lookup?_eq_some_iff.1 found
  obtain ⟨slots, reads, isArgs⟩ :=
    decodeParams_reads (decodeParams_complete splits wellFormed holds) 0
  refine ⟨definition, slots, ?_, reads, isArgs⟩
  rw [isOpcode, definition?_opcode built inTable]
  exact inTable

section

variable {memory : Memory} {definition : Definition} {address : Nat} {slots : List Slot}
  {instruction : Instruction} {thread : Thread} {now : Nat}

/-- Resolving an instruction is a traversal of its arguments. -/
theorem Reads.resolve_eq (reads : Reads memory definition.params 0 address slots)
    (isArgs : slots.map Slot.argument = instruction.args) :
    Arguments.resolve definition instruction memory thread now =
      (Slot.traverse ⟨definition.opcode, memory, thread, now⟩ (withoutEnds slots)).map
        fun (named, variadic) => ⟨definition.opcode, named, variadic⟩ := by
  rw [← reads.resolveParams_eq, isArgs]
  rfl

theorem Reads.resolve_eq_error_iff (reads : Reads memory definition.params 0 address slots)
    (isArgs : slots.map Slot.argument = instruction.args) {error : Error} :
    Arguments.resolve definition instruction memory thread now = .error error ↔
      (withoutEnds slots).findSome? (Slot.fault? ⟨definition.opcode, memory, thread, now⟩) =
        some error := by
  rw [reads.resolve_eq isArgs, except_map_eq_error]
  exact Slot.traverse_eq_error_iff fun _ => notEnd_of_mem_withoutEnds

/-- An instruction is resolved if nothing is wrong with any of its arguments, and only then. -/
theorem Reads.resolve_eq_ok_iff (reads : Reads memory definition.params 0 address slots)
    (isArgs : slots.map Slot.argument = instruction.args) :
    (∃ args, Arguments.resolve definition instruction memory thread now = .ok args) ↔
      ∀ slot ∈ withoutEnds slots,
        slot.fault? ⟨definition.opcode, memory, thread, now⟩ = none := by
  rw [← List.findSome?_eq_none_iff]
  cases outcome : Arguments.resolve definition instruction memory thread now with
  | error error => simp [(reads.resolve_eq_error_iff isArgs).1 outcome]
  | ok args =>
    refine ⟨fun _ => ?_, fun _ => ⟨args, rfl⟩⟩
    refine Option.eq_none_iff_forall_ne_some.2 fun error isFault => ?_
    cases outcome.symm.trans ((reads.resolve_eq_error_iff isArgs).2 isFault)

/-- The errors of a resolver, of which some cannot come of what was decoded. -/
theorem Reads.resolve_error (reads : Reads memory definition.params 0 address slots)
    (isArgs : slots.map Slot.argument = instruction.args) {error : Error}
    (failed : Arguments.resolve definition instruction memory thread now = .error error) :
    (∀ opcode name, error ≠ .unknownArgument opcode name) ∧
      ∀ opcode index expected, error ≠ .typeMismatch opcode index expected DataType.endMarker.name := by
  obtain ⟨slot, member, isFault⟩ :=
    List.exists_of_findSome?_eq_some ((reads.resolve_eq_error_iff isArgs).1 failed)
  exact Slot.fault?_ne (notEnd_of_mem_withoutEnds member) isFault

/-- What arrives when an instruction is resolved. -/
theorem Reads.resolve_values (reads : Reads memory definition.params 0 address slots)
    (isArgs : slots.map Slot.argument = instruction.args) {args : Arguments}
    (success : Arguments.resolve definition instruction memory thread now = .ok args) :
    args.opcode = definition.opcode ∧
      args.named.map Prod.fst =
        (definition.params.filter fun param => !param.kind.isVariadic).map Param.name ∧
      (args.named.map fun entry => (entry.1, some entry.2)) =
        ((withoutEnds slots).filter Slot.isSingle).map (fun slot =>
          (slot.param.name, slot.value? ⟨definition.opcode, memory, thread, now⟩)) ∧
      args.variadic.map some =
        ((withoutEnds slots).filter (!·.isSingle)).map
          (Slot.value? ⟨definition.opcode, memory, thread, now⟩) := by
  rw [reads.resolve_eq isArgs] at success
  obtain ⟨⟨named, variadic⟩, values, rfl⟩ := except_map_eq_ok.1 success
  obtain ⟨isNamed, isVariadic⟩ := Slot.traverse_values values
  refine ⟨rfl, ?_, isNamed, isVariadic⟩
  have names := congrArg (List.map Prod.fst) isNamed
  rw [List.map_map, List.map_map] at names
  rw [← reads.singles, List.map_map]
  exact names

end

/-- The resolver hands every argument of a decoded instruction to the parameter that the decoder has
read it for. The first argument that its parameter does not accept, or that names a variable which is
not there, is reported with its position; otherwise all values arrive. -/
theorem resolver_follows_decoder {H : Type} {draft : Registry.Draft H} {registry : Registry H}
    (built : draft.build = .ok registry) {memory : Memory} {address : Nat} {instruction : Instruction}
    (decoded : registry.decode memory address = .ok instruction) (thread : Thread) (now : Nat) :
    ∃ definition slots, registry.definition? instruction.opcode = some definition ∧
      (∀ other, Reads memory definition.params 0 (address + Opcode.width) other ↔ other = slots) ∧
      slots.map Slot.argument = instruction.args ∧
      slots.map Slot.position = List.range slots.length ∧
      let source : Arguments.Source := ⟨instruction.opcode, memory, thread, now⟩
      let resolved := Arguments.resolve definition instruction memory thread now
      (∀ error, resolved = .error error ↔
        (withoutEnds slots).findSome? (Slot.fault? source) = some error) ∧
      ((∃ args, resolved = .ok args) ↔ ∀ slot ∈ withoutEnds slots, slot.fault? source = none) ∧
      (∀ opcode name, resolved ≠ .error (.unknownArgument opcode name)) ∧
      (∀ opcode index expected,
        resolved ≠ .error (.typeMismatch opcode index expected DataType.endMarker.name)) ∧
      ∀ args, resolved = .ok args →
        args.opcode = instruction.opcode ∧
        args.named.map Prod.fst =
          (definition.params.filter fun param => !param.kind.isVariadic).map Param.name ∧
        (args.named.map fun entry => (entry.1, some entry.2)) =
          ((withoutEnds slots).filter Slot.isSingle).map
            (fun slot => (slot.param.name, slot.value? source)) ∧
        args.variadic.map some =
          ((withoutEnds slots).filter (!·.isSingle)).map (Slot.value? source) := by
  obtain ⟨definition, slots, isDefinition, reads, isArgs⟩ := Registry.decode_reads built decoded
  refine ⟨definition, slots, isDefinition, fun other => ⟨fun again => again.unique reads, ?_⟩, isArgs,
    reads.positions.trans List.range_eq_range'.symm, ?_⟩
  · rintro rfl
    exact reads
  rw [← Registry.definition?_opcode built isDefinition]
  refine ⟨fun error => reads.resolve_eq_error_iff isArgs, reads.resolve_eq_ok_iff isArgs, ?_, ?_,
    fun args => reads.resolve_values isArgs⟩
  · intro opcode name failed
    exact (reads.resolve_error isArgs failed).1 opcode name rfl
  · intro opcode index expected failed
    exact (reads.resolve_error isArgs failed).2 opcode index expected rfl

namespace ArgumentSlotsExample

/-- A number where a title belongs, and behind it a variable that no thread has. -/
def memory : Memory := Memory.ofBytes #[
  0x23, 0x01, 0x04, 0x05, 0x04, 0x01, 0x00, 0x04, 0x07, 0x03, 0x28, 0x00, 0x00]

/-- What is read for the parameters, for two of which an end marker has to come. -/
def slots : List Slot := [
  ⟨0, ⟨"kind", .single .int⟩, ⟨.int8, [5]⟩⟩,
  ⟨1, ⟨"names", .variadic .any⟩, ⟨.int8, [1]⟩⟩,
  ⟨2, ⟨"names", .variadic .any⟩, ⟨.endMarker, []⟩⟩,
  ⟨3, ⟨"title", .single .string⟩, ⟨.int8, [7]⟩⟩,
  ⟨4, ⟨"places", .variadic .var⟩, ⟨.localVar, [0x28, 0]⟩⟩,
  ⟨5, ⟨"places", .variadic .var⟩, ⟨.endMarker, []⟩⟩]

def instruction : Instruction := ⟨0, ⟨0x0123⟩, false, slots.map Slot.argument⟩

end ArgumentSlotsExample

open ArgumentSlotsExample in
/-- The number is reported under its position, which counts the end marker before it. -/
theorem number_for_title_is_reported :
    GrammarExample.draft.build = .ok GrammarExample.registry ∧
      GrammarExample.registry.decode memory 0 = .ok instruction ∧
      ∃ definition, GrammarExample.registry.definition? ⟨0x0123⟩ = some definition ∧
        Reads memory definition.params 0 2 slots ∧
        Arguments.resolve definition instruction memory (.ofStart 0 0 0) 0 =
          .error (.typeMismatch ⟨0x0123⟩ 3 "string" "int8") := by
  have built : GrammarExample.draft.build = .ok GrammarExample.registry := rfl
  have decoded : GrammarExample.registry.decode memory 0 = .ok instruction := rfl
  obtain ⟨definition, _, isDefinition, reads, _, _, refuses, _⟩ :=
    resolver_follows_decoder built decoded (.ofStart 0 0 0) 0
  have walk : Reads memory definition.params 0 2 slots := by
    cases isDefinition
    exact .single rfl (.more rfl rfl (.close rfl rfl
      (.single rfl (.more rfl rfl (.close rfl rfl .nil)))))
  cases (reads slots).1 walk
  exact ⟨built, decoded, definition, isDefinition, walk, (refuses _).2 rfl⟩

end MissionScript
