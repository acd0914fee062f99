import MissionScript.Catalogue
import MissionScript.Symbols
import MissionScript.Text.Lower

/-!
# Registries

A registry holds the definition of every known opcode and, for some, the behaviour bound to it.
It is drafted from three sources: names, catalogue records and bindings. A record gives a generic
definition with as many untyped parameters as it counts arguments. A binding brings its own
definition and replaces the generic one, provided that both have the same arity: otherwise scripts
would be read differently with and without it.

The type `H` of behaviours is left open here; decoding needs definitions only.
-/

namespace MissionScript

/-- The name of the `index`th parameter of a generic definition. -/
def genericParam (index : Nat) : Param := ⟨s!"arg_{index}", .single .any⟩

/-- The definition that a catalogue record stands for. -/
def Record.definition (record : Record) (name? : Option String) : Definition where
  opcode := record.opcode
  symbol :=
    match name? with
    | some name => Text.lower name
    | none => s!"opcode_{record.opcode}"
  params :=
    match record.argumentCount.toInt with
    | .ofNat count => (List.range count).map genericParam
    | .negSucc _ => [⟨"var_args", .variadic .any⟩]
  notes := record.notes

/-- A definition with the behaviour bound to it. -/
structure Binding (H : Type) where
  definition : Definition
  handler : H

/-- What a registry knows about an opcode. -/
structure Entry (H : Type) where
  definition : Definition
  /-- The bound behaviour; opcodes without one do nothing. -/
  handler? : Option H

namespace Binding

variable {H : Type}

/-- The entry of a binding whose opcode may have an entry already. It takes over the notes of that
entry, and must agree with it about the arity. -/
def entryBeside (binding : Binding H) (known? : Option (Entry H)) : Except Error (Entry H) :=
  let definition := binding.definition
  match known? with
  | none => .ok ⟨definition, some binding.handler⟩
  | some known =>
    if known.definition.arity = definition.arity then
      .ok ⟨{ definition with notes := known.definition.notes }, some binding.handler⟩
    else
      .error (.arityConflict definition.opcode definition.arity known.definition.arity)

/-- Enters a binding in place of what is there for its opcode. -/
def enter (entries : Table (Entry H)) (binding : Binding H) : Except Error (Table (Entry H)) := do
  let entry ← binding.entryBeside (entries.get? binding.definition.opcode.key)
  pure (entries.insert binding.definition.opcode.key entry)

end Binding

/-- The entries of all known opcodes. -/
structure Registry (H : Type) where
  entries : Table (Entry H)

namespace Registry

variable {H : Type}

def entry? (registry : Registry H) (opcode : Opcode) : Option (Entry H) :=
  registry.entries.get? opcode.key

def definition? (registry : Registry H) (opcode : Opcode) : Option Definition :=
  (registry.entry? opcode).map Entry.definition

/-- The definition for a word read from a script, and whether the word is negated. -/
def lookup? (registry : Registry H) (raw : UInt16) : Option (Definition × Bool) :=
  (registry.definition? (Opcode.split raw).1).map fun definition => (definition, (Opcode.split raw).2)

/-- Whether the opcode has a behaviour. -/
def isBound (registry : Registry H) (opcode : Opcode) : Bool :=
  match registry.entry? opcode with
  | some entry => entry.handler?.isSome
  | none => false

def size (registry : Registry H) : Nat := registry.entries.size

/-- What a registry is built from. -/
structure Draft (H : Type) where
  names : Table String
  records : Table Record
  bindings : Table (Binding H)

namespace Draft

/-- The draft without names, records and bindings. -/
def empty : Draft H := ⟨.empty, .empty, .empty⟩

/-- Names an opcode of the catalogue; a later name replaces an earlier one. -/
def name (draft : Draft H) (opcode : Opcode) (name : String) : Draft H :=
  { draft with names := draft.names.insert opcode.key name }

/-- Adds names; they replace earlier ones. -/
def addNames (draft : Draft H) (names : Table String) : Draft H :=
  { draft with names := names.toList.foldl (fun all entry => all.insert entry.1 entry.2) draft.names }

/-- Adds a record, unless there is one with the same opcode. -/
def addRecord (draft : Draft H) (record : Record) : Except Error (Draft H) :=
  if draft.records.contains record.opcode.key then .error (.duplicateOpcode record.opcode)
  else .ok { draft with records := draft.records.insert record.opcode.key record }

def addRecords (draft : Draft H) (records : List Record) : Except Error (Draft H) :=
  records.foldlM addRecord draft

/-- Adds a binding, unless there is one for the same opcode. -/
def bind (draft : Draft H) (binding : Binding H) : Except Error (Draft H) :=
  if draft.bindings.contains binding.definition.opcode.key then
    .error (.duplicateOpcode binding.definition.opcode)
  else
    .ok { draft with bindings := draft.bindings.insert binding.definition.opcode.key binding }

def bindAll (draft : Draft H) (bindings : List (Binding H)) : Except Error (Draft H) :=
  bindings.foldlM bind draft

/-- The generic definition of a record, under the name drafted for its opcode. -/
def genericDefinition (draft : Draft H) (record : Record) : Definition :=
  record.definition (draft.names.get? record.opcode.key)

/-- The entries of records alone, entered in the order of the list. -/
def genericEntries (draft : Draft H) (records : List Record) : Table (Entry H) :=
  records.foldl
    (fun entries record => entries.insert record.opcode.key ⟨draft.genericDefinition record, none⟩)
    .empty

/-- Builds the registry by going through records and then through bindings, each in the order of the
list. -/
def buildInOrder (draft : Draft H) (records : List Record) (bindings : List (Binding H)) :
    Except Error (Registry H) := do
  let entries ← bindings.foldlM Binding.enter (draft.genericEntries records)
  pure ⟨entries⟩

/-- Builds the registry: the records' entries, with the bindings' entries in place of theirs. Both
tables are gone through by ascending opcode. -/
def build (draft : Draft H) : Except Error (Registry H) :=
  draft.buildInOrder draft.records.values draft.bindings.values

end Draft

end Registry

end MissionScript
