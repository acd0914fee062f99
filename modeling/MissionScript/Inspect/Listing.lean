import MissionScript.Machine

/-!
# Listings

A listing shows the layout of a script and then every instruction of its code on a line of its
own. The start of a mission has a label, and an instruction that is jumped to names the
instructions that jump there.
-/

namespace MissionScript.Listing

/-- A name, filled up with blanks to thirteen characters. -/
def paddedName (name : String) : String :=
  name ++ String.ofList (List.replicate (13 - name.length) ' ')

def spanLine (name : String) (span : Span) : String :=
  s!"; {paddedName name} {Text.address8 span.start}..{Text.address8 span.stop}\n"

def modelLine (entry : String × Nat) : String := s!"; model {-(entry.2 : Int)} {entry.1}\n"

/-- The regions and the models. -/
def header (layout : Layout) : String :=
  spanLine "memory" layout.globals ++ spanLine "models" layout.models ++
    spanLine "mission table" layout.missionTable ++ spanLine "main code" layout.mainCode ++
    spanLine "mission code" layout.missionCode ++
    String.join (layout.modelNames.zipIdx.map modelLine)

/-- The label of the first mission that starts at an address. -/
def missionLabel (layout : Layout) (address : Nat) : String :=
  match layout.missions.findIdx? fun mission => mission.first == address with
  | some id => s!"\n:mission_{id}\n"
  | none => ""

/-- Names the instructions that jump to an address. -/
def sourceNote (sources : List Nat) : String :=
  if sources.isEmpty then ""
  else "  ; from " ++ String.intercalate ", " (sources.map Text.address8)

/-- The line of one instruction, with the label before it and the jumps to it. -/
def instructionLine (machine : Machine) (address : Nat) : Except Error String := do
  let instruction ← machine.decode address
  let some definition := machine.registry.definition? instruction.opcode
    | throw (.unknownOpcode instruction.opcode address)
  pure (missionLabel machine.layout address ++ Text.address8 address ++ "  " ++
    instruction.render definition ++ sourceNote (machine.code.sourcesOf address) ++ "\n")

/-- The listing of a script, unless some instruction can no longer be read. -/
def render (machine : Machine) : Except Error String := do
  let lines ← machine.code.starts.toList.mapM (instructionLine machine)
  pure (header machine.layout ++ String.join lines)

end MissionScript.Listing
