import MissionScript.Machine.Behaviour

/-!
# Files

The tools see files as a function from names to contents, so that what they do with a set of files
is a plain function. `Registry.ofFiles` reads a catalogue, and a symbol header if there is one, and
binds the built-in instructions on top.
-/

namespace MissionScript

/-- The bytes of the file with a name, or why they cannot be read. -/
abbrev Files := String → Except String (Array UInt8)

/-- The reason given for a file that does not exist. -/
def Files.missing : String := "No such file or directory (os error 2)"

/-- The text of a file. -/
def Files.readText (files : Files) (name : String) : Except Error String :=
  match files name with
  | .error reason => .error (.unreadableFile s!"{name}: {reason}")
  | .ok bytes =>
    match Text.decodeStrict? bytes.toList with
    | some text => .ok text
    | none => .error (.unreadableFile s!"{name}: stream did not contain valid UTF-8")

/-- The registry of a catalogue file with the built-in instructions. The symbol header is read
first. -/
def Registry.ofFiles (files : Files) (catalogue : String) (symbols? : Option String) :
    Except Error (Registry Handler) := do
  let mut draft := Registry.Draft.empty
  if let some symbols := symbols? then
    draft := draft.addNames (← Symbols.read (← files.readText symbols))
  draft ← draft.addRecords (← Catalogue.read (← files.readText catalogue))
  draft ← draft.bindAll Builtin.bindings
  draft.build

end MissionScript
