import MissionScript.Error
import MissionScript.Table
import MissionScript.Text.Line

/-!
# Symbol headers

A symbol header names opcodes, one on a line, as `/* 0001 */ ... "WAIT"`: after the comment's
opening stands a word of hexadecimal digits, and the first text between double quotes after it is
the name. Other lines name nothing. The last line about an opcode counts.

The name is looked for from a place that lies as many bytes after the comment's opening as the
word is long. Where blanks stand between the opening and the word, that place is before the end of
the word; a wide blank there can put it inside a character, and then the header cannot be read.
-/

namespace MissionScript.Symbols

/-- Characters of a name. -/
def isNameChar (c : Char) : Bool := c.isAlphanum || c == '_'

/-- The text between the first two double quotes. -/
def firstQuoted? (text : List Char) : Option (List Char) :=
  match Text.cutAt? '"' text with
  | none => none
  | some (_, quoted) => (Text.cutAt? '"' quoted).map Prod.fst

/-- What a line names, if it names anything. -/
def readLine (number : Nat) (line : List Char) : Except Error (Option (Opcode × String)) :=
  match Text.after? ['/', '*', ' '] line with
  | none => .ok none
  | some rest =>
    let word := Text.firstWord rest
    match word, Text.readHexFrom 0 word with
    | [], _ => .ok none
    | _, none => .ok none
    | _, some value =>
      if 0x10000 ≤ value then .ok none
      else
        match Text.dropBytes? rest word.length with
        | none => .error (.splitCharacter number)
        | some after =>
          match firstQuoted? after with
          | none => .ok none
          | some name =>
            if name.isEmpty || !name.all isNameChar then .ok none
            else .ok (some (⟨UInt16.ofNat value⟩, String.ofList name))

/-- Adds what the lines name, the first of them having the given number. -/
def readLines (names : Table String) (number : Nat) : List (List Char) → Except Error (Table String)
  | [] => .ok names
  | line :: rest =>
    match readLine number line with
    | .error error => .error error
    | .ok none => readLines names (number + 1) rest
    | .ok (some (opcode, name)) => readLines (names.insert opcode.key name) (number + 1) rest

/-- The names in a header, by opcode. -/
def read (text : String) : Except Error (Table String) :=
  readLines .empty 1 (Text.lines text.toList)

end MissionScript.Symbols
