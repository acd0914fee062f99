import MissionScript.Error
import MissionScript.Text.Line

/-!
# Catalogues

A catalogue is a text with one record per line: four hexadecimal digits, an equals sign, the
argument count and, after a comma, free notes. The count -1 stands for variable arguments. Lines
that do not start with four digits and an equals sign (section heads, comments, blank lines) are
not records and are passed over; a record with a bad count is an error.

`Record.line` writes a record as `Catalogue.read` reads it.
-/

namespace MissionScript

/-- One record of a catalogue. -/
structure Record where
  opcode : Opcode
  /-- The number of arguments; a negative number stands for variable arguments. -/
  argumentCount : Int32
  notes : String
deriving DecidableEq, Repr, Inhabited

/-- The line that stands for a record. -/
def Record.line (record : Record) : List Char :=
  record.opcode.text.toList ++ '=' :: (toString record.argumentCount.toInt).toList ++
    ',' :: record.notes.toList

namespace Catalogue

/-- Whether the text before the equals sign makes a line a record. -/
def isKey (key : List Char) : Bool := key.length == 4 && key.all Text.isHexDigit

/-- The argument count of a record, at least -1. -/
def readCount (number : Nat) (text : List Char) : Except Error Int32 :=
  match Text.readSigned? 0x80000000 text with
  | none => .error (.invalidCount number (String.ofList text))
  | some count =>
    if count < -1 then .error (.invalidCount number (toString count))
    else .ok (Int32.ofInt count)

/-- Reads the line with the given number; the answer is `none` for a line that is no record. -/
def readLine (number : Nat) (line : List Char) : Except Error (Option Record) :=
  match Text.cutAt? '=' (Text.trim line) with
  | none => .ok none
  | some (key, rest) =>
    if !isKey key then .ok none
    else
      let (count, notes) := (Text.cutAt? ',' rest).getD (rest, [])
      match Text.readHexFrom 0 key, readCount number (Text.trim count) with
      | _, .error error => .error error
      | none, .ok _ => .ok none
      | some word, .ok argumentCount =>
        .ok (some {
          opcode := (Opcode.split (UInt16.ofNat word)).1
          argumentCount
          notes := String.ofList (Text.trim notes) })

/-- Reads lines from the one with the given number on. -/
def readLines (number : Nat) : List (List Char) → Except Error (List Record)
  | [] => .ok []
  | line :: rest =>
    match readLine number line with
    | .error error => .error error
    | .ok record? =>
      match readLines (number + 1) rest with
      | .error error => .error error
      | .ok records => .ok (record?.toList ++ records)

/-- The records of a catalogue, in order; lines are counted from one. -/
def read (text : String) : Except Error (List Record) := readLines 1 (Text.lines text.toList)

end Catalogue

end MissionScript
