import MissionScript.Text.Digits
import MissionScript.Text.Hidden

/-!
# Quoted text

String operands and string values are shown between double quotes. A quote, a backslash and the
common controls have short escapes; every other character that would not be seen is written by its
code point.
-/

namespace MissionScript.Text

/-- Whether a character is written by its code point. -/
def needsCode (c : Char) : Bool :=
  if c.toNat < 0x80 then c.toNat < 0x20 || c.toNat == 0x7F else isHidden c

/-- A character as it stands between the quotes. -/
def quoteChar (c : Char) : List Char :=
  match c with
  | '\x00' => ['\\', '0']
  | '\t' => ['\\', 't']
  | '\r' => ['\\', 'r']
  | '\n' => ['\\', 'n']
  | '"' => ['\\', '"']
  | '\\' => ['\\', '\\']
  | other =>
    if needsCode other then
      ['\\', 'u', '\x7b'] ++ lowerHex 1 other.toNat ++ ['\x7d']
    else [other]

/-- The text between double quotes, with escapes. -/
def quote (text : String) : String :=
  String.ofList ('"' :: text.toList.flatMap quoteChar ++ ['"'])

end MissionScript.Text
