import MissionScript.Bytes
import MissionScript.Text.Digits

/-!
# Opcodes

An instruction starts with a 16-bit word. Its top bit is not part of the opcode: it says that the
instruction's condition is inverted. `Opcode.split` takes a word apart and `Opcode.raw` puts one
together.
-/

namespace MissionScript

/-- The identity of an instruction. Words read from a script have their top bit cleared first. -/
structure Opcode where
  word : UInt16
deriving DecidableEq, Repr, Inhabited

namespace Opcode

/-- The weight of the negation bit. -/
def negationBit : UInt16 := 0x8000

/-- Takes a word apart into the opcode and the negation flag. -/
def split (raw : UInt16) : Opcode × Bool := (⟨raw % negationBit⟩, decide (negationBit ≤ raw))

/-- The word of an opcode with its negation flag. -/
def raw (opcode : Opcode) (negated : Bool) : UInt16 :=
  if negated then opcode.word % negationBit + negationBit else opcode.word

/-- Taking a word apart loses nothing. -/
@[simp] theorem raw_split (raw : UInt16) : (split raw).1.raw (split raw).2 = raw := by
  simp only [split, Opcode.raw, negationBit]
  apply UInt16.toNat_inj.1
  have bound := raw.toNat_lt
  by_cases high : 0x8000 ≤ raw
  · have := UInt16.le_iff_toNat_le.1 high
    simp at this
    simp [high]
    omega
  · have : raw.toNat < 32768 := by
      have := mt UInt16.le_iff_toNat_le.2 high
      simpa using this
    simp [high]
    omega

/-- The number of bytes of the word. -/
def width : Nat := 2

/-- The bytes of the word. -/
def bytes (opcode : Opcode) (negated : Bool) : List UInt8 :=
  toLittleEndian width (opcode.raw negated).toNat

/-- The key under which tables hold an opcode. -/
def key (opcode : Opcode) : Nat := opcode.word.toNat

/-- Four upper case hexadecimal digits. -/
def text (opcode : Opcode) : String := String.ofList (Text.hexDigits Text.upperDigit 4 opcode.key)

instance : ToString Opcode := ⟨text⟩

/-- Why a text names no opcode. -/
inductive ReadError where
  | length (text : String)
  | digit (text : String)
deriving DecidableEq, Repr

def ReadError.message : ReadError → String
  | .length text => s!"opcode '{text}' must be 4 hex digits"
  | .digit text => s!"opcode '{text}': invalid digit found in string"

/-- Reads four bytes of text as an opcode, dropping the negation bit. A plus sign may take the
place of the first digit. -/
def read (text : String) : Except ReadError Opcode :=
  if text.utf8ByteSize ≠ 4 then .error (.length text)
  else
    match Text.readHex? text.toList with
    | some word => .ok (split (UInt16.ofNat word)).1
    | none => .error (.digit text)

end Opcode

end MissionScript
