/-!
# Numbers as digits

Writing numbers in fixed or least width, and reading them back with the bounds of the number
type they are meant for. Readers accept ASCII digits only; a leading plus sign is accepted
everywhere, a leading minus sign only for signed numbers.
-/

namespace MissionScript.Text

/-! ## 1. Writing -/

/-- The digit character of a value below sixteen, letters in upper case. -/
def upperDigit (value : Nat) : Char :=
  if value < 10 then Char.ofNat (48 + value) else Char.ofNat (55 + value)

/-- The digit character of a value below sixteen, letters in lower case. -/
def lowerDigit (value : Nat) : Char :=
  if value < 10 then Char.ofNat (48 + value) else Char.ofNat (87 + value)

/-- The last `width` digits of a number in base sixteen, most significant first. -/
def hexDigits (digit : Nat → Char) : Nat → Nat → List Char
  | 0, _ => []
  | width + 1, value => hexDigits digit width (value / 16) ++ [digit (value % 16)]

@[simp] theorem length_hexDigits (digit : Nat → Char) (width value : Nat) :
    (hexDigits digit width value).length = width := by
  induction width generalizing value with
  | zero => rfl
  | succ width ih => simp [hexDigits, ih]

/-- How many digits base sixteen needs for a number, at least one and at most `fuel`. -/
def hexLength : Nat → Nat → Nat
  | 0, _ => 1
  | fuel + 1, value => if value < 16 then 1 else hexLength fuel (value / 16) + 1

/-- Upper case base sixteen, padded with zeros to `width` digits and longer where needed. -/
def upperHex (width value : Nat) : List Char :=
  hexDigits upperDigit (max width (hexLength value value)) value

/-- Lower case base sixteen, padded with zeros to `width` digits and longer where needed. -/
def lowerHex (width value : Nat) : List Char :=
  hexDigits lowerDigit (max width (hexLength value value)) value

/-- The two lower case digits of a byte. -/
def byteHex (byte : UInt8) : List Char := hexDigits lowerDigit 2 byte.toNat

/-- A byte string as lower case digit pairs. -/
def bytesHex (bytes : List UInt8) : String := String.ofList (bytes.flatMap byteHex)

/-- Decimal digits, padded with zeros to `width` digits and longer where needed. -/
def paddedDecimal (width value : Nat) : List Char :=
  let digits := Nat.toDigits 10 value
  List.replicate (width - digits.length) '0' ++ digits

/-- Addresses in listings and trace lines have at least eight decimal digits. -/
def address8 (address : Nat) : String := String.ofList (paddedDecimal 8 address)

/-! ## 2. Reading -/

/-- The value of an ASCII digit in base sixteen, in either case. -/
def hexValue? (c : Char) : Option Nat :=
  if '0' ≤ c ∧ c ≤ '9' then some (c.toNat - 48)
  else if 'a' ≤ c ∧ c ≤ 'f' then some (c.toNat - 87)
  else if 'A' ≤ c ∧ c ≤ 'F' then some (c.toNat - 55)
  else none

/-- Whether a character is an ASCII digit in base sixteen. -/
def isHexDigit (c : Char) : Bool := (hexValue? c).isSome

/-- Reads on in base sixteen after digits worth `value`. -/
def readHexFrom (value : Nat) : List Char → Option Nat
  | [] => some value
  | c :: rest =>
    match hexValue? c with
    | some digit => readHexFrom (value * 16 + digit) rest
    | none => none

/-- The text without one leading plus sign. -/
def dropPlus : List Char → List Char
  | '+' :: rest => rest
  | text => text

/-- A number in base sixteen: at least one digit, after at most one plus sign. -/
def readHex? (text : List Char) : Option Nat :=
  match dropPlus text with
  | [] => none
  | digits => readHexFrom 0 digits

/-- A number in base ten: at least one digit and nothing else. -/
def readDigits? (digits : List Char) : Option Nat :=
  if digits.isEmpty || !digits.all Char.isDigit then none
  else some (Nat.ofDigitChars 10 digits 0)

/-- An unsigned decimal number below `bound`, after at most one plus sign. -/
def readUnsigned? (bound : Nat) (text : List Char) : Option Nat :=
  match readDigits? (dropPlus text) with
  | some value => if value < bound then some value else none
  | none => none

/-- A signed decimal number in `-bound .. bound - 1`, after at most one sign. -/
def readSigned? (bound : Nat) : List Char → Option Int
  | '-' :: digits =>
    match readDigits? digits with
    | some value => if value ≤ bound then some (-(value : Int)) else none
    | none => none
  | text => (readUnsigned? bound text).map Int.ofNat

end MissionScript.Text
