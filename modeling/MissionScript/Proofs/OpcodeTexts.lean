import MissionScript.Proofs.CatalogueRoundTrip
import MissionScript.Proofs.RegistryConstruction
import MissionScript.Proofs.SymbolHeaders

/-!
# Which texts are opcodes

An opcode is written as four hexadecimal digits. Reading checks the size of a text, in bytes, and leaves
the digits to the reader of numbers. That reader takes a plus sign before the digits, so that a plus sign
and three digits are read as an opcode as well. Nothing else is: a character of more than one byte can
make up the size, but it is never a digit.

Results:
1. `Text.hexDigit_iff` and `Text.readHexFrom_eq_some_iff`: digits and the numbers they stand for.
2. `Text.readHex?_eq_some_iff`: the texts that are read as a number.
3. `Opcode.reads_iff`: the texts of four bytes among them.
4. `opcode_texts_read`: what every text is read as, and which opcodes are read back from their own text.
-/

namespace MissionScript.Text

/-! ## 1. Numerals -/

/-- The character stands for the digit, as a letter in upper or in lower case from ten on. -/
def HexDigit (c : Char) (digit : Nat) : Prop :=
  "0123456789ABCDEF".toList[digit]? = some c ∨ "0123456789abcdef".toList[digit]? = some c

/-- Digits in base sixteen, the most significant one first, with the number that they stand for. -/
inductive Hexadecimal : List Char → Nat → Prop where
  | nil : Hexadecimal [] 0
  | cons {c : Char} {digit : Nat} {rest : List Char} {value : Nat} (isDigit : HexDigit c digit)
      (numeral : Hexadecimal rest value) :
      Hexadecimal (c :: rest) (digit * Nat.pow 16 rest.length + value)

/-- The characters that stand for a digit are those that have its value. -/
theorem hexDigit_iff {c : Char} {digit : Nat} : HexDigit c digit ↔ hexValue? c = some digit := by
  have upper : ∀ digit : Fin 16,
      "0123456789ABCDEF".toList[digit.val]? = some (upperDigit digit) := by decide
  have lower : ∀ digit : Fin 16,
      "0123456789abcdef".toList[digit.val]? = some (lowerDigit digit) := by decide
  rw [hexValue?_eq_some_iff]
  constructor
  · intro isDigit
    have small : digit < 16 := by
      rcases isDigit with isUpper | isLower
      · exact (List.getElem?_eq_some_iff.1 isUpper).1
      · exact (List.getElem?_eq_some_iff.1 isLower).1
    rw [HexDigit, upper ⟨digit, small⟩, lower ⟨digit, small⟩] at isDigit
    exact ⟨small, isDigit.imp (fun same => (Option.some.inj same).symm)
      fun same => (Option.some.inj same).symm⟩
  · rintro ⟨small, rfl | rfl⟩
    · exact Or.inl (upper ⟨digit, small⟩)
    · exact Or.inr (lower ⟨digit, small⟩)

theorem HexDigit.lt {c : Char} {digit : Nat} (isDigit : HexDigit c digit) : digit < 16 :=
  (hexValue?_eq_some_iff.1 (hexDigit_iff.1 isDigit)).1

/-- Digits in base sixteen are read as the number that they stand for, behind what was read before. -/
theorem readHexFrom_eq_some_iff {start value : Nat} {text : List Char} :
    readHexFrom start text = some value ↔
      ∃ number, Hexadecimal text number ∧ value = start * Nat.pow 16 text.length + number := by
  induction text generalizing start with
  | nil =>
    constructor
    · intro read
      obtain rfl := Option.some.inj read
      exact ⟨0, .nil, (Nat.mul_one _).symm⟩
    · rintro ⟨_, numeral, rfl⟩
      cases numeral
      exact congrArg some (Nat.mul_one start).symm
  | cons c rest ih =>
    -- the first digit counts as many sixteens as there are digits behind it, read now or added later
    have shifted (digit number : Nat) :
        start * Nat.pow 16 (c :: rest).length + (digit * Nat.pow 16 rest.length + number) =
          (start * 16 + digit) * Nat.pow 16 rest.length + number := by
      have wider : Nat.pow 16 (c :: rest).length = 16 * Nat.pow 16 rest.length := Nat.mul_comm _ _
      rw [wider, Nat.add_mul, Nat.mul_assoc, Nat.add_assoc]
    rw [readHexFrom]
    constructor
    · intro read
      split at read
      next digit isDigit =>
        obtain ⟨number, numeral, rfl⟩ := ih.1 read
        exact ⟨_, .cons (hexDigit_iff.2 isDigit) numeral, (shifted digit number).symm⟩
      · cases read
    · rintro ⟨_, numeral, rfl⟩
      cases numeral with
      | @cons _ digit _ number isDigit numeral =>
        rw [hexDigit_iff.1 isDigit]
        exact ih.2 ⟨number, numeral, shifted digit number⟩

theorem readHexFrom_zero_eq_some_iff {value : Nat} {text : List Char} :
    readHexFrom 0 text = some value ↔ Hexadecimal text value := by
  simp [readHexFrom_eq_some_iff]

namespace Hexadecimal

variable {digits : List Char} {value : Nat}

theorem lt (numeral : Hexadecimal digits value) : value < Nat.pow 16 digits.length := by
  induction numeral with
  | nil => exact Nat.one_pos
  | @cons _ digit rest value isDigit _ ih =>
    calc digit * Nat.pow 16 rest.length + value
        < digit * Nat.pow 16 rest.length + Nat.pow 16 rest.length := Nat.add_lt_add_left ih _
      _ = (digit + 1) * Nat.pow 16 rest.length := (Nat.succ_mul _ _).symm
      _ ≤ 16 * Nat.pow 16 rest.length := Nat.mul_le_mul_right _ isDigit.lt
      _ = Nat.pow 16 (rest.length + 1) := Nat.mul_comm _ _

/-- Every digit has one byte. -/
theorem byteSize_eq (numeral : Hexadecimal digits value) : byteSize digits = digits.length :=
  byteSize_of_readHexFrom (readHexFrom_zero_eq_some_iff.2 numeral)

/-- No digit is a plus sign. -/
theorem ne_plus (numeral : Hexadecimal digits value) (rest : List Char) : digits ≠ '+' :: rest := by
  rintro rfl
  cases numeral with
  | cons isDigit => cases hexDigit_iff.1 isDigit

end Hexadecimal

/-- The texts that are read as a number in base sixteen are its numerals, with at most one plus sign. -/
theorem readHex?_eq_some_iff {text : List Char} {value : Nat} :
    readHex? text = some value ↔ (text ≠ [] ∧ Hexadecimal text value) ∨
      ∃ digits, text = '+' :: digits ∧ digits ≠ [] ∧ Hexadecimal digits value := by
  have unsigned : readHex? text = some value ↔
      dropPlus text ≠ [] ∧ Hexadecimal (dropPlus text) value := by
    rw [readHex?, ← readHexFrom_zero_eq_some_iff]
    cases dropPlus text with
    | nil => simp
    | cons c rest => simp
  rw [unsigned]
  by_cases signed : ∃ digits, text = '+' :: digits
  · obtain ⟨digits, rfl⟩ := signed
    rw [dropPlus]
    constructor
    · rintro ⟨nonempty, numeral⟩
      exact Or.inr ⟨digits, rfl, nonempty, numeral⟩
    · rintro (⟨_, numeral⟩ | ⟨_, equal, read⟩)
      · exact absurd rfl (numeral.ne_plus digits)
      · cases equal
        exact read
  · rw [dropPlus.eq_2 text fun digits isText => signed ⟨digits, isText⟩]
    refine (or_iff_left ?_).symm
    rintro ⟨digits, isText, _⟩
    exact signed ⟨digits, isText⟩

end MissionScript.Text

namespace MissionScript.Opcode

/-! ## 2. Texts of four bytes -/

/-- The text is exactly four hexadecimal digits, in either case. -/
structure FourDigits (text : String) (value : Nat) : Prop where
  length : text.length = 4
  numeral : Text.Hexadecimal text.toList value

/-- The text is a plus sign and exactly three hexadecimal digits, in either case. -/
def PlusThreeDigits (text : String) (value : Nat) : Prop :=
  ∃ digits, text.toList = '+' :: digits ∧ digits.length = 3 ∧ Text.Hexadecimal digits value

/-- One of the two forms that are read as an opcode. -/
def Reads (text : String) (value : Nat) : Prop :=
  FourDigits text value ∨ PlusThreeDigits text value

theorem utf8ByteSize_eq (text : String) : text.utf8ByteSize = Text.byteSize text.toList := by
  rw [Text.byteSize, String.ofList_toList]

/-- A number in four bytes has four digits, or three and a plus sign. -/
theorem reads_iff {text : String} {value : Nat} :
    Reads text value ↔ text.utf8ByteSize = 4 ∧ Text.readHex? text.toList = some value := by
  -- digits and the plus sign have one byte each, so that the size is the number of characters
  rw [utf8ByteSize_eq, Text.readHex?_eq_some_iff]
  constructor
  · rintro (⟨length, numeral⟩ | ⟨digits, isText, length, numeral⟩)
    · rw [← String.length_toList] at length
      refine ⟨numeral.byteSize_eq.trans length, Or.inl ⟨?_, numeral⟩⟩
      exact List.ne_nil_of_length_pos (by omega)
    · have size : Text.byteSize ('+' :: digits) = 1 + digits.length := by
        rw [Text.byteSize_cons, numeral.byteSize_eq]
        rfl
      refine ⟨by rw [isText, size, length], Or.inr ⟨digits, isText, ?_, numeral⟩⟩
      exact List.ne_nil_of_length_pos (by omega)
  · rintro ⟨size, ⟨_, numeral⟩ | ⟨digits, isText, _, numeral⟩⟩
    · refine Or.inl ⟨?_, numeral⟩
      rw [← String.length_toList, ← numeral.byteSize_eq, size]
    · refine Or.inr ⟨digits, isText, ?_, numeral⟩
      rw [isText, Text.byteSize_cons, numeral.byteSize_eq] at size
      have single : '+'.utf8Size = 1 := rfl
      omega

theorem Reads.lt {text : String} {value : Nat} (reads : Reads text value) : value < 0x10000 := by
  rcases reads with ⟨length, numeral⟩ | ⟨digits, _, length, numeral⟩
  · have small := numeral.lt
    rwa [String.length_toList, length] at small
  · have small := numeral.lt
    rw [length] at small
    exact Nat.lt_trans small (by decide)

/-- The two forms exclude each other. -/
theorem FourDigits.not_plusThreeDigits {text : String} {value other : Nat}
    (four : FourDigits text value) : ¬ PlusThreeDigits text other := by
  rintro ⟨digits, isText, _⟩
  exact four.numeral.ne_plus digits isText

/-- What is left of a number without its negation bit. -/
theorem eq_split_iff {opcode : Opcode} {value : Nat} (small : value < 0x10000) :
    (split (UInt16.ofNat value)).1 = opcode ↔ opcode.key = value &&& 0x7FFF := by
  have cleared : (split (UInt16.ofNat value)).1.key = value &&& 0x7FFF := by
    rw [split_eq_bits, key, UInt16.toNat_and, UInt16.toNat_ofNat_of_lt' small]
    rfl
  rw [← cleared]
  constructor
  · rintro rfl
    rfl
  · intro sameKey
    have sameWord := UInt16.toNat_inj.1 sameKey
    cases opcode
    exact congrArg mk sameWord.symm

/-! ## 3. Reading -/

theorem read_eq_ok_iff {text : String} {opcode : Opcode} :
    read text = .ok opcode ↔ ∃ value, Reads text value ∧ opcode.key = value &&& 0x7FFF := by
  constructor
  · intro success
    unfold read at success
    split at success
    · cases success
    next size =>
      split at success
      next value isNumber =>
        have reads := reads_iff.2 ⟨Decidable.not_not.1 size, isNumber⟩
        exact ⟨value, reads, (eq_split_iff reads.lt).1 (Except.ok.inj success)⟩
      · cases success
  · rintro ⟨value, reads, isKey⟩
    obtain ⟨size, isNumber⟩ := reads_iff.1 reads
    rw [read, if_neg (not_not_intro size), isNumber]
    exact congrArg Except.ok ((eq_split_iff reads.lt).2 isKey)

/-- A text of any other form is refused, for its size if that is not four bytes. -/
theorem read_eq_error_iff {text : String} {error : ReadError} :
    read text = .error error ↔ (∀ value, ¬ Reads text value) ∧
      error = if text.utf8ByteSize = 4 then .digit text else .length text := by
  simp only [reads_iff, not_and]
  unfold read
  by_cases size : text.utf8ByteSize = 4
  · rw [if_neg (not_not_intro size), if_pos size]
    cases Text.readHex? text.toList with
    | none => simp [eq_comm]
    | some value => simp [size]
  · simp [size, eq_comm]

/-! ## 4. Written opcodes -/

theorem fourDigits_text (opcode : Opcode) : FourDigits opcode.text opcode.key where
  length := by rw [← String.length_toList, (Catalogue.isKey_text opcode).length]
  numeral := Text.readHexFrom_zero_eq_some_iff.1 (Catalogue.readHexFrom_text opcode)

/-- An opcode is read back from its own text unless it has the negation bit. -/
theorem read_text_iff {opcode : Opcode} :
    read opcode.text = .ok opcode ↔ opcode.word < 0x8000 := by
  rw [UInt16.lt_iff_toNat_lt, read_eq_ok_iff]
  constructor
  · rintro ⟨value, _, isKey⟩
    exact Nat.lt_of_le_of_lt (isKey ▸ Nat.and_le_right) (by decide)
  · intro plain
    refine ⟨opcode.key, Or.inl (fourDigits_text opcode), ?_⟩
    exact ((Nat.and_two_pow_sub_one_eq_mod opcode.key 15).trans (Nat.mod_eq_of_lt plain)).symm

end MissionScript.Opcode

namespace MissionScript

/-- A text is read as an opcode exactly when it is four hexadecimal digits or a plus sign and three of
them, and the opcode is their value without the negation bit. Every other text is refused, by its size
in bytes or for what is in it. So the four digits alone decide unless the text has the plus sign, and
precisely the opcodes without the negation bit are read back from their own text. -/
theorem opcode_texts_read (text : String) :
    (∀ opcode, Opcode.read text = .ok opcode ↔
      ∃ value, (Opcode.FourDigits text value ∨ Opcode.PlusThreeDigits text value) ∧
        opcode.key = value &&& 0x7FFF) ∧
    (∀ error, Opcode.read text = .error error ↔
      (∀ value, ¬ (Opcode.FourDigits text value ∨ Opcode.PlusThreeDigits text value)) ∧
        error = if text.utf8ByteSize = 4 then .digit text else .length text) ∧
    ((∀ opcode, Opcode.read text = .ok opcode ↔
        ∃ value, Opcode.FourDigits text value ∧ opcode.key = value &&& 0x7FFF) ↔
      ∀ value, ¬ Opcode.PlusThreeDigits text value) ∧
    ∀ opcode : Opcode, Opcode.read opcode.text = .ok opcode ↔ opcode.word < 0x8000 := by
  refine ⟨fun _ => Opcode.read_eq_ok_iff, fun _ => Opcode.read_eq_error_iff, ?_,
    fun _ => Opcode.read_text_iff⟩
  constructor
  · intro digitsOnly value plus
    have reads : Opcode.Reads text value := Or.inr plus
    have success := Opcode.read_eq_ok_iff.2 ⟨value, reads, ((Opcode.eq_split_iff reads.lt).1 rfl)⟩
    obtain ⟨_, four, _⟩ := (digitsOnly _).1 success
    exact four.not_plusThreeDigits plus
  · intro noPlus opcode
    rw [Opcode.read_eq_ok_iff]
    refine exists_congr fun value => and_congr_left fun _ => ?_
    exact or_iff_left (noPlus value)

-- Four bytes in three characters: the size is right, and the first character is no digit.
example : Opcode.read "é00" = .error (.digit "é00") := rfl

/-- A plus sign and three digits are read as an opcode, although they are not four digits. -/
theorem plus_sign_read_as_digit :
    Opcode.read "+0FF" = .ok ⟨0x00FF⟩ ∧ ¬ ∃ value, Opcode.FourDigits "+0FF" value := by
  refine ⟨rfl, ?_⟩
  rintro ⟨value, four⟩
  exact four.numeral.ne_plus ['0', 'F', 'F'] (by decide)

end MissionScript
