import MissionScript.Text.Digits
import MissionScript.Text.Line

/-!
# Lines, cuts and numerals

Catalogues and symbol headers are read line by line. A line is trimmed, cut at marks, and its parts
are read as numbers. This module says what each of these steps does to text of a known shape.

1. `Text.cutAt?_eq_some_iff` and `Text.cutAt?_eq_none_iff`: a cut is at the first mark.
2. `Text.trim_append_blanks` and `Text.trim_eq_self`: only blanks at the ends matter.
3. `Text.lines_append_end`: text up to the end of a line is that line, whatever comes after it.
4. `Text.readSigned?_eq_some_iff`: the texts that are read as a signed number are its numerals.
5. `Text.readHexFrom_hexDigits`: digits in base sixteen are read back.
-/

namespace MissionScript.Text

/-! ## 1. Cuts -/

section Cuts

variable {mark : Char} {text before after : List Char}

theorem cutAt?_cons (c : Char) (rest : List Char) :
    cutAt? mark (c :: rest) =
      if c = mark then some ([], rest)
      else (cutAt? mark rest).map fun parts => (c :: parts.1, parts.2) := by
  unfold cutAt?
  by_cases same : c = mark
  · simp [same]
  · have passed : (c != mark) = true := bne_iff_ne.2 same
    simp only [List.dropWhile_cons, List.takeWhile_cons, passed, if_true, if_neg same]
    split <;> rfl

theorem cutAt?_eq_none_iff : cutAt? mark text = none ↔ mark ∉ text := by
  induction text with
  | nil => exact iff_of_true rfl List.not_mem_nil
  | cons c rest ih =>
    rw [cutAt?_cons, List.mem_cons, not_or]
    by_cases same : c = mark
    · rw [if_pos same]
      exact iff_of_false (fun impossible => by cases impossible) fun others => others.1 same.symm
    · rw [if_neg same, Option.map_eq_none_iff, ih]
      exact (and_iff_right (Ne.symm same)).symm

/-- A cut is at the first mark. -/
theorem cutAt?_eq_some_iff :
    cutAt? mark text = some (before, after) ↔ text = before ++ mark :: after ∧ mark ∉ before := by
  induction text generalizing before with
  | nil => simp [cutAt?]
  | cons c rest ih =>
    rw [cutAt?_cons]
    by_cases same : c = mark
    · rw [if_pos same]
      cases before with
      | nil => simp [same]
      | cons first others => simp +contextual [same]
    · rw [if_neg same, Option.map_eq_some_iff]
      cases before with
      | nil => simp [same]
      | cons first others =>
        constructor
        · rintro ⟨parts, cut, equal⟩
          cases equal
          obtain ⟨rfl, absent⟩ := ih.1 cut
          exact ⟨rfl, List.not_mem_cons_of_ne_of_not_mem (Ne.symm same) absent⟩
        · rintro ⟨equal, absent⟩
          obtain ⟨rfl, rfl⟩ := List.cons.inj equal
          exact ⟨(others, after), ih.2 ⟨rfl, List.not_mem_of_not_mem_cons absent⟩, rfl⟩

end Cuts

/-! ## 2. Blanks -/

theorem dropWhile_eq_self {α : Type} {test : α → Bool} {items : List α}
    (starts : ∀ item, items.head? = some item → test item = false) : items.dropWhile test = items := by
  cases items with
  | nil => rfl
  | cons first rest => rw [List.dropWhile_cons_of_neg (by rw [starts first rfl]; exact Bool.false_ne_true)]

/-- Blanks behind a text are trimmed away. -/
theorem trim_append_blanks {blanks : List Char} (blank : ∀ c ∈ blanks, isBlank c = true)
    (text : List Char) : trim (text ++ blanks) = trim text := by
  have noneLeft : blanks.dropWhile isBlank = [] := by
    have dropped : (blanks ++ []).dropWhile isBlank = [] := List.dropWhile_append_of_pos blank
    rwa [List.append_nil] at dropped
  unfold trim
  rw [List.dropWhile_append]
  split
  next nothing => rw [List.isEmpty_iff.1 nothing, noneLeft]
  · rw [List.reverse_append, List.dropWhile_append_of_pos]
    intro c member
    exact blank c (List.mem_reverse.1 member)

theorem trim_eq_self {text : List Char} (starts : ∀ c, text.head? = some c → isBlank c = false)
    (ends : ∀ c, text.getLast? = some c → isBlank c = false) : trim text = text := by
  unfold trim
  rw [dropWhile_eq_self starts, dropWhile_eq_self, List.reverse_reverse]
  intro c isHead
  rw [List.head?_reverse] at isHead
  exact ends c isHead

/-- What has been trimmed does not end with a blank. -/
theorem not_isBlank_getLast_trim {text : List Char} {c : Char} (isLast : (trim text).getLast? = some c) :
    isBlank c = false := by
  unfold trim at isLast
  rw [List.getLast?_reverse] at isLast
  have head := List.head?_dropWhile_not isBlank (text.dropWhile isBlank).reverse
  rw [isLast] at head
  exact head

/-! ## 3. Lines -/

/-- A line without the carriage return at its end. -/
def dropReturn : List Char → List Char
  | [] => []
  | ['\r'] => []
  | c :: rest => c :: dropReturn rest

theorem linesFrom_cons {current rest : List Char} {c : Char} (notBreak : c ≠ '\n')
    (notEnd : c = '\r' → rest.head? ≠ some '\n') :
    linesFrom current (c :: rest) = linesFrom (c :: current) rest := by
  refine linesFrom.eq_4 current c rest (fun after isReturn isBreak => ?_) notBreak
  exact notEnd isReturn (isBreak ▸ rfl)

/-- Text up to a line feed is a line, except for a carriage return right before the line feed. -/
theorem linesFrom_append_break {line : List Char} (noBreak : '\n' ∉ line)
    (current rest : List Char) :
    linesFrom current (line ++ '\n' :: rest) =
      (current.reverse ++ dropReturn line) :: linesFrom [] rest := by
  induction line generalizing current with
  | nil => rw [List.nil_append, linesFrom, dropReturn, List.append_nil]
  | cons c tail ih =>
    obtain ⟨notBreak, tailNoBreak⟩ := not_or.1 (mt List.mem_cons.2 noBreak)
    by_cases isReturn : c = '\r' ∧ tail = []
    · obtain ⟨rfl, rfl⟩ := isReturn
      rw [List.singleton_append, linesFrom, dropReturn, List.append_nil]
    · have kept : dropReturn (c :: tail) = c :: dropReturn tail :=
        dropReturn.eq_3 c tail fun isC isTail => isReturn ⟨isC, isTail⟩
      have notEnd : c = '\r' → (tail ++ '\n' :: rest).head? ≠ some '\n' := by
        intro isC starts
        cases tail with
        | nil => exact isReturn ⟨isC, rfl⟩
        | cons d others => exact tailNoBreak (Option.some.inj starts ▸ List.mem_cons_self)
      rw [List.cons_append, linesFrom_cons (Ne.symm notBreak) notEnd, ih tailNoBreak, kept,
        List.reverse_cons, List.append_assoc, List.singleton_append]

/-- Text without a line feed is one line, unless it is empty. -/
theorem linesFrom_of_noBreak {line : List Char} (noBreak : '\n' ∉ line) (current : List Char) :
    linesFrom current line =
      if (current.reverse ++ line).isEmpty then [] else [current.reverse ++ line] := by
  induction line generalizing current with
  | nil => simp [linesFrom]
  | cons c tail ih =>
    obtain ⟨notBreak, tailNoBreak⟩ := not_or.1 (mt List.mem_cons.2 noBreak)
    have notEnd : c = '\r' → tail.head? ≠ some '\n' :=
      fun _ starts => tailNoBreak (List.mem_of_mem_head? starts)
    rw [linesFrom_cons (Ne.symm notBreak) notEnd, ih tailNoBreak, List.reverse_cons,
      List.append_assoc, List.singleton_append]

theorem dropReturn_append_return (line : List Char) : dropReturn (line ++ ['\r']) = line := by
  induction line with
  | nil => rfl
  | cons c tail ih =>
    have notLast : tail ++ ['\r'] ≠ [] := List.append_ne_nil_of_right_ne_nil tail (List.cons_ne_nil _ _)
    rw [List.cons_append, dropReturn.eq_3 _ _ fun _ => notLast, ih]

/-- At most a carriage return is missing. -/
theorem eq_dropReturn_append (line : List Char) :
    ∃ blanks, line = dropReturn line ++ blanks ∧ ∀ c ∈ blanks, isBlank c = true := by
  fun_induction dropReturn line with
  | case1 => exact ⟨[], rfl, List.forall_mem_nil _⟩
  | case2 => exact ⟨['\r'], rfl, List.forall_mem_singleton.2 rfl⟩
  | case3 c tail _ ih =>
    obtain ⟨blanks, equal, blank⟩ := ih
    exact ⟨blanks, congrArg (c :: ·) equal, blank⟩

theorem trim_dropReturn (line : List Char) : trim (dropReturn line) = trim line := by
  obtain ⟨blanks, equal, blank⟩ := eq_dropReturn_append line
  rw [← trim_append_blanks blank (dropReturn line), ← equal]

/-- How the lines of a text are ended. -/
inductive LineEnd where
  | feed
  | returnFeed
deriving DecidableEq, Repr

def LineEnd.chars : LineEnd → List Char
  | .feed => ['\n']
  | .returnFeed => ['\r', '\n']

/-- Text up to the end of a line is that line, as far as trimming goes. -/
theorem lines_append_end {line : List Char} (noBreak : '\n' ∉ line) (ending : LineEnd)
    (rest : List Char) :
    ∃ first, lines (line ++ ending.chars ++ rest) = first :: lines rest ∧ trim first = trim line := by
  cases ending with
  | feed =>
    refine ⟨dropReturn line, ?_, trim_dropReturn line⟩
    rw [LineEnd.chars, List.append_assoc, List.singleton_append]
    exact linesFrom_append_break noBreak [] rest
  | returnFeed =>
    refine ⟨line, ?_, rfl⟩
    have returned : line ++ ['\r', '\n'] ++ rest = (line ++ ['\r']) ++ '\n' :: rest := by simp
    have noBreakBefore : '\n' ∉ line ++ ['\r'] := by simpa using noBreak
    rw [LineEnd.chars, returned]
    refine (linesFrom_append_break noBreakBefore [] rest).trans ?_
    rw [dropReturn_append_return]
    rfl

theorem lines_of_noBreak {line : List Char} (noBreak : '\n' ∉ line) :
    lines line = if line.isEmpty then [] else [line] :=
  linesFrom_of_noBreak noBreak []

theorem dropReturn_eq_self {line : List Char} (noReturn : '\r' ∉ line) : dropReturn line = line := by
  fun_induction dropReturn line with
  | case1 => rfl
  | case2 => exact absurd List.mem_cons_self noReturn
  | case3 c tail _ ih => rw [ih (List.not_mem_of_not_mem_cons noReturn)]

/-- Lines that are ended one by one are read as they are. -/
theorem lines_flatMap_feed {lines : List (List Char)} (noBreak : ∀ line ∈ lines, '\n' ∉ line)
    (noReturn : ∀ line ∈ lines, '\r' ∉ line) :
    Text.lines (lines.flatMap fun line => line ++ ['\n']) = lines := by
  induction lines with
  | nil => rfl
  | cons line rest ih =>
    obtain ⟨lineBreak, restBreak⟩ := List.forall_mem_cons.1 noBreak
    obtain ⟨lineReturn, restReturn⟩ := List.forall_mem_cons.1 noReturn
    rw [List.flatMap_cons, List.append_assoc, List.singleton_append, Text.lines,
      linesFrom_append_break lineBreak, dropReturn_eq_self lineReturn]
    exact congrArg (line :: ·) (ih restBreak restReturn)

/-! ## 4. Numerals -/

/-- At least one digit and nothing else, with the number that the digits stand for. -/
structure Decimal (digits : List Char) (value : Nat) : Prop where
  nonempty : digits ≠ []
  isDigit : ∀ c ∈ digits, c.isDigit = true
  value : Nat.ofDigitChars 10 digits 0 = value

/-- Digits with at most one sign before them, with the number that they stand for. -/
inductive Numeral : List Char → Int → Prop where
  | plain {digits : List Char} {value : Nat} (decimal : Decimal digits value) : Numeral digits value
  | plus {digits : List Char} {value : Nat} (decimal : Decimal digits value) :
      Numeral ('+' :: digits) value
  | minus {digits : List Char} {value : Nat} (decimal : Decimal digits value) :
      Numeral ('-' :: digits) (-value)

theorem readDigits?_eq_some_iff {digits : List Char} {value : Nat} :
    readDigits? digits = some value ↔ Decimal digits value := by
  unfold readDigits?
  constructor
  · intro read
    split at read
    · cases read
    next proper =>
      simp only [Bool.or_eq_true, List.isEmpty_iff, Bool.not_eq_true', not_or, Bool.not_eq_false,
        List.all_eq_true] at proper
      exact ⟨proper.1, proper.2, Option.some.inj read⟩
  · rintro ⟨nonempty, isDigit, rfl⟩
    rw [if_neg]
    simpa using ⟨nonempty, isDigit⟩

theorem Decimal.ne_cons {digits : List Char} {value : Nat} (decimal : Decimal digits value) {c : Char}
    (notDigit : c.isDigit = false) (rest : List Char) : digits ≠ c :: rest := by
  rintro rfl
  have isDigit := decimal.isDigit c List.mem_cons_self
  rw [notDigit] at isDigit
  cases isDigit

theorem readUnsigned?_eq_some_iff {bound value : Nat} {text : List Char} :
    readUnsigned? bound text = some value ↔ Decimal (dropPlus text) value ∧ value < bound := by
  unfold readUnsigned?
  rw [← readDigits?_eq_some_iff]
  cases readDigits? (dropPlus text) with
  | none => simp
  | some number =>
    simp only [Option.some.injEq]
    split
    next small => simpa using fun same => same ▸ small
    next great =>
      refine iff_of_false (fun impossible => by cases impossible) ?_
      rintro ⟨rfl, small⟩
      exact great small

/-- A numeral without a minus sign is digits, after a plus sign if there is one. -/
theorem decimal_dropPlus_iff {text : List Char} {value : Nat}
    (notMinus : ∀ digits, text ≠ '-' :: digits) :
    Decimal (dropPlus text) value ↔ Numeral text value := by
  constructor
  · intro decimal
    unfold dropPlus at decimal
    split at decimal
    · exact .plus decimal
    · exact .plain decimal
  · intro numeral
    generalize isNumber : (value : Int) = number at numeral
    cases numeral with
    | plain decimal =>
      obtain rfl := Int.ofNat.inj isNumber
      rwa [dropPlus.eq_2 text fun rest => decimal.ne_cons rfl rest]
    | plus decimal =>
      obtain rfl := Int.ofNat.inj isNumber
      exact decimal
    | minus decimal => exact absurd rfl (notMinus _)

/-- What is read as a signed number is a numeral in the range of numbers. -/
theorem readSigned?_eq_some_iff {bound : Nat} (positive : 0 < bound) {text : List Char} {value : Int} :
    readSigned? bound text = some value ↔
      Numeral text value ∧ -(bound : Int) ≤ value ∧ value < bound := by
  by_cases isMinus : ∃ digits, text = '-' :: digits
  · obtain ⟨digits, rfl⟩ := isMinus
    rw [readSigned?]
    constructor
    · intro read
      split at read
      next number isNumber =>
        split at read
        next small =>
          cases read
          exact ⟨.minus (readDigits?_eq_some_iff.1 isNumber), by omega, by omega⟩
        · cases read
      · cases read
    · rintro ⟨numeral, notBelow, _⟩
      cases numeral with
      | plain decimal => exact absurd rfl (decimal.ne_cons rfl digits)
      | @minus _ number decimal =>
        have small : number ≤ bound := by omega
        simp only [readDigits?_eq_some_iff.2 decimal, if_pos small]
  · have notMinus : ∀ digits, text ≠ '-' :: digits := fun digits same => isMinus ⟨digits, same⟩
    rw [readSigned?.eq_2 bound text notMinus, Option.map_eq_some_iff]
    constructor
    · rintro ⟨number, read, rfl⟩
      obtain ⟨decimal, small⟩ := readUnsigned?_eq_some_iff.1 read
      refine ⟨(decimal_dropPlus_iff notMinus).1 decimal, ?_, Int.ofNat_lt.2 small⟩
      exact Int.le_trans (Int.neg_nonpos_of_nonneg (Int.natCast_nonneg bound)) (Int.natCast_nonneg number)
    · rintro ⟨numeral, _, small⟩
      obtain ⟨number, rfl⟩ : ∃ number : Nat, value = number := by
        cases numeral with
        | plain | plus => exact ⟨_, rfl⟩
        | minus => exact absurd rfl (notMinus _)
      refine ⟨number, readUnsigned?_eq_some_iff.2 ⟨?_, Int.ofNat_lt.1 small⟩, rfl⟩
      exact (decimal_dropPlus_iff notMinus).2 numeral

/-- A number is written as a numeral for it. -/
theorem numeral_toString (value : Int) : Numeral (toString value).toList value := by
  have decimal (number : Nat) : Decimal (Nat.toDigits 10 number) number :=
    ⟨Nat.toDigits_ne_nil, fun c member => Nat.isDigit_of_mem_toDigits (by decide) (by decide) member,
      Nat.ofDigitChars_ten_toDigits⟩
  rw [Int.toString_eq_repr]
  cases value with
  | ofNat number =>
    show Numeral (String.ofList (Nat.toDigits 10 number)).toList _
    rw [String.toList_ofList]
    exact .plain (decimal number)
  | negSucc number =>
    show Numeral ("-" ++ String.ofList (Nat.toDigits 10 (number + 1))).toList _
    simp only [String.toList_append, String.toList_ofList]
    exact .minus (decimal (number + 1))

/-- Digits and signs are neither blanks nor commas nor line feeds. -/
theorem Numeral.char {text : List Char} {value : Int} (numeral : Numeral text value) {c : Char}
    (member : c ∈ text) : isBlank c = false ∧ c ≠ ',' ∧ c ≠ '\n' := by
  have digit {c : Char} (isDigit : c.isDigit = true) : isBlank c = false ∧ c ≠ ',' ∧ c ≠ '\n' := by
    have bounds : 48 ≤ c.toNat ∧ c.toNat ≤ 57 := by
      simpa [Char.isDigit, UInt32.le_iff_toNat_le] using isDigit
    refine ⟨?_, ?_, ?_⟩
    · simp [isBlank]
      omega
    · rintro rfl
      cases isDigit
    · rintro rfl
      cases isDigit
  cases numeral with
  | plain decimal => exact digit (decimal.isDigit c member)
  | plus decimal | minus decimal =>
    rcases List.mem_cons.1 member with rfl | inDigits
    · decide
    · exact digit (decimal.isDigit c inDigits)

/-! ## 5. Hexadecimal digits -/

theorem hexValue?_upperDigit {digit : Nat} (small : digit < 16) :
    hexValue? (upperDigit digit) = some digit := by
  have every : ∀ digit : Fin 16, hexValue? (upperDigit digit) = some digit.val := by decide
  exact every ⟨digit, small⟩

theorem hexValue?_lowerDigit {digit : Nat} (small : digit < 16) :
    hexValue? (lowerDigit digit) = some digit := by
  have every : ∀ digit : Fin 16, hexValue? (lowerDigit digit) = some digit.val := by decide
  exact every ⟨digit, small⟩

theorem written_of_hexValue? {c : Char} {digit : Nat} (read : hexValue? c = some digit) :
    digit < 16 ∧ (c = upperDigit digit ∨ c = lowerDigit digit) := by
  unfold hexValue? at read
  simp only [Char.le_def, UInt32.le_iff_toNat_le] at read
  split at read
  next bounds =>
    obtain ⟨low, high⟩ : 48 ≤ c.toNat ∧ c.toNat ≤ 57 := bounds
    obtain rfl := Option.some.inj read
    refine ⟨by omega, Or.inl ?_⟩
    rw [upperDigit, if_pos (by omega), Nat.add_sub_cancel' low, Char.ofNat_toNat]
  · split at read
    next bounds =>
      obtain ⟨low, high⟩ : 97 ≤ c.toNat ∧ c.toNat ≤ 102 := bounds
      obtain rfl := Option.some.inj read
      refine ⟨by omega, Or.inr ?_⟩
      rw [lowerDigit, if_neg (by omega), Nat.add_sub_cancel' (by omega), Char.ofNat_toNat]
    · split at read
      next bounds =>
        obtain ⟨low, high⟩ : 65 ≤ c.toNat ∧ c.toNat ≤ 70 := bounds
        obtain rfl := Option.some.inj read
        refine ⟨by omega, Or.inl ?_⟩
        rw [upperDigit, if_neg (by omega), Nat.add_sub_cancel' (by omega), Char.ofNat_toNat]
      · cases read

/-- The characters that have a value are the two in which it is written. -/
theorem hexValue?_eq_some_iff {c : Char} {digit : Nat} :
    hexValue? c = some digit ↔ digit < 16 ∧ (c = upperDigit digit ∨ c = lowerDigit digit) := by
  refine ⟨written_of_hexValue?, ?_⟩
  rintro ⟨small, rfl | rfl⟩
  · exact hexValue?_upperDigit small
  · exact hexValue?_lowerDigit small

theorem bounds_of_hexValue? {c : Char} {digit : Nat} (read : hexValue? c = some digit) :
    48 ≤ c.toNat ∧ c.toNat ≤ 102 := by
  have upper : ∀ digit : Fin 16,
      48 ≤ (upperDigit digit).toNat ∧ (upperDigit digit).toNat ≤ 102 := by decide
  have lower : ∀ digit : Fin 16,
      48 ≤ (lowerDigit digit).toNat ∧ (lowerDigit digit).toNat ≤ 102 := by decide
  obtain ⟨small, rfl | rfl⟩ := hexValue?_eq_some_iff.1 read
  · exact upper ⟨digit, small⟩
  · exact lower ⟨digit, small⟩

/-- Digits are not blank and have one byte. -/
theorem hexDigit_plain {start value : Nat} {word : List Char} (read : readHexFrom start word = some value)
    {c : Char} (member : c ∈ word) : isBlank c = false ∧ c.utf8Size = 1 := by
  induction word generalizing start with
  | nil => cases member
  | cons first rest ih =>
    rw [readHexFrom] at read
    split at read
    next digit isDigit =>
      rcases List.mem_cons.1 member with rfl | later
      · have bounds := bounds_of_hexValue? isDigit
        refine ⟨?_, Char.utf8Size_eq_one_iff.2 ?_⟩
        · simp [isBlank]
          omega
        · exact UInt32.le_iff_toNat_le.2 (Nat.le_trans bounds.2 (by decide))
      · exact ih read later
    · cases read

theorem mem_hexDigits {digit : Nat → Char} {width value : Nat} {c : Char}
    (member : c ∈ hexDigits digit width value) : ∃ number < 16, c = digit number := by
  induction width generalizing value with
  | zero => cases member
  | succ width ih =>
    rcases List.mem_append.1 member with earlier | last
    · exact ih earlier
    · exact ⟨value % 16, Nat.mod_lt _ (by decide), List.mem_singleton.1 last⟩

theorem readHexFrom_append (start : Nat) (first second : List Char) :
    readHexFrom start (first ++ second) = (readHexFrom start first).bind (readHexFrom · second) := by
  induction first generalizing start with
  | nil => rfl
  | cons c rest ih =>
    rw [List.cons_append, readHexFrom, readHexFrom]
    cases hexValue? c with
    | none => rfl
    | some digit => exact ih _

/-- The digits of a number are read back as what fits into them. -/
theorem readHexFrom_hexDigits (width value start : Nat) :
    readHexFrom start (hexDigits upperDigit width value) =
      some (start * Nat.pow 16 width + value % Nat.pow 16 width) := by
  induction width generalizing value with
  | zero => simp [hexDigits, readHexFrom, Nat.mod_one]
  | succ width ih =>
    rw [hexDigits, readHexFrom_append, ih, Option.bind_some, readHexFrom,
      hexValue?_upperDigit (Nat.mod_lt _ (by decide))]
    have wider : Nat.pow 16 (width + 1) = 16 * Nat.pow 16 width := Nat.mul_comm _ _
    have parts : value % (16 * Nat.pow 16 width) =
        value % 16 + 16 * (value / 16 % Nat.pow 16 width) := Nat.mod_mul
    have scaled : start * (16 * Nat.pow 16 width) = start * Nat.pow 16 width * 16 := by
      rw [Nat.mul_comm 16, Nat.mul_assoc]
    rw [wider, parts, scaled]
    simp only [readHexFrom, Option.some.injEq]
    omega

end MissionScript.Text
