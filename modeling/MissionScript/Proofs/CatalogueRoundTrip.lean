import MissionScript.Catalogue
import MissionScript.Proofs.Results
import MissionScript.Proofs.TextLines

/-!
# Catalogues that are written and read back

A catalogue is written with one record on a line, among lines that are no records. Notes are free
text: they may hold equals signs, commas and what looks like another record. Reading is still the
inverse of writing, because every cut is at the first mark and the parts before the marks cannot hold
one: a key is four digits, and a count is a numeral.

A record with a count that is no count stops the reading. The error has the number of its line, and
lines that are passed over are counted as well.

Results:
1. `Catalogue.readCount_eq_ok_iff`: which texts are counts.
2. `Catalogue.readLine_of_parts`: what a line with a key is read as.
3. `Catalogue.readLines_lines`: lines are read as they were put together.
4. `catalogue_round_trip`: what a written catalogue is read as.
-/

namespace MissionScript.Catalogue

/-! ## 1. Rows -/

/-- Four hexadecimal digits. -/
structure IsKey (key : List Char) : Prop where
  length : key.length = 4
  digits : ∀ c ∈ key, Text.isHexDigit c = true

/-- A line that is no record: it has no equals sign, or what stands before the first one is no key.
Blanks at the ends of a line do not matter. -/
def NoRecord (line : List Char) : Prop :=
  ∀ key rest, Text.trim line = key ++ '=' :: rest → '=' ∉ key → ¬ IsKey key

/-- A numeral for a number of arguments, or for minus one. -/
structure IsCount (text : List Char) (count : Int32) : Prop where
  numeral : Text.Numeral text count.toInt
  notBelow : -1 ≤ count.toInt

/-- A record in which no count stands between the equals sign and the first comma, or the end of the
line when there is no comma. -/
def BadCount (line : List Char) : Prop :=
  ∃ key count rest, Text.trim line = key ++ '=' :: (count ++ rest) ∧ IsKey key ∧ ',' ∉ count ∧
    (rest = [] ∨ ∃ notes, rest = ',' :: notes) ∧ ∀ value, ¬ IsCount (Text.trim count) value

/-- A line of a catalogue: one that stands for a record, one that is passed over, or one that stops the
reading. -/
inductive Row where
  | written (record : Record)
  | passed (line : List Char)
  | faulty (line : List Char)

namespace Row

def line : Row → List Char
  | .written record => record.line
  | .passed line => line
  | .faulty line => line

def record? : Row → Option Record
  | .written record => some record
  | .passed _ | .faulty _ => none

def isFaulty : Row → Bool
  | .written _ | .passed _ => false
  | .faulty _ => true

/-- Opcodes of records are not negated, and their notes fit on a line and have no blanks at their ends.
Other lines are what they are said to be. -/
def WellFormed : Row → Prop
  | .written record => record.opcode.word < 0x8000 ∧ -1 ≤ record.argumentCount.toInt ∧
      '\n' ∉ record.notes.toList ∧ Text.trim record.notes.toList = record.notes.toList
  | .passed line => '\n' ∉ line ∧ NoRecord line
  | .faulty line => '\n' ∉ line ∧ BadCount line

end Row

/-- The text of a catalogue, with one row on a line. -/
def write (ending : Text.LineEnd) (rows : List Row) : String :=
  String.ofList (ending.chars.intercalate (rows.map Row.line))

/-! ## 2. Keys and counts -/

theorem isKey_iff {key : List Char} : isKey key = true ↔ IsKey key := by
  rw [isKey, Bool.and_eq_true, beq_iff_eq, List.all_eq_true]
  exact ⟨fun ⟨length, digits⟩ => ⟨length, digits⟩, fun ⟨length, digits⟩ => ⟨length, digits⟩⟩

/-- No mark is a digit of a key. -/
theorem IsKey.not_mem {key : List Char} (isKey : IsKey key) {mark : Char}
    (noDigit : Text.isHexDigit mark = false) : mark ∉ key := by
  intro member
  have digit := isKey.digits mark member
  rw [noDigit] at digit
  cases digit

/-- Every key has a value. -/
theorem IsKey.readHexFrom {key : List Char} (isKey : IsKey key) :
    ∃ word, Text.readHexFrom 0 key = some word := by
  have every (start : Nat) : ∀ digits : List Char, (∀ c ∈ digits, Text.isHexDigit c = true) →
      ∃ word, Text.readHexFrom start digits = some word := by
    intro digits
    induction digits generalizing start with
    | nil => exact fun _ => ⟨start, rfl⟩
    | cons c rest ih =>
      intro isDigit
      obtain ⟨first, others⟩ := List.forall_mem_cons.1 isDigit
      obtain ⟨digit, isDigit⟩ := Option.isSome_iff_exists.1 first
      rw [Text.readHexFrom, isDigit]
      exact ih _ others
  exact every 0 key isKey.digits

theorem readCount_eq_ok_iff {number : Nat} {text : List Char} {count : Int32} :
    readCount number text = .ok count ↔ IsCount text count := by
  unfold readCount
  constructor
  · intro success
    split at success
    · cases success
    next value read =>
      obtain ⟨numeral, low, high⟩ := (Text.readSigned?_eq_some_iff (by decide)).1 read
      split at success
      · cases success
      next notBelow =>
        cases success
        have exact : (Int32.ofInt value).toInt = value := Int32.toInt_ofInt_of_le low high
        exact ⟨exact.symm ▸ numeral, by omega⟩
  · rintro ⟨numeral, notBelow⟩
    have read : Text.readSigned? 0x80000000 text = some count.toInt :=
      (Text.readSigned?_eq_some_iff (by decide)).2 ⟨numeral, count.le_toInt, count.toInt_lt⟩
    simp only [read, if_neg (Int.not_lt.2 notBelow), Int32.ofInt_toInt]

/-- Where no count stands, the error names the line. -/
theorem readCount_error (number : Nat) {text : List Char} (noCount : ∀ value, ¬ IsCount text value) :
    ∃ reason, readCount number text = .error (.invalidCount number reason) := by
  cases result : readCount number text with
  | ok count => exact absurd (readCount_eq_ok_iff.1 result) (noCount count)
  | error error =>
    unfold readCount at result
    split at result
    · cases result
      exact ⟨_, rfl⟩
    · split at result
      · cases result
        exact ⟨_, rfl⟩
      · cases result

/-! ## 3. Single lines -/

theorem readLine_congr {line other : List Char} (same : Text.trim line = Text.trim other)
    (number : Nat) : readLine number line = readLine number other := by
  unfold readLine
  rw [same]

/-- Whether a line is a record can be seen at the cut. -/
theorem noRecord_iff {line : List Char} :
    NoRecord line ↔ ∀ parts, Text.cutAt? '=' (Text.trim line) = some parts → isKey parts.1 = false := by
  constructor
  · rintro noRecord ⟨key, rest⟩ cut
    obtain ⟨isLine, absent⟩ := Text.cutAt?_eq_some_iff.1 cut
    exact Bool.eq_false_iff.2 fun isKey => noRecord key rest isLine absent (isKey_iff.1 isKey)
  · intro noKey key rest isLine absent isKey
    have cut := noKey (key, rest) (Text.cutAt?_eq_some_iff.2 ⟨isLine, absent⟩)
    rw [isKey_iff.2 isKey] at cut
    cases cut

instance (line : List Char) : Decidable (NoRecord line) :=
  decidable_of_iff ((Text.cutAt? '=' (Text.trim line)).all (fun parts => !isKey parts.1) = true) <| by
    rw [noRecord_iff]
    cases Text.cutAt? '=' (Text.trim line) <;> simp

theorem readLine_of_noRecord {line : List Char} (noRecord : NoRecord line) (number : Nat) :
    readLine number line = .ok none := by
  unfold readLine
  cases cut : Text.cutAt? '=' (Text.trim line) with
  | none => rfl
  | some parts => simp only [noRecord_iff.1 noRecord parts cut, Bool.not_false, if_true]

/-- A line with a key is a record, provided that its count is one. -/
theorem readLine_of_parts {line key count rest notes : List Char} {word : Nat}
    (isLine : Text.trim line = key ++ '=' :: (count ++ rest)) (isKey : IsKey key)
    (isWord : Text.readHexFrom 0 key = some word) (noComma : ',' ∉ count)
    (behind : rest = [] ∧ notes = [] ∨ rest = ',' :: notes) (number : Nat) :
    readLine number line = (readCount number (Text.trim count)).map fun argumentCount =>
      some {
        opcode := (Opcode.split (UInt16.ofNat word)).1
        argumentCount
        notes := String.ofList (Text.trim notes) } := by
  have cut : Text.cutAt? '=' (Text.trim line) = some (key, count ++ rest) :=
    Text.cutAt?_eq_some_iff.2 ⟨isLine, isKey.not_mem rfl⟩
  have parts : (Text.cutAt? ',' (count ++ rest)).getD (count ++ rest, []) = (count, notes) := by
    rcases behind with ⟨rfl, rfl⟩ | rfl
    · rw [List.append_nil, Text.cutAt?_eq_none_iff.2 noComma]
      rfl
    · rw [Text.cutAt?_eq_some_iff.2 ⟨rfl, noComma⟩]
      rfl
  unfold readLine
  simp only [cut, isKey_iff.2 isKey, parts, isWord]
  cases readCount number (Text.trim count) <;> rfl

theorem readLine_of_badCount {line : List Char} (badCount : BadCount line) (number : Nat) :
    ∃ reason, readLine number line = .error (.invalidCount number reason) := by
  obtain ⟨key, count, rest, isLine, isKey, noComma, behind, noCount⟩ := badCount
  obtain ⟨word, isWord⟩ := isKey.readHexFrom
  obtain ⟨reason, failed⟩ := readCount_error number noCount
  have notes : ∃ notes, rest = [] ∧ notes = [] ∨ rest = ',' :: notes := by
    rcases behind with rfl | ⟨notes, rfl⟩
    · exact ⟨[], Or.inl ⟨rfl, rfl⟩⟩
    · exact ⟨notes, Or.inr rfl⟩
  obtain ⟨notes, behind⟩ := notes
  rw [readLine_of_parts isLine isKey isWord noComma behind, failed]
  exact ⟨reason, rfl⟩

/-! ## 4. Written records -/

section Written

variable {record : Record}

theorem isKey_text (opcode : Opcode) : IsKey opcode.text.toList := by
  rw [Opcode.text, String.toList_ofList]
  refine ⟨Text.length_hexDigits _ _ _, ?_⟩
  intro c member
  obtain ⟨digit, small, rfl⟩ := Text.mem_hexDigits member
  rw [Text.isHexDigit, Text.hexValue?_upperDigit small]
  rfl

theorem readHexFrom_text (opcode : Opcode) :
    Text.readHexFrom 0 opcode.text.toList = some opcode.key := by
  have fits : opcode.key % 65536 = opcode.key := Nat.mod_eq_of_lt opcode.word.toNat_lt
  rw [Opcode.text, String.toList_ofList, Text.readHexFrom_hexDigits, Nat.zero_mul, Nat.zero_add]
  exact congrArg some fits

/-- An opcode that is not negated is what is left of its own word. -/
theorem split_key {opcode : Opcode} (plain : opcode.word < 0x8000) :
    (Opcode.split (UInt16.ofNat opcode.key)).1 = opcode := by
  have kept : opcode.word % Opcode.negationBit = opcode.word := by
    apply UInt16.toNat_inj.1
    rw [UInt16.toNat_mod]
    exact Nat.mod_eq_of_lt (UInt16.lt_iff_toNat_lt.1 plain)
  rw [Opcode.split, Opcode.key, UInt16.ofNat_toNat, kept]

theorem line_eq (record : Record) :
    record.line = record.opcode.text.toList ++
      '=' :: ((toString record.argumentCount.toInt).toList ++ ',' :: record.notes.toList) := by
  rw [Record.line, List.append_assoc, List.cons_append]

/-- Neither the first digit nor what comes last on the line of a record is a blank. -/
theorem trim_line (trimmed : Text.trim record.notes.toList = record.notes.toList) :
    Text.trim record.line = record.line := by
  refine Text.trim_eq_self (fun c isHead => ?_) (fun c isLast => ?_)
  · have nonempty : record.opcode.text.toList ≠ [] :=
      List.ne_nil_of_length_pos (by rw [(isKey_text record.opcode).length]; decide)
    obtain ⟨first, rest, isText⟩ := List.exists_cons_of_ne_nil nonempty
    rw [line_eq, isText, List.cons_append, List.head?_cons] at isHead
    have member : c ∈ record.opcode.text.toList := by
      rw [isText, Option.some.inj isHead]
      exact List.mem_cons_self
    exact (Text.hexDigit_plain (readHexFrom_text record.opcode) member).1
  · rw [Record.line, List.getLast?_append] at isLast
    cases ends : record.notes.toList.getLast? with
    | none =>
      rw [List.getLast?_eq_none_iff.1 ends] at isLast
      cases isLast
      rfl
    | some last =>
      rw [List.getLast?_cons, ends] at isLast
      cases isLast
      rw [← trimmed] at ends
      exact Text.not_isBlank_getLast_trim ends

theorem readLine_line (formed : (Row.written record).WellFormed) (number : Nat) :
    readLine number record.line = .ok (some record) := by
  obtain ⟨plain, notBelow, _, trimmed⟩ := formed
  have isLine := (trim_line trimmed).trans (line_eq record)
  have numeral := Text.numeral_toString record.argumentCount.toInt
  have trimmedCount : Text.trim (toString record.argumentCount.toInt).toList =
      (toString record.argumentCount.toInt).toList :=
    Text.trim_eq_self (fun c isHead => (numeral.char (List.mem_of_mem_head? isHead)).1)
      (fun c isLast => (numeral.char (List.mem_of_getLast? isLast)).1)
  have counted : readCount number (toString record.argumentCount.toInt).toList =
      .ok record.argumentCount := readCount_eq_ok_iff.2 ⟨numeral, notBelow⟩
  rw [readLine_of_parts isLine (isKey_text _) (readHexFrom_text _)
    (fun member => (numeral.char member).2.1 rfl) (Or.inr rfl), trimmedCount, counted, trimmed,
    split_key plain, String.ofList_toList]
  rfl

end Written

/-! ## 5. Whole catalogues -/

theorem noBreak_line {row : Row} (formed : row.WellFormed) : '\n' ∉ row.line := by
  cases row with
  | written record =>
    have numeral := Text.numeral_toString record.argumentCount.toInt
    intro member
    rw [Row.line, line_eq] at member
    rcases List.mem_append.1 member with inKey | behindKey
    · exact (isKey_text record.opcode).not_mem rfl inKey
    rcases List.mem_cons.1 behindKey with impossible | behindMark
    · cases impossible
    rcases List.mem_append.1 behindMark with inCount | behindCount
    · exact (numeral.char inCount).2.2 rfl
    rcases List.mem_cons.1 behindCount with impossible | inNotes
    · cases impossible
    · exact formed.2.2.1 inNotes
  | passed line => exact formed.1
  | faulty line => exact formed.1

theorem readLine_row {row : Row} (formed : row.WellFormed) (sound : row.isFaulty = false)
    (number : Nat) : readLine number row.line = .ok row.record? := by
  cases row with
  | written record => exact readLine_line formed number
  | passed line => exact readLine_of_noRecord formed.2 number
  | faulty line => cases sound

/-- Lines that were put together are read one after the other. -/
theorem readLines_lines (ending : Text.LineEnd) {lines : List (List Char)}
    (noBreak : ∀ line ∈ lines, '\n' ∉ line) (number : Nat) :
    readLines number (Text.lines (ending.chars.intercalate lines)) = readLines number lines := by
  induction lines generalizing number with
  | nil => rfl
  | cons line rest ih =>
    obtain ⟨lineNoBreak, restNoBreak⟩ := List.forall_mem_cons.1 noBreak
    cases rest with
    | nil =>
      rw [List.intercalate_singleton, Text.lines_of_noBreak lineNoBreak]
      cases line with
      | nil => rfl
      | cons c others => rfl
    | cons second others =>
      rw [List.intercalate_cons_cons]
      obtain ⟨first, isLines, sameTrim⟩ := Text.lines_append_end lineNoBreak ending
        (ending.chars.intercalate (second :: others))
      rw [isLines, readLines, readLines, readLine_congr sameTrim, ih restNoBreak]

/-- Rows are read up to the first faulty one. -/
theorem readLines_rows {rows : List Row} (formed : ∀ row ∈ rows, row.WellFormed) (number : Nat) :
    (rows.findIdx? Row.isFaulty = none →
      readLines number (rows.map Row.line) = .ok (rows.filterMap Row.record?)) ∧
    ∀ index, rows.findIdx? Row.isFaulty = some index →
      ∃ reason, readLines number (rows.map Row.line) = .error (.invalidCount (number + index) reason) := by
  induction rows generalizing number with
  | nil => exact ⟨fun _ => rfl, fun index impossible => by cases impossible⟩
  | cons row rest ih =>
    obtain ⟨rowFormed, restFormed⟩ := List.forall_mem_cons.1 formed
    obtain ⟨allSound, firstFault⟩ := ih restFormed (number + 1)
    rw [List.map_cons, readLines, List.findIdx?_cons]
    cases faulty : row.isFaulty with
    | true =>
      refine ⟨(fun impossible => by cases impossible), fun index isFirst => ?_⟩
      cases isFirst
      cases row with
      | written | passed => cases faulty
      | faulty line =>
        obtain ⟨reason, failed⟩ := readLine_of_badCount rowFormed.2 number
        exact ⟨reason, by rw [Row.line, failed]; rfl⟩
    | false =>
      rw [readLine_row rowFormed faulty]
      constructor
      · intro noFault
        have restSound := allSound (Option.map_eq_none_iff.1 noFault)
        rw [restSound, List.filterMap_cons]
        cases row.record? <;> rfl
      · intro index isFirst
        obtain ⟨earlier, isEarlier, rfl⟩ := Option.map_eq_some_iff.1 isFirst
        obtain ⟨reason, failed⟩ := firstFault earlier isEarlier
        rw [Nat.add_right_comm, Nat.add_assoc] at failed
        rw [failed]
        exact ⟨reason, rfl⟩

end MissionScript.Catalogue

namespace MissionScript

/-- What a written catalogue is read as. Put together any rows, one on a line: records whose opcode is
not negated, whose count is at least minus one and whose notes are a trimmed text without a line feed;
lines that are no records; and records with a bad count. Without a bad count, exactly the written
records are read, in order. Otherwise the reading fails, and the error has the number, from one on, of
the first line with a bad count. -/
theorem catalogue_round_trip (ending : Text.LineEnd) (rows : List Catalogue.Row)
    (formed : ∀ row ∈ rows, row.WellFormed) :
    (rows.findIdx? Catalogue.Row.isFaulty = none →
      Catalogue.read (Catalogue.write ending rows) = .ok (rows.filterMap Catalogue.Row.record?)) ∧
    ∀ index, rows.findIdx? Catalogue.Row.isFaulty = some index →
      ∃ reason, Catalogue.read (Catalogue.write ending rows) =
        .error (.invalidCount (index + 1) reason) := by
  have noBreak : ∀ line ∈ rows.map Catalogue.Row.line, '\n' ∉ line := by
    intro line member
    obtain ⟨row, isRow, rfl⟩ := List.mem_map.1 member
    exact Catalogue.noBreak_line (formed row isRow)
  obtain ⟨allSound, firstFault⟩ := Catalogue.readLines_rows formed 1
  rw [Catalogue.read, Catalogue.write, String.toList_ofList, Catalogue.readLines_lines ending noBreak]
  refine ⟨allSound, fun index isFirst => ?_⟩
  rw [Nat.add_comm]
  exact firstFault index isFirst

namespace CatalogueExample

/-- The notes hold both marks and look like another record. -/
def record : Record := ⟨⟨0x00A5⟩, -1, "%5d% = create, 0001=1,wait"⟩

/-- The lines around the record have no equals sign, no digits before it, or a blank between the two. -/
def rows : List Catalogue.Row :=
  [.passed "[OPCODES]".toList, .passed "DATE=2004".toList, .written record, .passed [],
    .passed "0001 =1,wait".toList]

/-- A record with a count below minus one, after a blank that is wider than one byte. -/
def faulty : List Char := "\u3000004F= -4 ,start".toList

def rowsWithFault : List Catalogue.Row := rows ++ [.faulty faulty]

end CatalogueExample

open CatalogueExample in
/-- A record among lines that are no records is read back. With a bad count behind them, the sixth line
is reported. -/
theorem noisy_catalogue_reads_back :
    (∀ row ∈ rowsWithFault, row.WellFormed) ∧
      Catalogue.read (Catalogue.write .returnFeed rows) = .ok [record] ∧
      ∃ reason, Catalogue.read (Catalogue.write .feed rowsWithFault) =
        .error (.invalidCount 6 reason) := by
  have written : (Catalogue.Row.written record).WellFormed := by
    refine ⟨?_, ?_, ?_, ?_⟩ <;> decide +kernel
  have passed (line : List Char) (noBreak : '\n' ∉ line) (noRecord : Catalogue.NoRecord line) :
      (Catalogue.Row.passed line).WellFormed := ⟨noBreak, noRecord⟩
  have badCount : (Catalogue.Row.faulty faulty).WellFormed := by
    refine ⟨by decide +kernel, "004F".toList, " -4 ".toList, ",start".toList, ?_, ?_, ?_, ?_, ?_⟩
    · decide +kernel
    · exact Catalogue.isKey_iff.1 (by decide +kernel)
    · decide +kernel
    · exact Or.inr ⟨"start".toList, by decide +kernel⟩
    · intro value isCount
      have refused : (Catalogue.readCount 6 (Text.trim " -4 ".toList)).toOption = none := by
        decide +kernel
      rw [Catalogue.readCount_eq_ok_iff.2 isCount] at refused
      cases refused
  have formed : ∀ row ∈ rowsWithFault, row.WellFormed := by
    simp only [rowsWithFault, rows, List.cons_append, List.nil_append, List.forall_mem_cons]
    refine ⟨?_, ?_, written, ?_, ?_, badCount, List.forall_mem_nil _⟩
    all_goals exact passed _ (by decide +kernel) (by decide +kernel)
  refine ⟨formed, ?_, ?_⟩
  · refine (catalogue_round_trip .returnFeed rows fun row member => ?_).1 rfl
    exact formed row (List.mem_append_left _ member)
  · have isFirst : rowsWithFault.findIdx? Catalogue.Row.isFaulty = some 5 := by decide +kernel
    exact (catalogue_round_trip .feed rowsWithFault formed).2 5 isFirst

end MissionScript
