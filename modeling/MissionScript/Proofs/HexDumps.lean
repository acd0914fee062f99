import MissionScript.Inspect.HexDump
import MissionScript.Proofs.Contents
import MissionScript.Proofs.TextLines

/-!
# Reading hex dumps back

A dump is written for people, in columns. This module reads it as text: the address from the first eight
characters of a line, the bytes from sixteen positions of three characters, and the characters from what
stands behind them. What is read is what memory holds in the window, no byte less and none twice. Colours
are put around the digits of single bytes. Taking all escape sequences out again leaves the plain dump,
since a byte of memory never gets into the text as a control character.

Results:
1. `Text.isUpperHex_upperHex`: an address below 2^32 takes eight digits.
2. `HexDump.withoutEscapes_rowText`: what remains of a row without its escape sequences is the plain row.
3. `HexDump.showsSpan_row`: the columns of a row show the bytes of its span.
4. `HexDump.flatMap_rowSpan`: the spans of the rows together are the window.
5. `dump_shows_memory`: the dump as a whole, with colours and without.
-/

namespace MissionScript

/-! ## 1. Numbers of a fixed width -/

namespace Text

/-- The text is the number in base sixteen, in exactly `width` digits and with letters in upper case. -/
structure IsUpperHex (width value : Nat) (text : List Char) : Prop where
  length : text.length = width
  upper : ∀ c ∈ text, '0' ≤ c ∧ c ≤ '9' ∨ 'A' ≤ c ∧ c ≤ 'F'
  value : readHexFrom 0 text = some value

theorem upperDigit_upper {digit : Nat} (small : digit < 16) :
    '0' ≤ upperDigit digit ∧ upperDigit digit ≤ '9' ∨
      'A' ≤ upperDigit digit ∧ upperDigit digit ≤ 'F' := by
  have every : ∀ digit : Fin 16, '0' ≤ upperDigit digit ∧ upperDigit digit ≤ '9' ∨
      'A' ≤ upperDigit digit ∧ upperDigit digit ≤ 'F' := by decide
  exact every ⟨digit, small⟩

theorem isUpperHex_hexDigits {width value : Nat} (small : value < Nat.pow 16 width) :
    IsUpperHex width value (hexDigits upperDigit width value) where
  length := length_hexDigits _ _ _
  upper c member := by
    obtain ⟨digit, small, rfl⟩ := mem_hexDigits member
    exact upperDigit_upper small
  value := by
    rw [readHexFrom_hexDigits, Nat.zero_mul, Nat.zero_add, Nat.mod_eq_of_lt small]

theorem hexLength_le {width fuel value : Nat} (small : value < Nat.pow 16 (width + 1)) :
    hexLength fuel value ≤ width + 1 := by
  induction width generalizing fuel value with
  | zero =>
    cases fuel with
    | zero => exact Nat.le_refl 1
    | succ fuel => exact Nat.le_of_eq (if_pos small)
  | succ width ih =>
    cases fuel with
    | zero => exact Nat.le_add_left 1 (width + 1)
    | succ fuel =>
      rw [hexLength]
      split
      · exact Nat.le_add_left 1 (width + 1)
      · have wider : Nat.pow 16 (width + 2) = 16 * Nat.pow 16 (width + 1) := Nat.mul_comm _ _
        exact Nat.succ_le_succ (ih (Nat.div_lt_of_lt_mul (wider ▸ small)))

/-- An address below 2^32 takes eight digits. -/
theorem isUpperHex_upperHex {value : Nat} (small : value < 0x100000000) :
    IsUpperHex 8 value (upperHex 8 value) := by
  have narrow : hexLength value value ≤ 8 := hexLength_le small
  rw [upperHex, Nat.max_eq_left narrow]
  exact isUpperHex_hexDigits small

end Text

namespace HexDump

/-! ## 2. Escape sequences -/

/-- What follows the escape sequence at the beginning of a text, if there is one: an escape character and
an opening bracket, and then everything up to the first `m`. -/
def afterEscape? : List Char → Option (List Char)
  | '\x1b' :: '[' :: rest => (Text.cutAt? 'm' rest).map Prod.snd
  | _ => none

theorem length_afterEscape? {text after : List Char} (found : afterEscape? text = some after) :
    after.length < text.length := by
  unfold afterEscape? at found
  split at found
  · next rest =>
    obtain ⟨⟨code, after⟩, cut, rfl⟩ := Option.map_eq_some_iff.1 found
    obtain ⟨rfl, _⟩ := Text.cutAt?_eq_some_iff.1 cut
    simp only [List.length_cons, List.length_append]
    omega
  · cases found

/-- The text without its escape sequences. -/
def withoutEscapes : List Char → List Char
  | [] => []
  | c :: rest =>
    match _found : afterEscape? (c :: rest) with
    | some after => withoutEscapes after
    | none => c :: withoutEscapes rest
termination_by text => text.length
decreasing_by
  · exact length_afterEscape? _found
  · exact Nat.lt_succ_self _

/-- The text is made up of escape sequences, each of which ends with its first `m`. -/
inductive Escapes : List Char → Prop where
  | none : Escapes []
  | more {code rest : List Char} (closed : 'm' ∉ code) (others : Escapes rest) :
      Escapes (escape code ++ rest)

/-- Nothing but escape sequences is written for a style and for its end. -/
structure Paint.Invisible (paint : Paint) : Prop where
  before : ∀ style, Escapes (paint.before style)
  after : Escapes paint.after

theorem Escapes.append {first second : List Char} (left : Escapes first) (right : Escapes second) :
    Escapes (first ++ second) := by
  induction left with
  | none => exact right
  | more closed _ ih =>
    rw [List.append_assoc]
    exact .more closed ih

theorem escapes_escape {code : List Char} (closed : 'm' ∉ code) : Escapes (escape code) :=
  List.append_nil (escape code) ▸ Escapes.more closed .none

theorem ansi_invisible : ansi.Invisible where
  before style := by
    refine ((escapes_escape (by decide)).append ?_).append ?_
    · split
      · exact escapes_escape (by decide)
      · exact .none
    · split
      · next hue _ => cases hue <;> exact escapes_escape (by decide)
      · exact .none
  after := escapes_escape (by decide)

theorem withoutEscapes_escape {code : List Char} (closed : 'm' ∉ code) (rest : List Char) :
    withoutEscapes (escape code ++ rest) = withoutEscapes rest := by
  have shape : escape code ++ rest = '\x1b' :: '[' :: (code ++ 'm' :: rest) := by
    simp only [escape, List.cons_append, List.append_assoc, List.nil_append]
  have found : afterEscape? ('\x1b' :: '[' :: (code ++ 'm' :: rest)) = some rest := by
    rw [afterEscape?, Text.cutAt?_eq_some_iff.2 ⟨rfl, closed⟩]
    rfl
  rw [shape, withoutEscapes]
  split
  · next after isAfter => rw [Option.some.inj (isAfter.symm.trans found)]
  · next isNone =>
    rw [found] at isNone
    cases isNone

theorem withoutEscapes_escapes {text : List Char} (escapes : Escapes text) (rest : List Char) :
    withoutEscapes (text ++ rest) = withoutEscapes rest := by
  induction escapes with
  | none => rfl
  | more closed _ ih => rw [List.append_assoc, withoutEscapes_escape closed, ih]

/-- Text without the escape character stays. -/
theorem withoutEscapes_plain {text : List Char} (noEscape : '\x1b' ∉ text) (rest : List Char) :
    withoutEscapes (text ++ rest) = text ++ withoutEscapes rest := by
  induction text with
  | nil => rfl
  | cons c tail ih =>
    obtain ⟨notEscape, tailNoEscape⟩ := not_or.1 (mt List.mem_cons.2 noEscape)
    have notFound : afterEscape? (c :: (tail ++ rest)) = none := by
      unfold afterEscape?
      split
      · next isEscape => exact absurd (List.cons.inj isEscape).1.symm notEscape
      · rfl
    rw [List.cons_append, withoutEscapes]
    split
    · next isSome =>
      rw [notFound] at isSome
      cases isSome
    · rw [ih tailNoEscape, List.cons_append]

/-- What holds of each part of a text holds of the parts together. -/
theorem withoutEscapes_flatMap {α : Type} {items : List α} {painted clean : α → List Char}
    (each : ∀ item ∈ items, ∀ rest,
      withoutEscapes (painted item ++ rest) = clean item ++ withoutEscapes rest) (rest : List Char) :
    withoutEscapes (items.flatMap painted ++ rest) = items.flatMap clean ++ withoutEscapes rest := by
  induction items with
  | nil => rfl
  | cons item others ih =>
    obtain ⟨first, later⟩ := List.forall_mem_cons.1 each
    rw [List.flatMap_cons, List.flatMap_cons, List.append_assoc, List.append_assoc, first, ih later]

/-! ## 3. Control characters -/

/-- A printable byte is shown as itself, any other byte as a point. -/
def Pictures (byte : UInt8) (c : Char) : Prop :=
  if 0x20 ≤ byte.toNat ∧ byte.toNat ≤ 0x7E then c.toNat = byte.toNat else c = '.'

theorem pictures_byteChar (byte : UInt8) : Pictures byte (byteChar byte) := by
  have printable_iff : 0x20 ≤ byte ∧ byte ≤ 0x7E ↔ 0x20 ≤ byte.toNat ∧ byte.toNat ≤ 0x7E :=
    and_congr UInt8.le_iff_toNat_le UInt8.le_iff_toNat_le
  unfold Pictures byteChar
  split
  · next printable =>
    have valid : byte.toNat.isValidChar := Or.inl (Nat.lt_of_le_of_lt printable.2 (by decide))
    rw [if_pos (printable_iff.2 printable), Char.ofNat, dif_pos valid]
    rfl
  · next hidden => rw [if_neg (mt printable_iff.1 hidden)]

/-- The text has no control characters: no ends of lines and no escapes. -/
def Controlless (text : List Char) : Prop := ∀ c ∈ text, 0x20 ≤ c.toNat

theorem Controlless.not_mem {text : List Char} (controlless : Controlless text) {c : Char}
    (control : c.toNat < 0x20) : c ∉ text :=
  fun member => Nat.not_lt_of_le (controlless c member) control

theorem Controlless.append {first second : List Char} (left : Controlless first)
    (right : Controlless second) : Controlless (first ++ second) := by
  intro c member
  exact (List.mem_append.1 member).elim (left c) (right c)

theorem controlless_hexDigits (width value : Nat) :
    Controlless (Text.hexDigits Text.upperDigit width value) := by
  intro c member
  obtain ⟨digit, small, rfl⟩ := Text.mem_hexDigits member
  have bounds := Text.bounds_of_hexValue? (Text.hexValue?_upperDigit small)
  exact Nat.le_trans (by decide) bounds.1

theorem controlless_blanks (count : Nat) : Controlless (List.replicate count ' ') := by
  intro c member
  rw [List.eq_of_mem_replicate member]
  decide

theorem controlless_byteChar (cells : List (UInt8 × Style)) :
    Controlless (cells.map fun cell => byteChar cell.1) := by
  intro c member
  obtain ⟨cell, _, rfl⟩ := List.mem_map.1 member
  have pictures := pictures_byteChar cell.1
  unfold Pictures at pictures
  split at pictures
  · next printable => exact pictures ▸ printable.1
  · rw [pictures]
    decide

/-! ## 4. Rows without colours -/

/-- What stands before the bytes of a row: its address and two blanks. -/
def lineHead (row : Row) : List Char := Text.upperHex 8 row.address ++ [' ', ' ']

/-- What stands behind the bytes of a row: a blank and one character for each byte. -/
def lineTail (row : Row) : List Char := ' ' :: row.cells.map fun cell => byteChar cell.1

/-- The sixteen positions of a row: the digits of its bytes, each with a blank, and then only blanks. -/
def positions (row : Row) : List (List Char) :=
  row.cells.map (cellText plain) ++ List.replicate (rowWidth - row.cells.length) [' ', ' ', ' ']

/-- The line of a row, without its end. -/
def plainLine (row : Row) : List Char := lineHead row ++ ((positions row).flatten ++ lineTail row)

theorem cellText_plain (cell : UInt8 × Style) :
    cellText plain cell = Text.hexDigits Text.upperDigit 2 cell.1.toNat ++ [' '] := by
  simp only [cellText, plain, List.nil_append, List.append_nil]

theorem rowText_plain (row : Row) : rowText plain row = plainLine row ++ ['\n'] := by
  have blanks : (List.replicate (rowWidth - row.cells.length) [' ', ' ', ' ']).flatten =
      List.replicate (3 * (rowWidth - row.cells.length)) ' ' := by
    rw [Nat.mul_comm, ← List.flatten_replicate_replicate]
    rfl
  unfold rowText plainLine lineHead positions lineTail
  rw [List.flatten_append, blanks, ← List.flatMap_def]
  simp only [List.append_assoc, List.cons_append, List.nil_append]

theorem controlless_cellText (cell : UInt8 × Style) : Controlless (cellText plain cell) := by
  rw [cellText_plain]
  exact (controlless_hexDigits 2 _).append (controlless_blanks 1)

theorem controlless_positions (row : Row) : Controlless (positions row).flatten := by
  intro c member
  obtain ⟨position, isPosition, inPosition⟩ := List.mem_flatten.1 member
  rcases List.mem_append.1 isPosition with shown | blank
  · obtain ⟨cell, _, rfl⟩ := List.mem_map.1 shown
    exact controlless_cellText cell c inPosition
  · rw [List.eq_of_mem_replicate blank] at inPosition
    exact controlless_blanks 3 c inPosition

theorem controlless_lineHead (row : Row) : Controlless (lineHead row) :=
  (controlless_hexDigits _ _).append (controlless_blanks 2)

theorem controlless_lineTail (row : Row) : Controlless (lineTail row) :=
  (controlless_blanks 1).append (controlless_byteChar row.cells)

theorem controlless_plainLine (row : Row) : Controlless (plainLine row) :=
  (controlless_lineHead row).append ((controlless_positions row).append (controlless_lineTail row))

section Colours

variable {paint : Paint} (invisible : paint.Invisible)
include invisible

theorem withoutEscapes_cellText (cell : UInt8 × Style) (rest : List Char) :
    withoutEscapes (cellText paint cell ++ rest) = cellText plain cell ++ withoutEscapes rest := by
  have digits := (controlless_hexDigits 2 cell.1.toNat).not_mem (c := '\x1b') (by decide)
  unfold cellText
  simp only [List.append_assoc]
  rw [withoutEscapes_escapes (invisible.before cell.2), withoutEscapes_plain digits,
    withoutEscapes_escapes invisible.after, withoutEscapes_plain (by decide)]
  rfl

/-- What remains of a row without its escape sequences is the plain row: they stand only around the
digits of bytes, and nothing else in the row is an escape character. -/
theorem withoutEscapes_rowText (row : Row) (rest : List Char) :
    withoutEscapes (rowText paint row ++ rest) = rowText plain row ++ withoutEscapes rest := by
  have parts (paint : Paint) (rest : List Char) : rowText paint row ++ rest =
      lineHead row ++ (row.cells.flatMap (cellText paint) ++
        (List.replicate (3 * (rowWidth - row.cells.length)) ' ' ++
          (lineTail row ++ (['\n'] ++ rest)))) := by
    unfold rowText lineHead lineTail
    simp only [List.append_assoc, List.cons_append, List.nil_append]
  have noEscape {text : List Char} (controlless : Controlless text) : '\x1b' ∉ text :=
    controlless.not_mem (by decide)
  rw [parts paint, parts plain, withoutEscapes_plain (noEscape (controlless_lineHead row)),
    withoutEscapes_flatMap fun cell _ => withoutEscapes_cellText invisible cell,
    withoutEscapes_plain (noEscape (controlless_blanks _)),
    withoutEscapes_plain (noEscape (controlless_lineTail row)), withoutEscapes_plain (by decide)]

end Colours

/-! ## 5. Reading a line -/

/-- The three characters at one of the sixteen positions of a line, behind its head. -/
def positionAt (line : List Char) (index : Nat) : List Char := (line.drop (10 + 3 * index)).take 3

/-- The byte at a position: two digits and a blank. -/
def readPosition? : List Char → Option UInt8
  | [high, low, ' '] =>
    match Text.hexValue? high, Text.hexValue? low with
    | some high, some low => some (UInt8.ofNat (16 * high + low))
    | _, _ => none
  | _ => none

/-- The bytes of a line, in order. -/
def readLine (line : List Char) : List UInt8 :=
  (List.range 16).filterMap fun index => readPosition? (positionAt line index)

/-- One character for each byte, the one that pictures it. -/
inductive Depicts : List UInt8 → List Char → Prop where
  | nil : Depicts [] []
  | cons {byte : UInt8} {c : Char} {bytes : List UInt8} {text : List Char}
      (first : Pictures byte c) (rest : Depicts bytes text) : Depicts (byte :: bytes) (c :: text)

/-- The line shows the bytes of a span. -/
structure ShowsSpan (memory : Memory) (span : Span) (line : List Char) : Prop where
  address : Text.IsUpperHex 8 span.start (line.take 8)
  /-- Each position has the byte with its number, and no byte where the span has ended. -/
  bytes : ∀ index < 16, readPosition? (positionAt line index) = (memory.slice span)[index]?
  /-- Behind the positions comes a blank, and then the bytes as characters. -/
  text : ∃ characters, line.drop 58 = ' ' :: characters ∧ Depicts (memory.slice span) characters

theorem depicts_byteChar (bytes : List UInt8) : Depicts bytes (bytes.map byteChar) := by
  induction bytes with
  | nil => exact .nil
  | cons byte rest ih => exact .cons (pictures_byteChar byte) ih

theorem readPosition?_cellText (cell : UInt8 × Style) :
    readPosition? (cellText plain cell) = some cell.1 := by
  have small := cell.1.toNat_lt
  have halves : 16 * (cell.1.toNat / 16 % 16) + cell.1.toNat % 16 = cell.1.toNat := by omega
  rw [cellText_plain]
  show readPosition?
    [Text.upperDigit (cell.1.toNat / 16 % 16), Text.upperDigit (cell.1.toNat % 16), ' '] = _
  simp only [readPosition?, Text.hexValue?_upperDigit (Nat.mod_lt _ (by decide : 0 < 16))]
  rw [halves, UInt8.ofNat_toNat]

/-- Among texts of one width, each stands at a multiple of the width. -/
theorem take_drop_flatten {parts : List (List Char)} {width : Nat}
    (widths : ∀ part ∈ parts, part.length = width) (rest : List Char) {index : Nat} {part : List Char}
    (found : parts[index]? = some part) :
    ((parts.flatten ++ rest).drop (width * index)).take width = part := by
  induction parts generalizing index with
  | nil => cases found
  | cons first others ih =>
    obtain ⟨firstWidth, otherWidths⟩ := List.forall_mem_cons.1 widths
    rw [List.flatten_cons, List.append_assoc]
    cases index with
    | zero =>
      cases found
      exact List.take_left' firstWidth
    | succ index =>
      rw [Nat.mul_succ, Nat.add_comm, ← List.drop_drop, List.drop_left' firstWidth]
      exact ih otherWidths found

theorem length_of_mem_positions {row : Row} {position : List Char} (member : position ∈ positions row) :
    position.length = 3 := by
  rcases List.mem_append.1 member with shown | blank
  · obtain ⟨cell, _, rfl⟩ := List.mem_map.1 shown
    rw [cellText_plain, List.length_append, Text.length_hexDigits]
    rfl
  · rw [List.eq_of_mem_replicate blank]
    rfl

section Columns

variable {row : Row} (small : row.address < 0x100000000) (short : row.cells.length ≤ rowWidth)

include short in
theorem length_positions : (positions row).length = 16 := by
  rw [positions, List.length_append, List.length_map, List.length_replicate]
  exact Nat.add_sub_cancel' short

include short in
theorem length_flatten_positions : (positions row).flatten.length = 48 := by
  rw [← List.flatMap_id', Memory.length_flatMap_of_forall fun _ => length_of_mem_positions,
    length_positions short]

include small in
theorem length_lineHead : (lineHead row).length = 10 := by
  rw [lineHead, List.length_append, (Text.isUpperHex_upperHex small).length]
  rfl

include small in
theorem positionAt_plainLine {index : Nat} {position : List Char}
    (found : (positions row)[index]? = some position) : positionAt (plainLine row) index = position := by
  rw [positionAt, plainLine, ← List.drop_drop, List.drop_left' (length_lineHead small)]
  exact take_drop_flatten (fun _ => length_of_mem_positions) (lineTail row) found

include small in
/-- The bytes of a row come first, and then blanks, which are read as no byte. -/
theorem readPosition?_plainLine {index : Nat} (inside : index < 16) :
    readPosition? (positionAt (plainLine row) index) = (row.cells.map Prod.fst)[index]? := by
  rw [List.getElem?_map]
  cases isCell : row.cells[index]? with
  | some cell =>
    have bound : index < (row.cells.map (cellText plain)).length :=
      List.length_map (cellText plain) ▸ (List.getElem?_eq_some_iff.1 isCell).1
    have found : (positions row)[index]? = some (cellText plain cell) := by
      rw [positions, List.getElem?_append_left bound, List.getElem?_map, isCell]
      rfl
    rw [positionAt_plainLine small found, readPosition?_cellText]
    rfl
  | none =>
    have behind : (row.cells.map (cellText plain)).length ≤ index :=
      List.length_map (cellText plain) ▸ List.getElem?_eq_none_iff.1 isCell
    have left : index - (row.cells.map (cellText plain)).length < rowWidth - row.cells.length := by
      rw [List.length_map] at behind ⊢
      exact Nat.sub_lt_sub_right behind inside
    have found : (positions row)[index]? = some [' ', ' ', ' '] := by
      rw [positions, List.getElem?_append_right behind, List.getElem?_replicate, if_pos left]
    rw [positionAt_plainLine small found]
    rfl

include small short in
theorem drop_plainLine : (plainLine row).drop 58 = lineTail row := by
  rw [plainLine, ← List.append_assoc]
  refine List.drop_left' ?_
  rw [List.length_append, length_lineHead small, length_flatten_positions short]

end Columns

/-! ## 6. The rows of a window -/

section Rows

variable (memory : Memory) (highlight? : Option Instruction)

theorem cells_row (span : Span) : (row memory highlight? span).cells.map Prod.fst = memory.slice span := by
  unfold row
  rw [List.map_map]
  exact List.zipIdx_map_fst 0 (memory.slice span)

/-- The columns of a row show the bytes of its span. -/
theorem showsSpan_row {span : Span} (short : (memory.slice span).length ≤ 16)
    (small : span.start < 0x100000000) :
    ShowsSpan memory span (plainLine (row memory highlight? span)) := by
  have bytes := cells_row memory highlight? span
  have shortRow : (row memory highlight? span).cells.length ≤ rowWidth := by
    rw [← List.length_map Prod.fst, bytes]
    exact short
  refine ⟨?_, fun index inside => ?_, _, drop_plainLine small shortRow, ?_⟩
  · have digits := Text.isUpperHex_upperHex small
    have head : (plainLine (row memory highlight? span)).take 8 = Text.upperHex 8 span.start := by
      rw [plainLine, lineHead, List.append_assoc]
      exact List.take_left' digits.length
    exact head ▸ digits
  · rw [← bytes]
    exact readPosition?_plainLine small inside
  · rw [← bytes, ← Function.comp_def byteChar Prod.fst, ← List.map_map]
    exact depicts_byteChar _

variable {memory}

/-- Reading items by number, as far as there are any, gives the first ones in order. -/
theorem filterMap_range {items : List UInt8} {read : Nat → Option UInt8} {count : Nat}
    (each : ∀ index < count, read index = items[index]?) :
    (List.range count).filterMap read = items.take count := by
  induction count with
  | zero => rfl
  | succ count ih =>
    rw [List.range_succ, List.filterMap_append, ih fun index less => each index (Nat.lt_succ_of_lt less),
      List.filterMap_cons, each count (Nat.lt_succ_self count), List.take_add_one]
    cases items[count]? <;> rfl

theorem ShowsSpan.readLine_eq {span : Span} {line : List Char} (shows : ShowsSpan memory span line)
    (short : (memory.slice span).length ≤ 16) : readLine line = memory.slice span := by
  rw [readLine, filterMap_range shows.bytes, List.take_of_length_le short]

/-- The spans of consecutive rows are one span, as long as the last row begins before its end. -/
theorem flatMap_rowSpan (span : Span) {count : Nat}
    (needed : span.start + count * rowWidth < span.stop + rowWidth) :
    ((List.range count).flatMap fun index => memory.slice (rowSpan span index)) =
      memory.slice ⟨span.start, min (span.start + count * rowWidth) span.stop⟩ := by
  induction count with
  | zero =>
    have nothing : min (min (span.start + 0 * rowWidth) span.stop) memory.bytes.size ≤ span.start := by
      omega
    rw [Memory.slice, Array.extract_eq_empty_of_le nothing]
    rfl
  | succ count ih =>
    rw [Nat.succ_mul, ← Nat.add_assoc] at needed ⊢
    have before : span.start + count * rowWidth < span.stop := Nat.lt_of_add_lt_add_right needed
    rw [List.range_succ, List.flatMap_append, ih (Nat.lt_add_right rowWidth before), List.flatMap_singleton,
      Nat.min_eq_left (Nat.le_of_lt before)]
    refine memory.slice_append (Nat.le_add_right _ _) (Nat.le_min.2 ⟨Nat.le_add_right _ _, ?_⟩)
    exact Nat.le_of_lt before

end Rows

section Window

theorem shown_start_le (memory : Memory) (window : Span) :
    (shown memory window).start ≤ (shown memory window).stop :=
  Nat.le_trans (Nat.div_mul_le_self _ _) (Nat.min_le_right _ _)

theorem shown_stop_le (memory : Memory) (window : Span) :
    (shown memory window).stop ≤ memory.size :=
  Nat.min_le_right _ _

variable {memory : Memory} (window : Span) (highlight? : Option Instruction)

/-- The number of rows that a span needs. -/
def rowCount (span : Span) : Nat := (span.stop - span.start + rowWidth - 1) / rowWidth

theorem rows_eq : rows memory window highlight? = (List.range (rowCount (shown memory window))).map
    fun index => row memory highlight? (rowSpan (shown memory window) index) :=
  rfl

theorem start_lt_of_row {span : Span} {index : Nat} (inside : index < rowCount span) :
    span.start + index * rowWidth < span.stop := by
  simp only [rowCount, rowWidth] at inside ⊢
  omega

/-- The rows reach to the end of the span, and one row less would not. -/
theorem rowCount_bounds {span : Span} (ordered : span.start ≤ span.stop) :
    span.stop ≤ span.start + rowCount span * rowWidth ∧
      span.start + rowCount span * rowWidth < span.stop + rowWidth := by
  simp only [rowCount, rowWidth]
  omega

theorem length_slice_row {span : Span} (fits : span.stop ≤ memory.size) (index : Nat) :
    (memory.slice (rowSpan span index)).length ≤ 16 := by
  have rowFits : (rowSpan span index).stop ≤ memory.size := Nat.le_trans (Nat.min_le_right _ _) fits
  rw [Memory.length_slice rowFits]
  exact Nat.sub_le_iff_le_add'.2 (Nat.min_le_left _ _)

theorem showsSpan_of_lt (addressable : memory.size ≤ 0x100000000) {index : Nat}
    (inside : index < rowCount (shown memory window)) :
    ShowsSpan memory (rowSpan (shown memory window) index)
      (plainLine (row memory highlight? (rowSpan (shown memory window) index))) := by
  have fits := shown_stop_le memory window
  refine showsSpan_row memory highlight? (length_slice_row fits index) ?_
  exact Nat.lt_of_lt_of_le (start_lt_of_row inside) (Nat.le_trans fits addressable)

theorem toList_render_plain : (render plain memory window highlight?).toList =
    ((rows memory window highlight?).map plainLine).flatMap fun line => line ++ ['\n'] := by
  have texts : rowText plain = fun row => plainLine row ++ ['\n'] := funext rowText_plain
  rw [render, String.toList_ofList, texts, List.flatMap_map]

/-- No row has the end of a line inside. -/
theorem lines_render : Text.lines (render plain memory window highlight?).toList =
    (rows memory window highlight?).map plainLine := by
  have controlless : ∀ line ∈ (rows memory window highlight?).map plainLine, Controlless line := by
    intro line member
    obtain ⟨row, _, rfl⟩ := List.mem_map.1 member
    exact controlless_plainLine row
  rw [toList_render_plain]
  exact Text.lines_flatMap_feed (fun line member => (controlless line member).not_mem (by decide))
    fun line member => (controlless line member).not_mem (by decide)

theorem withoutEscapes_render {paint : Paint} (invisible : paint.Invisible) :
    withoutEscapes (render paint memory window highlight?).toList =
      (render plain memory window highlight?).toList := by
  have parts := withoutEscapes_flatMap
    (fun row (_ : row ∈ rows memory window highlight?) => withoutEscapes_rowText invisible row) []
  rw [render, render, String.toList_ofList, String.toList_ofList, ← List.append_nil (List.flatMap _ _),
    parts, withoutEscapes, List.append_nil]

/-- The lines give back the bytes of the window. -/
theorem flatMap_readLine (addressable : memory.size ≤ 0x100000000) :
    ((rows memory window highlight?).map plainLine).flatMap readLine =
      memory.slice (shown memory window) := by
  have bounds := rowCount_bounds (shown_start_le memory window)
  have read : ∀ index ∈ List.range (rowCount (shown memory window)),
      readLine (plainLine (row memory highlight? (rowSpan (shown memory window) index))) =
        memory.slice (rowSpan (shown memory window) index) := by
    intro index member
    exact (showsSpan_of_lt window highlight? addressable (List.mem_range.1 member)).readLine_eq
      (length_slice_row (shown_stop_le memory window) index)
  rw [rows_eq, List.map_map, List.flatMap_map]
  refine (congrArg List.flatten (List.map_congr_left read)).trans ?_
  refine (flatMap_rowSpan (shown memory window) bounds.2).trans ?_
  rw [Nat.min_eq_right bounds.1]

end Window

end HexDump

/-- Dump any window of a memory of at most 2^32 bytes, whatever instruction is highlighted. The window is
cut at the end of memory and begins with a full row. The dump has one line for every sixteen bytes of it,
and the last line may have fewer; each line begins with its address in eight digits, has its bytes at the
first of sixteen positions, and ends with one character for each of them. The bytes of all lines are those
of the window. With colours that are written as escape sequences, the dump is the same once these are taken
out. -/
theorem dump_shows_memory (memory : Memory) (addressable : memory.size ≤ 0x100000000) (window : Span)
    (highlight? : Option Instruction) (paint : HexDump.Paint) (invisible : paint.Invisible) :
    let stop := min window.stop memory.size
    let start := min window.start stop / 16 * 16
    let dump := (HexDump.render HexDump.plain memory window highlight?).toList
    let lines := Text.lines dump
    dump = lines.flatMap (fun line => line ++ ['\n']) ∧
      lines.length = (stop - start + 15) / 16 ∧
      (∀ index line, lines[index]? = some line → HexDump.ShowsSpan memory
        ⟨start + 16 * index, min (start + 16 * index + 16) stop⟩ line) ∧
      lines.flatMap HexDump.readLine = memory.slice ⟨start, stop⟩ ∧
      HexDump.withoutEscapes (HexDump.render paint memory window highlight?).toList = dump := by
  intro stop start dump lines
  have isLines : lines = (HexDump.rows memory window highlight?).map HexDump.plainLine :=
    HexDump.lines_render window highlight?
  refine ⟨?_, ?_, fun index line isLine => ?_, ?_, ?_⟩
  · rw [isLines]
    exact HexDump.toList_render_plain window highlight?
  · rw [isLines, List.length_map, HexDump.rows_eq, List.length_map, List.length_range]
    rfl
  · rw [isLines, HexDump.rows_eq, List.map_map, List.getElem?_map] at isLine
    obtain ⟨number, isNumber, rfl⟩ := Option.map_eq_some_iff.1 isLine
    obtain ⟨inside, rfl⟩ := List.getElem?_eq_some_iff.1 isNumber
    rw [List.length_range] at inside
    rw [List.getElem_range, Nat.mul_comm 16 index]
    exact HexDump.showsSpan_of_lt window highlight? addressable inside
  · rw [isLines]
    exact HexDump.flatMap_readLine window highlight? addressable
  · exact HexDump.withoutEscapes_render window highlight? invisible

namespace HexDumpExample

/-- Eighteen bytes, among them those of an escape sequence; four of them are a variable. -/
def memory : Memory :=
  { Memory.ofBytes #[0x02, 0x00, 0x02, 0x06, 0x00, 0x1B, 0x5B, 0x33, 0x31, 0x6D, 0x41, 0x7E, 0x7F,
      0x80, 0x0A, 0x20, 0xFF, 0x3F] with
    cells := Table.empty.insert 6 ⟨.float32, cellWidth⟩ }

/-- A jump to where the variable says. -/
def instruction : Instruction := ⟨0, ⟨0x0002⟩, false, [⟨.globalVar, [0x06, 0x00]⟩]⟩

end HexDumpExample

open HexDumpExample in
/-- A window that begins inside the first row and ends far behind memory has two rows. An escape sequence
in memory is shown like other bytes, and those around its bytes go away without it. -/
theorem escapes_in_memory_shown :
    memory.size ≤ 0x100000000 ∧ HexDump.ansi.Invisible ∧
      (Text.lines (HexDump.render HexDump.plain memory ⟨3, 1000⟩ (some instruction)).toList).length = 2 ∧
      (Text.lines (HexDump.render HexDump.plain memory ⟨3, 1000⟩ (some instruction)).toList).flatMap
        HexDump.readLine = memory.bytes.toList ∧
      HexDump.withoutEscapes (HexDump.render HexDump.ansi memory ⟨3, 1000⟩ (some instruction)).toList =
        (HexDump.render HexDump.plain memory ⟨3, 1000⟩ (some instruction)).toList := by
  have addressable : memory.size ≤ 0x100000000 := by decide
  obtain ⟨_, count, _, bytes, colours⟩ := dump_shows_memory memory addressable ⟨3, 1000⟩ (some instruction)
    HexDump.ansi HexDump.ansi_invisible
  exact ⟨addressable, HexDump.ansi_invisible, count.trans (by decide), bytes.trans (by decide), colours⟩

example : HexDump.render HexDump.plain (Memory.ofBytes #[0x41, 0x1B, 0x7E]) ⟨2, 9⟩ none =
    "00000000  41 1B 7E                                         A.~\n" := by
  decide +kernel

end MissionScript
