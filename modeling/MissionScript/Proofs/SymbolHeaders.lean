import MissionScript.Proofs.TextLines
import MissionScript.Symbols

/-!
# Which symbol headers can be read

A line of a symbol header is taken apart by byte offsets. Offsets that a search has found are between
two characters. The name, however, is looked for from as many bytes behind the opening of the comment
as the word of digits has, whether or not blanks stand before the word. Digits have one byte each and
most blanks do; a blank of two or three bytes can put that offset into its middle, and then the line,
and with it the header, cannot be read.

Results:
1. `Text.boundary_iff` and `Text.dropBytes?_eq_none_iff`: which offsets a text can be cut at.
2. `Symbols.boundary_of_slices_iff`: every offset but the one behind the word is always good.
3. `Symbols.readLine_eq_error_iff`: which lines cannot be read.
4. `header_readable_iff`: which headers can be read, and which line is reported otherwise.
-/

namespace MissionScript.Text

/-! ## 1. Byte offsets -/

/-- The number of bytes of a text. -/
def byteSize (text : List Char) : Nat := (String.ofList text).utf8ByteSize

@[simp] theorem byteSize_nil : byteSize [] = 0 := rfl

@[simp] theorem byteSize_cons (c : Char) (rest : List Char) :
    byteSize (c :: rest) = c.utf8Size + byteSize rest := by
  rw [byteSize, String.ofList_cons, String.utf8ByteSize_append, String.utf8ByteSize_singleton, byteSize]

@[simp] theorem byteSize_append (first second : List Char) :
    byteSize (first ++ second) = byteSize first + byteSize second := by
  rw [byteSize, String.ofList_append, String.utf8ByteSize_append, byteSize, byteSize]

/-- The offset is between two characters, or at an end of the text. -/
def Boundary (text : List Char) (offset : Nat) : Prop :=
  String.Pos.Raw.IsValid (String.ofList text) ⟨offset⟩

theorem boundary_iff {text : List Char} {offset : Nat} :
    Boundary text offset ↔ ∃ before behind, text = before ++ behind ∧ byteSize before = offset := by
  unfold Boundary
  rw [String.Pos.Raw.isValid_iff_exists_append]
  constructor
  · rintro ⟨first, second, equal, isOffset⟩
    refine ⟨first.toList, second.toList, ?_, ?_⟩
    · have lists := congrArg String.toList equal
      rwa [String.toList_ofList, String.toList_append] at lists
    · rw [byteSize, String.ofList_toList]
      exact (congrArg String.Pos.Raw.byteIdx isOffset).symm
  · rintro ⟨before, behind, rfl, rfl⟩
    exact ⟨String.ofList before, String.ofList behind, String.ofList_append, rfl⟩

/-- The offset is inside of a character. -/
def Inside (text : List Char) (offset : Nat) : Prop :=
  ∃ before c behind, text = before ++ c :: behind ∧ byteSize before < offset ∧
    offset < byteSize before + c.utf8Size

theorem not_inside_nil (offset : Nat) : ¬ Inside [] offset := by
  rintro ⟨before, c, behind, equal, _⟩
  exact List.append_ne_nil_of_right_ne_nil before (List.cons_ne_nil c behind) equal.symm

theorem not_inside_zero (text : List Char) : ¬ Inside text 0 := by
  rintro ⟨_, _, _, _, impossible, _⟩
  exact Nat.not_lt_zero _ impossible

/-- An offset is inside of the first character, or behind it and inside of a later one. -/
theorem inside_cons_iff {c : Char} {rest : List Char} {offset : Nat} :
    Inside (c :: rest) offset ↔ (0 < offset ∧ offset < c.utf8Size) ∨
      (c.utf8Size ≤ offset ∧ Inside rest (offset - c.utf8Size)) := by
  constructor
  · rintro ⟨before, d, behind, equal, above, below⟩
    cases before with
    | nil =>
      obtain ⟨rfl, rfl⟩ := List.cons.inj equal
      rw [byteSize_nil] at above below
      exact Or.inl ⟨above, by omega⟩
    | cons first others =>
      obtain ⟨rfl, rfl⟩ := List.cons.inj equal
      rw [byteSize_cons] at above below
      exact Or.inr ⟨by omega, others, d, behind, rfl, by omega, by omega⟩
  · rintro (⟨positive, small⟩ | ⟨notInFirst, before, d, behind, rfl, above, below⟩)
    · exact ⟨[], c, rest, rfl, positive, by rw [byteSize_nil]; omega⟩
    · refine ⟨c :: before, d, behind, rfl, ?_, ?_⟩ <;> rw [byteSize_cons] <;> omega

theorem inside_append_iff {first second : List Char} {offset : Nat} :
    Inside (first ++ second) offset ↔ Inside first offset ∨
      (byteSize first ≤ offset ∧ Inside second (offset - byteSize first)) := by
  induction first generalizing offset with
  | nil => simp [not_inside_nil]
  | cons c rest ih =>
    rw [List.cons_append, inside_cons_iff, inside_cons_iff, ih, byteSize_cons, Nat.sub_sub]
    constructor
    · rintro (inFirst | ⟨behind, inRest | ⟨behindRest, inSecond⟩⟩)
      · exact Or.inl (Or.inl inFirst)
      · exact Or.inl (Or.inr ⟨behind, inRest⟩)
      · exact Or.inr ⟨by omega, inSecond⟩
    · rintro ((inFirst | ⟨behind, inRest⟩) | ⟨behindRest, inSecond⟩)
      · exact Or.inl inFirst
      · exact Or.inr ⟨behind, Or.inl inRest⟩
      · exact Or.inr ⟨by omega, Or.inr ⟨by omega, inSecond⟩⟩

/-- There is nothing inside of a character of one byte. -/
theorem not_inside_of_single {text : List Char} (single : ∀ c ∈ text, c.utf8Size = 1) (offset : Nat) :
    ¬ Inside text offset := by
  rintro ⟨before, c, behind, rfl, above, below⟩
  have size := single c (List.mem_append_right _ List.mem_cons_self)
  omega

/-- A text can be cut at its boundaries. -/
theorem dropBytes?_eq_some_iff {text rest : List Char} {count : Nat} :
    dropBytes? text count = some rest ↔ ∃ before, text = before ++ rest ∧ byteSize before = count := by
  induction text generalizing count with
  | nil =>
    rw [dropBytes?]
    constructor
    · intro dropped
      split at dropped
      next isZero => exact ⟨[], Option.some.inj dropped, isZero.symm⟩
      · cases dropped
    · rintro ⟨before, equal, rfl⟩
      obtain ⟨rfl, rfl⟩ := List.append_eq_nil_iff.1 equal.symm
      rfl
  | cons c tail ih =>
    have positive := c.utf8Size_pos
    rw [dropBytes?]
    constructor
    · intro dropped
      split at dropped
      next isZero => exact ⟨[], Option.some.inj dropped, isZero.symm⟩
      · split at dropped
        next fits =>
          obtain ⟨before, rfl, size⟩ := ih.1 dropped
          exact ⟨c :: before, rfl, by rw [byteSize_cons]; omega⟩
        · cases dropped
    · rintro ⟨before, equal, rfl⟩
      cases before with
      | nil => rw [if_pos byteSize_nil, equal, List.nil_append]
      | cons first others =>
        obtain ⟨rfl, rfl⟩ := List.cons.inj equal
        rw [byteSize_cons, if_neg (by omega), if_pos (by omega), ih]
        exact ⟨others, rfl, by omega⟩

/-- A text cannot be cut inside of a character or behind its end. -/
theorem dropBytes?_eq_none_iff {text : List Char} {count : Nat} :
    dropBytes? text count = none ↔ Inside text count ∨ byteSize text < count := by
  induction text generalizing count with
  | nil =>
    rw [dropBytes?, byteSize_nil, or_iff_right (not_inside_nil count), Nat.pos_iff_ne_zero]
    split <;> simp_all
  | cons c rest ih =>
    have positive := c.utf8Size_pos
    rw [dropBytes?, inside_cons_iff, byteSize_cons]
    split
    next isZero => exact iff_of_false (fun impossible => by cases impossible) (by omega)
    next notZero =>
      split
      next fits =>
        rw [ih, or_iff_right (by omega : ¬ (0 < count ∧ count < c.utf8Size)), and_iff_right fits]
        exact or_congr_right (by omega)
      · exact iff_of_true rfl (Or.inl (Or.inl (by omega)))

theorem dropBytes?_eq_none_iff_not_boundary {text : List Char} {count : Nat} :
    dropBytes? text count = none ↔ ¬ Boundary text count := by
  rw [boundary_iff, Option.eq_none_iff_forall_ne_some]
  constructor
  · rintro never ⟨before, behind, cut⟩
    exact never behind (dropBytes?_eq_some_iff.2 ⟨before, cut⟩)
  · intro noBoundary behind dropped
    obtain ⟨before, cut⟩ := dropBytes?_eq_some_iff.1 dropped
    exact noBoundary ⟨before, behind, cut⟩

/-- The offset of the first occurrence of `pattern`. -/
def offset? (pattern : List Char) : List Char → Option Nat
  | [] => if pattern.isEmpty then some 0 else none
  | c :: rest =>
    if pattern.isPrefixOf (c :: rest) then some 0 else (offset? pattern rest).map (c.utf8Size + ·)

/-- What a search finds stands right behind its offset. -/
theorem offset?_eq_some {pattern text : List Char} {start : Nat}
    (found : offset? pattern text = some start) :
    ∃ before behind, text = before ++ (pattern ++ behind) ∧ byteSize before = start := by
  induction text generalizing start with
  | nil =>
    rw [offset?] at found
    split at found
    next isEmpty =>
      obtain rfl := List.isEmpty_iff.1 isEmpty
      exact ⟨[], [], rfl, Option.some.inj found⟩
    · cases found
  | cons c rest ih =>
    rw [offset?] at found
    split at found
    next starts =>
      obtain ⟨behind, equal⟩ := List.isPrefixOf_iff_prefix.1 starts
      exact ⟨[], behind, equal.symm, Option.some.inj found⟩
    · obtain ⟨later, foundLater, rfl⟩ := Option.map_eq_some_iff.1 found
      obtain ⟨before, behind, rfl, rfl⟩ := ih foundLater
      exact ⟨c :: before, behind, rfl, byteSize_cons c before⟩

/-- Both ends of what a search finds are boundaries. -/
theorem boundary_offset? {pattern text : List Char} {start : Nat}
    (found : offset? pattern text = some start) :
    Boundary text start ∧ Boundary text (start + byteSize pattern) := by
  obtain ⟨before, behind, equal, rfl⟩ := offset?_eq_some found
  refine ⟨boundary_iff.2 ⟨before, pattern ++ behind, equal, rfl⟩,
    boundary_iff.2 ⟨before ++ pattern, behind, ?_, byteSize_append before pattern⟩⟩
  rw [List.append_assoc, equal]

theorem byteSize_of_readHexFrom {start value : Nat} {word : List Char}
    (read : readHexFrom start word = some value) : byteSize word = word.length := by
  have single : ∀ c ∈ word, c.utf8Size = 1 := fun c member => (hexDigit_plain read member).2
  clear read
  induction word with
  | nil => rfl
  | cons c rest ih =>
    rw [byteSize_cons, single c List.mem_cons_self, List.length_cons,
      ih fun d member => single d (List.mem_cons_of_mem c member), Nat.add_comm]

end MissionScript.Text

namespace MissionScript.Symbols

/-! ## 2. Words of digits -/

/-- What stands before the word of digits. -/
def opening : List Char := ['/', '*', ' ']

/-- A text that starts with an opcode in digits, perhaps after blanks. -/
structure Opens (rest blanks word tail : List Char) (value : Nat) : Prop where
  parts : rest = blanks ++ (word ++ tail)
  blank : ∀ c ∈ blanks, Text.isBlank c = true
  nonempty : word ≠ []
  read : Text.readHexFrom 0 word = some value
  small : value < 0x10000
  ends : ∀ c, tail.head? = some c → Text.isBlank c = true

/-- The word of digits is the first word. -/
theorem Opens.firstWord_eq {rest blanks word tail : List Char} {value : Nat}
    (opens : Opens rest blanks word tail value) : Text.firstWord rest = word := by
  obtain ⟨rfl, blank, nonempty, read, _, ends⟩ := opens
  have starts : ∀ c, (word ++ tail).head? = some c → Text.isBlank c = false := by
    intro c isHead
    cases word with
    | nil => exact absurd rfl nonempty
    | cons first others =>
      cases isHead
      exact (Text.hexDigit_plain read List.mem_cons_self).1
  have inWord : ∀ c ∈ word, (!Text.isBlank c) = true := by
    intro c member
    rw [(Text.hexDigit_plain read member).1]
    rfl
  have stops : tail.takeWhile (fun c => !Text.isBlank c) = [] := by
    cases tail with
    | nil => rfl
    | cons c others => simp [ends c rfl]
  rw [Text.firstWord, List.dropWhile_append_of_pos blank, Text.dropWhile_eq_self starts,
    List.takeWhile_append_of_pos inWord, stops, List.append_nil]

theorem opens_of_firstWord {rest : List Char} {value : Nat} (nonempty : Text.firstWord rest ≠ [])
    (read : Text.readHexFrom 0 (Text.firstWord rest) = some value) (small : value < 0x10000) :
    ∃ blanks tail, Opens rest blanks (Text.firstWord rest) tail value := by
  refine ⟨rest.takeWhile Text.isBlank, (rest.dropWhile Text.isBlank).dropWhile fun c => !Text.isBlank c,
    ?_, ?_, nonempty, read, small, ?_⟩
  · rw [Text.firstWord, List.takeWhile_append_dropWhile, List.takeWhile_append_dropWhile]
  · exact List.all_eq_true.1 List.all_takeWhile
  · intro c isHead
    have stops := List.head?_dropWhile_not (fun c => !Text.isBlank c) (rest.dropWhile Text.isBlank)
    rw [isHead] at stops
    simpa using stops

/-! ## 3. Lines that can be read -/

/-- The byte offsets at which a line is taken apart, each with the text it is an offset of. -/
inductive Slices (line : List Char) : List Char → Nat → Prop where
  | comment {start : Nat} (found : Text.offset? opening line = some start) :
      Slices line line (start + Text.byteSize opening)
  | word {rest blanks word tail : List Char} {value : Nat} (opened : Text.after? opening line = some rest)
      (opens : Opens rest blanks word tail value) : Slices line rest (Text.byteSize word)
  | quote {rest blanks word tail after : List Char} {value start : Nat}
      (opened : Text.after? opening line = some rest) (opens : Opens rest blanks word tail value)
      (dropped : Text.dropBytes? rest (Text.byteSize word) = some after)
      (found : Text.offset? ['"'] after = some start) : Slices line after (start + 1)
  | name {rest blanks word tail after before quoted : List Char} {value stop : Nat}
      (opened : Text.after? opening line = some rest) (opens : Opens rest blanks word tail value)
      (dropped : Text.dropBytes? rest (Text.byteSize word) = some after)
      (cut : Text.cutAt? '"' after = some (before, quoted))
      (found : Text.offset? ['"'] quoted = some stop) : Slices line quoted stop

/-- As many bytes behind the opening of the comment as the word of digits has is the middle of a
blank that stands before the word. -/
def SplitsBlank (line : List Char) : Prop :=
  ∃ rest blanks word tail value, Text.after? opening line = some rest ∧
    Opens rest blanks word tail value ∧ Text.Inside blanks (Text.byteSize word)

/-- A blank of three bytes before a word of one digit. -/
def wideBlankLine : String := "/* \u30001 */ \"WAIT\""

theorem wideBlankLine_opens :
    Opens (wideBlankLine.toList.drop 3) ['\u3000'] ['1'] (' ' :: "*/ \"WAIT\"".toList) 1 where
  parts := by decide
  blank := List.forall_mem_singleton.2 rfl
  nonempty := List.cons_ne_nil _ _
  read := rfl
  small := by decide
  ends c isHead := by
    cases isHead
    rfl

theorem wideBlank_inside : Text.Inside ['\u3000'] (Text.byteSize ['1']) :=
  ⟨[], '\u3000', [], rfl, by decide, by decide⟩

/-- Behind the opening, only the blanks before the word can be cut into by its size. -/
theorem Opens.not_boundary_iff {rest blanks word tail : List Char} {value : Nat}
    (opens : Opens rest blanks word tail value) :
    ¬ Text.Boundary rest (Text.byteSize word) ↔ Text.Inside blanks (Text.byteSize word) := by
  have notInWord : ∀ offset, ¬ Text.Inside word offset :=
    Text.not_inside_of_single fun c member => (Text.hexDigit_plain opens.read member).2
  have notBehind : ¬ Text.byteSize rest < Text.byteSize word := by
    rw [opens.parts, Text.byteSize_append, Text.byteSize_append]
    omega
  rw [← Text.dropBytes?_eq_none_iff_not_boundary, Text.dropBytes?_eq_none_iff, or_iff_left notBehind,
    opens.parts, Text.inside_append_iff]
  refine or_iff_left ?_
  rintro ⟨_, inRest⟩
  rcases Text.inside_append_iff.1 inRest with inWord | ⟨_, inTail⟩
  · exact notInWord _ inWord
  · -- the tail starts no earlier than the word ends
    have isZero : Text.byteSize word - Text.byteSize blanks - Text.byteSize word = 0 := by omega
    rw [isZero] at inTail
    exact Text.not_inside_zero tail inTail

/-- Every offset is a boundary, except the one behind the word when it splits a blank. -/
theorem boundary_of_slices_iff {line : List Char} :
    (∀ slice offset, Slices line slice offset → Text.Boundary slice offset) ↔ ¬ SplitsBlank line := by
  constructor
  · rintro good ⟨rest, blanks, word, tail, value, opened, opens, inside⟩
    exact opens.not_boundary_iff.2 inside (good rest _ (.word opened opens))
  · intro noSplit slice offset slices
    cases slices with
    | comment found => exact (Text.boundary_offset? found).2
    | @word _ blanks word tail value opened opens =>
      refine Classical.byContradiction fun noBoundary => noSplit ?_
      exact ⟨slice, blanks, word, tail, value, opened, opens, opens.not_boundary_iff.1 noBoundary⟩
    | quote _ _ _ found => exact (Text.boundary_offset? found).2
    | name _ _ _ _ found => exact (Text.boundary_offset? found).1

theorem readLine_of_splitsBlank {line : List Char} (splits : SplitsBlank line) (number : Nat) :
    readLine number line = .error (.splitCharacter number) := by
  obtain ⟨rest, blanks, word, tail, value, opened, opens, inside⟩ := splits
  have noCut : Text.dropBytes? rest word.length = none := by
    rw [← Text.byteSize_of_readHexFrom opens.read]
    exact Text.dropBytes?_eq_none_iff_not_boundary.2 (opens.not_boundary_iff.2 inside)
  unfold readLine
  rw [← opening, opened]
  simp only [opens.firstWord_eq, opens.read, noCut]
  cases word with
  | nil => exact absurd rfl opens.nonempty
  | cons => exact if_neg (Nat.not_le.2 opens.small)

theorem splitsBlank_of_readLine {number : Nat} {line : List Char} {error : Error}
    (failed : readLine number line = .error error) : SplitsBlank line := by
  unfold readLine at failed
  split at failed
  · cases failed
  next rest opened =>
    simp only at failed
    split at failed
    · cases failed
    · cases failed
    next value read nonempty =>
      split at failed
      · cases failed
      next small =>
        obtain ⟨blanks, tail, opens⟩ := opens_of_firstWord nonempty read (Nat.not_le.1 small)
        split at failed
        next noCut =>
          rw [← Text.byteSize_of_readHexFrom read] at noCut
          have noBoundary := Text.dropBytes?_eq_none_iff_not_boundary.1 noCut
          exact ⟨rest, blanks, _, tail, value, opened, opens, opens.not_boundary_iff.1 noBoundary⟩
        · repeat' split at failed
          all_goals cases failed

/-- A line cannot be read exactly when it splits a blank. -/
theorem readLine_eq_error_iff {number : Nat} {line : List Char} {error : Error} :
    readLine number line = .error error ↔ SplitsBlank line ∧ error = .splitCharacter number := by
  constructor
  · intro failed
    have splits := splitsBlank_of_readLine failed
    rw [readLine_of_splitsBlank splits] at failed
    exact ⟨splits, (Except.error.inj failed).symm⟩
  · rintro ⟨splits, rfl⟩
    exact readLine_of_splitsBlank splits number

/-! ## 4. Headers -/

/-- A line that can be read adds at most a name. -/
theorem readLines_cons {line : List Char} (noSplit : ¬ SplitsBlank line) (names : Table String)
    (number : Nat) (rest : List (List Char)) :
    ∃ added, readLines names number (line :: rest) = readLines added (number + 1) rest := by
  rw [readLines]
  cases read : readLine number line with
  | error error => exact absurd (readLine_eq_error_iff.1 read).1 noSplit
  | ok entry =>
    cases entry with
    | none => exact ⟨names, rfl⟩
    | some entry => exact ⟨names.insert entry.1.key entry.2, rfl⟩

/-- The first line that cannot be read is reported, with its number. -/
theorem readLines_eq_error_iff {names : Table String} {number : Nat} {lines : List (List Char)}
    {error : Error} :
    readLines names number lines = .error error ↔
      ∃ before line behind, lines = before ++ line :: behind ∧
        (∀ earlier ∈ before, ¬ SplitsBlank earlier) ∧ SplitsBlank line ∧
        error = .splitCharacter (number + before.length) := by
  induction lines generalizing names number with
  | nil =>
    refine iff_of_false (fun impossible => by cases impossible) ?_
    rintro ⟨before, line, behind, equal, _⟩
    exact List.append_ne_nil_of_right_ne_nil before (List.cons_ne_nil line behind) equal.symm
  | cons first rest ih =>
    by_cases splits : SplitsBlank first
    · rw [readLines, readLine_eq_error_iff.2 ⟨splits, rfl⟩]
      constructor
      · intro failed
        cases failed
        exact ⟨[], first, rest, rfl, List.forall_mem_nil _, splits, rfl⟩
      · rintro ⟨before, line, behind, equal, good, _, rfl⟩
        cases before with
        | nil => rfl
        | cons earlier others =>
          obtain ⟨rfl, _⟩ := List.cons.inj equal
          exact absurd splits (good first List.mem_cons_self)
    · obtain ⟨added, isRest⟩ := readLines_cons splits names number rest
      rw [isRest, ih]
      constructor
      · rintro ⟨before, line, behind, rfl, good, bad, rfl⟩
        refine ⟨first :: before, line, behind, rfl, List.forall_mem_cons.2 ⟨splits, good⟩, bad, ?_⟩
        rw [List.length_cons, Nat.add_assoc, Nat.add_comm 1]
      · rintro ⟨before, line, behind, equal, good, bad, rfl⟩
        cases before with
        | nil =>
          obtain ⟨rfl, _⟩ := List.cons.inj equal
          exact absurd bad splits
        | cons earlier others =>
          obtain ⟨rfl, rfl⟩ := List.cons.inj equal
          refine ⟨others, line, behind, rfl, (List.forall_mem_cons.1 good).2, bad, ?_⟩
          rw [List.length_cons, Nat.add_assoc, Nat.add_comm 1]

/-- Lines can be read exactly when none of them splits a blank. -/
theorem readLines_succeeds_iff {names : Table String} {number : Nat} {lines : List (List Char)} :
    (∃ added, readLines names number lines = .ok added) ↔ ∀ line ∈ lines, ¬ SplitsBlank line := by
  induction lines generalizing names number with
  | nil => exact iff_of_true ⟨names, rfl⟩ (List.forall_mem_nil _)
  | cons first rest ih =>
    rw [List.forall_mem_cons]
    by_cases splits : SplitsBlank first
    · rw [readLines, readLine_eq_error_iff.2 ⟨splits, rfl⟩]
      exact iff_of_false (fun ⟨_, impossible⟩ => by cases impossible) fun good => good.1 splits
    · obtain ⟨added, isRest⟩ := readLines_cons splits names number rest
      rw [isRest, ih, and_iff_right splits]

end MissionScript.Symbols

namespace MissionScript

/-- Every offset at which a line is taken apart is between two characters, unless the size of the word
of digits points into a blank before it. A header is read exactly when no line is of that kind;
otherwise the first such line is reported. -/
theorem header_readable_iff (text : String) :
    (∀ line, (∀ slice offset, Symbols.Slices line slice offset → Text.Boundary slice offset) ↔
      ¬ Symbols.SplitsBlank line) ∧
    ((∃ names, Symbols.read text = .ok names) ↔
      ∀ line ∈ Text.lines text.toList, ¬ Symbols.SplitsBlank line) ∧
    ∀ error, Symbols.read text = .error error ↔
      ∃ before line behind, Text.lines text.toList = before ++ line :: behind ∧
        (∀ earlier ∈ before, ¬ Symbols.SplitsBlank earlier) ∧ Symbols.SplitsBlank line ∧
        error = .splitCharacter (1 + before.length) :=
  ⟨fun _ => Symbols.boundary_of_slices_iff, Symbols.readLines_succeeds_iff,
    fun _ => Symbols.readLines_eq_error_iff⟩

/-- The offset behind a single digit is inside of the wide blank before it, and the header cannot be
read. -/
theorem wide_blank_stops_reading :
    Symbols.Slices Symbols.wideBlankLine.toList (Symbols.wideBlankLine.toList.drop 3) 1 ∧
      ¬ Text.Boundary (Symbols.wideBlankLine.toList.drop 3) 1 ∧
      Symbols.read Symbols.wideBlankLine = .error (.splitCharacter 1) :=
  ⟨.word rfl Symbols.wideBlankLine_opens,
    Symbols.wideBlankLine_opens.not_boundary_iff.2 Symbols.wideBlank_inside, rfl⟩

/-- Three digits are as wide as the blank before them, so that line can be read; the line after it is
reported. -/
theorem wide_blank_before_three_digits :
    (∃ names, Symbols.read "/* \u3000001 */ \"WAIT\"" = .ok names) ∧
      Symbols.read ("/* \u3000001 */ \"WAIT\"\n" ++ Symbols.wideBlankLine) =
        .error (.splitCharacter 2) := by
  have readable : ∃ names, Symbols.read "/* \u3000001 */ \"WAIT\"" = .ok names := ⟨_, rfl⟩
  have noSplit := (header_readable_iff "/* \u3000001 */ \"WAIT\"").2.1.1 readable
  refine ⟨readable, ((header_readable_iff _).2.2 _).2 ?_⟩
  exact ⟨["/* \u3000001 */ \"WAIT\"".toList], Symbols.wideBlankLine.toList, [], by decide, noSplit,
    ⟨_, _, _, _, _, rfl, Symbols.wideBlankLine_opens, Symbols.wideBlank_inside⟩, rfl⟩

end MissionScript
