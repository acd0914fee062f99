/-!
# Lines, blanks and cuts

Text is read as a list of characters. A line ends at a line feed, and a carriage return directly
before that line feed belongs to the end of the line; any other carriage return is an ordinary
character. Blank characters are the ones with the White_Space property, which is wider than ASCII.
-/

namespace MissionScript.Text

/-! ## 1. Blanks -/

/-- Characters with the White_Space property. -/
def isBlank (c : Char) : Bool :=
  let code := c.toNat
  (9 ≤ code && code ≤ 13) || code == 0x20 || code == 0x85 || code == 0xA0 || code == 0x1680 ||
    (0x2000 ≤ code && code ≤ 0x200A) || code == 0x2028 || code == 0x2029 || code == 0x202F ||
    code == 0x205F || code == 0x3000

/-- The text without the blanks at its two ends. -/
def trim (text : List Char) : List Char :=
  ((text.dropWhile isBlank).reverse.dropWhile isBlank).reverse

/-- The first run of characters that are not blank; empty when there is none. -/
def firstWord (text : List Char) : List Char :=
  (text.dropWhile isBlank).takeWhile fun c => !isBlank c

/-! ## 2. Lines -/

/-- The lines of the text that remains, when `current` holds the characters of the line so far,
last one first. A line is never reported for the empty text after the last line feed. -/
def linesFrom (current : List Char) : List Char → List (List Char)
  | [] => if current.isEmpty then [] else [current.reverse]
  | '\r' :: '\n' :: rest => current.reverse :: linesFrom [] rest
  | '\n' :: rest => current.reverse :: linesFrom [] rest
  | c :: rest => linesFrom (c :: current) rest

/-- The lines of a text, without their ends. -/
def lines (text : List Char) : List (List Char) := linesFrom [] text

/-! ## 3. Cuts -/

/-- What stands before and after the first `mark`. -/
def cutAt? (mark : Char) (text : List Char) : Option (List Char × List Char) :=
  match text.dropWhile fun c => c != mark with
  | [] => none
  | _ :: rest => some (text.takeWhile fun c => c != mark, rest)

/-- What stands after the first occurrence of `pattern`. -/
def after? (pattern : List Char) : List Char → Option (List Char)
  | [] => if pattern.isEmpty then some [] else none
  | c :: rest =>
    if pattern.isPrefixOf (c :: rest) then some ((c :: rest).drop pattern.length)
    else after? pattern rest

/-- Drops `count` bytes of the text's encoding. There is no answer when the cut would fall inside
a character or past the end. -/
def dropBytes? : List Char → Nat → Option (List Char)
  | [], count => if count = 0 then some [] else none
  | c :: rest, count =>
    if count = 0 then some (c :: rest)
    else if c.utf8Size ≤ count then dropBytes? rest (count - c.utf8Size)
    else none

end MissionScript.Text
