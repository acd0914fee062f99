/-!
# Text in byte strings

Bytes become text by the UTF-8 rules. Where they break the rules, each longest start of a
character that cannot be completed becomes one replacement character, and so does each byte that
cannot start a character.

`scalars` reads a byte string as characters and broken places; `decodeLossy` writes the
replacement character for each broken place.
-/

namespace MissionScript.Text

/-- A character of which some bytes are still missing. -/
structure Unfinished where
  /-- The number of bytes still missing after the next one. -/
  more : Nat
  /-- The least and the greatest value the next byte may have. -/
  low : Nat
  high : Nat
  /-- The value of the bits read so far. -/
  bits : Nat
deriving DecidableEq, Repr

/-- What a byte means where a character may start. -/
inductive Lead where
  | whole (c : Char)
  | start (unfinished : Unfinished)
  | broken
deriving DecidableEq, Repr

/-- Classifies the first byte of a character. The range of the second byte excludes overlong
forms, surrogates and values above the last code point. -/
def lead (byte : UInt8) : Lead :=
  let b := byte.toNat
  if b < 0x80 then .whole (Char.ofNat b)
  else if 0xC2 ≤ b ∧ b ≤ 0xDF then .start ⟨0, 0x80, 0xBF, b - 0xC0⟩
  else if b = 0xE0 then .start ⟨1, 0xA0, 0xBF, 0⟩
  else if b = 0xED then .start ⟨1, 0x80, 0x9F, 0xD⟩
  else if 0xE1 ≤ b ∧ b ≤ 0xEF then .start ⟨1, 0x80, 0xBF, b - 0xE0⟩
  else if b = 0xF0 then .start ⟨2, 0x90, 0xBF, 0⟩
  else if 0xF1 ≤ b ∧ b ≤ 0xF3 then .start ⟨2, 0x80, 0xBF, b - 0xF0⟩
  else if b = 0xF4 then .start ⟨2, 0x80, 0x8F, 4⟩
  else .broken

/-- The characters of a byte string, with `none` for each broken place. -/
def scalarsFrom : Option Unfinished → List UInt8 → List (Option Char)
  | none, [] => []
  | some _, [] => [none]
  | none, byte :: rest =>
    match lead byte with
    | .whole c => some c :: scalarsFrom none rest
    | .start unfinished => scalarsFrom (some unfinished) rest
    | .broken => none :: scalarsFrom none rest
  | some ⟨more, low, high, bits⟩, byte :: rest =>
    if low ≤ byte.toNat ∧ byte.toNat ≤ high then
      let value := bits * 64 + (byte.toNat - 0x80)
      match more with
      | 0 => some (Char.ofNat value) :: scalarsFrom none rest
      | left + 1 => scalarsFrom (some ⟨left, 0x80, 0xBF, value⟩) rest
    else
      match lead byte with
      | .whole c => none :: some c :: scalarsFrom none rest
      | .start unfinished => none :: scalarsFrom (some unfinished) rest
      | .broken => none :: none :: scalarsFrom none rest

/-- The characters of a byte string, with `none` for each broken place. -/
def scalars (bytes : List UInt8) : List (Option Char) := scalarsFrom none bytes

/-- The text of a byte string, with the replacement character at each broken place. -/
def decodeLossy (bytes : List UInt8) : String :=
  String.ofList ((scalars bytes).map fun scalar => scalar.getD '\uFFFD')

/-- The text of a byte string up to its first zero byte. -/
def decodeTerminated (bytes : List UInt8) : String :=
  decodeLossy (bytes.takeWhile fun byte => byte != 0)

/-- The text of a byte string that keeps the rules throughout. -/
def decodeStrict? (bytes : List UInt8) : Option String :=
  String.fromUTF8? ⟨bytes.toArray⟩

end MissionScript.Text
