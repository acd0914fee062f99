import MissionScript.Text.Utf8

/-!
# Text that is written and read back

Text stands in a script as UTF-8, in a field of fixed width that is filled up with zero bytes. Reading
bytes as text never fails, since broken places are replaced; here it is shown that nothing is replaced
in what was written, so that the same text comes back.

Results:
1. `Text.scalarsFrom_utf8EncodeChar`: the bytes of one character are read as that character, whatever
   comes after them.
2. `Text.decodeLossy_encode`: the bytes of a text are read as that text.
3. `Text.decodeTerminated_padded`: so are they in a field that is filled up with zero bytes, as long
   as the text itself has no zero character.
-/

namespace MissionScript.Text

/-! ## 1. One character -/

/-- The bytes of a text. -/
def encode (text : String) : List UInt8 := text.toByteArray.data.toList

theorem encode_eq_flatMap (text : String) :
    encode text = text.toList.flatMap String.utf8EncodeChar := by
  have encoded : (String.ofList text.toList).toByteArray = text.toList.utf8Encode :=
    String.toByteArray_ofList
  rw [String.ofList_toList] at encoded
  rw [encode, encoded, List.utf8Encode, List.data_toByteArray]

theorem toNat_ofNat {n : Nat} (small : n < 256) : (UInt8.ofNat n).toNat = n :=
  UInt8.toNat_ofNat_of_lt' small

/-- A byte in the range that is waited for brings the character one byte further. -/
theorem scalarsFrom_more {left low high bits n : Nat} {rest : List UInt8} (small : n < 256)
    (notBelow : low ≤ n) (notAbove : n ≤ high) :
    scalarsFrom (some ⟨left + 1, low, high, bits⟩) (UInt8.ofNat n :: rest) =
      scalarsFrom (some ⟨left, 0x80, 0xBF, bits * 64 + (n - 0x80)⟩) rest := by
  rw [scalarsFrom, toNat_ofNat small, if_pos ⟨notBelow, notAbove⟩]

/-- The last byte that is waited for completes the character. -/
theorem scalarsFrom_last {low high bits n : Nat} {rest : List UInt8} (small : n < 256)
    (notBelow : low ≤ n) (notAbove : n ≤ high) :
    scalarsFrom (some ⟨0, low, high, bits⟩) (UInt8.ofNat n :: rest) =
      some (Char.ofNat (bits * 64 + (n - 0x80))) :: scalarsFrom none rest := by
  rw [scalarsFrom, toNat_ofNat small, if_pos ⟨notBelow, notAbove⟩]

theorem scalarsFrom_start {byte : UInt8} {unfinished : Unfinished} {rest : List UInt8}
    (starts : lead byte = .start unfinished) :
    scalarsFrom none (byte :: rest) = scalarsFrom (some unfinished) rest := by
  rw [scalarsFrom, starts]

theorem lead_one {v : Nat} (small : v ≤ 0x7F) :
    lead (UInt8.ofNat v) = .whole (Char.ofNat v) := by
  unfold lead
  rw [toNat_ofNat (by omega)]
  exact if_pos (by omega)

theorem lead_two {v : Nat} (large : 0x7F < v) (small : v ≤ 0x7FF) :
    lead (UInt8.ofNat (v / 64 % 32 + 192)) = .start ⟨0, 0x80, 0xBF, v / 64⟩ := by
  unfold lead
  rw [toNat_ofNat (by omega)]
  simp only
  rw [if_neg (by omega), if_pos (by omega), show v / 64 % 32 + 192 - 0xC0 = v / 64 by omega]

/-- The second of three bytes is in the range that the first one sets. At the lower end that range
excludes overlong forms, at the upper end surrogates, which are no characters. -/
theorem lead_three {v : Nat} (large : 0x7FF < v) (small : v ≤ 0xFFFF)
    (valid : v < 0xD800 ∨ 0xDFFF < v) :
    ∃ low high, lead (UInt8.ofNat (v / 4096 % 16 + 224)) = .start ⟨1, low, high, v / 4096⟩ ∧
      low ≤ v / 64 % 64 + 128 ∧ v / 64 % 64 + 128 ≤ high := by
  unfold lead
  rw [toNat_ofNat (by omega)]
  simp only
  rw [if_neg (by omega), if_neg (by omega)]
  split
  · rw [show v / 4096 = 0 by omega]
    exact ⟨_, _, rfl, by omega, by omega⟩
  · split
    · rw [show v / 4096 = 0xD by omega]
      exact ⟨_, _, rfl, by omega, by omega⟩
    · rw [if_pos (by omega), show v / 4096 % 16 + 224 - 0xE0 = v / 4096 by omega]
      exact ⟨_, _, rfl, by omega, by omega⟩

/-- The second of four bytes is in the range that the first one sets. At the upper end that range
excludes what lies behind the last code point. -/
theorem lead_four {v : Nat} (large : 0xFFFF < v) (small : v < 0x110000) :
    ∃ low high, lead (UInt8.ofNat (v / 262144 % 8 + 240)) = .start ⟨2, low, high, v / 262144⟩ ∧
      low ≤ v / 4096 % 64 + 128 ∧ v / 4096 % 64 + 128 ≤ high := by
  unfold lead
  rw [toNat_ofNat (by omega)]
  simp only
  rw [if_neg (by omega), if_neg (by omega), if_neg (by omega), if_neg (by omega),
    if_neg (by omega)]
  split
  · rw [show v / 262144 = 0 by omega]
    exact ⟨_, _, rfl, by omega, by omega⟩
  · split
    · rw [show v / 262144 % 8 + 240 - 0xF0 = v / 262144 by omega]
      exact ⟨_, _, rfl, by omega, by omega⟩
    · rw [if_pos (by omega), show v / 262144 = 4 by omega]
      exact ⟨_, _, rfl, by omega, by omega⟩

/-- The bytes of one character are read as that character, whatever comes after them. -/
theorem scalarsFrom_utf8EncodeChar (c : Char) (rest : List UInt8) :
    scalarsFrom none (String.utf8EncodeChar c ++ rest) = some c :: scalarsFrom none rest := by
  have valid : c.val.toNat < 0xD800 ∨ 0xDFFF < c.val.toNat ∧ c.val.toNat < 0x110000 := c.valid
  have same : Char.ofNat c.val.toNat = c := Char.ofNat_toNat c
  unfold String.utf8EncodeChar
  -- From here on only the number of the character counts, and which of four lengths it needs.
  generalize c.val.toNat = v at valid same
  simp only
  split
  · next one =>
    rw [List.singleton_append, scalarsFrom, lead_one one]
    simp only [same]
  · split
    · next two =>
      rw [List.cons_append, List.singleton_append, scalarsFrom_start (lead_two (by omega) two),
        scalarsFrom_last (by omega) (by omega) (by omega)]
      rw [show v / 64 * 64 + (v % 64 + 128 - 0x80) = v by omega, same]
    · split
      · next three =>
        obtain ⟨low, high, starts, notBelow, notAbove⟩ := lead_three (by omega) three (by omega)
        rw [List.cons_append, List.cons_append, List.singleton_append, scalarsFrom_start starts,
          scalarsFrom_more (by omega) notBelow notAbove,
          scalarsFrom_last (by omega) (by omega) (by omega)]
        rw [show (v / 4096 * 64 + (v / 64 % 64 + 128 - 0x80)) * 64 + (v % 64 + 128 - 0x80) = v
          by omega, same]
      · obtain ⟨low, high, starts, notBelow, notAbove⟩ := lead_four (v := v) (by omega) (by omega)
        rw [List.cons_append, List.cons_append, List.cons_append, List.singleton_append,
          scalarsFrom_start starts, scalarsFrom_more (by omega) notBelow notAbove,
          scalarsFrom_more (by omega) (by omega) (by omega),
          scalarsFrom_last (by omega) (by omega) (by omega)]
        rw [show ((v / 262144 * 64 + (v / 4096 % 64 + 128 - 0x80)) * 64 +
          (v / 64 % 64 + 128 - 0x80)) * 64 + (v % 64 + 128 - 0x80) = v by omega, same]

/-- Only the zero character has a zero byte. -/
theorem ne_zero_of_mem_utf8EncodeChar {c : Char} (nonzero : c ≠ '\x00') {byte : UInt8}
    (member : byte ∈ String.utf8EncodeChar c) : byte ≠ 0 := by
  have positive : c.val.toNat ≠ 0 := by
    intro zero
    apply nonzero
    have same : Char.ofNat c.val.toNat = c := Char.ofNat_toNat c
    rw [← same, zero]
  unfold String.utf8EncodeChar at member
  generalize c.val.toNat = v at member positive
  have apart : ∀ n < 256, n ≠ 0 → UInt8.ofNat n ≠ 0 := by
    intro n small isPositive zero
    have toNat := toNat_ofNat small
    rw [zero] at toNat
    exact isPositive toNat.symm
  simp only at member
  split at member
  · rw [List.mem_singleton] at member
    exact member ▸ apart v (by omega) positive
  · -- Of several bytes, each has its top bit set.
    suffices ∃ n, byte = UInt8.ofNat n ∧ 128 ≤ n ∧ n < 256 by
      obtain ⟨n, rfl, large, small⟩ := this
      exact apart n small (by omega)
    split at member
    · simp only [List.mem_cons, List.not_mem_nil, or_false] at member
      rcases member with rfl | rfl
      all_goals exact ⟨_, rfl, by omega, by omega⟩
    · split at member
      · simp only [List.mem_cons, List.not_mem_nil, or_false] at member
        rcases member with rfl | rfl | rfl
        all_goals exact ⟨_, rfl, by omega, by omega⟩
      · simp only [List.mem_cons, List.not_mem_nil, or_false] at member
        rcases member with rfl | rfl | rfl | rfl
        all_goals exact ⟨_, rfl, by omega, by omega⟩

/-! ## 2. Whole texts -/

theorem scalars_encode (text : String) : scalars (encode text) = text.toList.map some := by
  rw [encode_eq_flatMap, scalars]
  induction text.toList with
  | nil => rfl
  | cons c rest ih =>
    rw [List.flatMap_cons, scalarsFrom_utf8EncodeChar, ih, List.map_cons]

theorem decodeLossy_encode (text : String) : decodeLossy (encode text) = text := by
  rw [decodeLossy, scalars_encode, List.map_map]
  have same : text.toList.map ((fun scalar => scalar.getD '\uFFFD') ∘ some) = text.toList :=
    List.map_id text.toList
  rw [same, String.ofList_toList]

/-- A text without a zero character comes back from a field that is filled up with zero bytes. -/
theorem decodeTerminated_padded {text : String} (nonzero : '\x00' ∉ text.toList) (count : Nat) :
    decodeTerminated (encode text ++ List.replicate count 0) = text := by
  have nonzeroBytes : ∀ byte ∈ encode text, (byte != 0) = true := by
    intro byte member
    rw [encode_eq_flatMap] at member
    obtain ⟨c, isChar, isByte⟩ := List.mem_flatMap.1 member
    have isNonzero : c ≠ '\x00' := by
      rintro rfl
      exact nonzero isChar
    exact bne_iff_ne.2 (ne_zero_of_mem_utf8EncodeChar isNonzero isByte)
  have padding : (List.replicate count (0 : UInt8)).takeWhile (fun byte => byte != 0) = [] := by
    cases count <;> rfl
  rw [decodeTerminated, List.takeWhile_append_of_pos nonzeroBytes, padding, List.append_nil,
    decodeLossy_encode]

end MissionScript.Text
