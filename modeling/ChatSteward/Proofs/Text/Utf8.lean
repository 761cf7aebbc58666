import ChatSteward.Text.Utf8

/-!
# Encoded texts

The bytes of a text are those of its characters in turn, and lossy decoding takes them for what
they are: it makes replacements only where bytes are no text.

## Main results

* `encodeUtf8_ofList` — a text is encoded character by character
* `decodeLossy_encodeUtf8` — lossy decoding undoes encoding
-/

namespace ChatSteward.Text

/-- A text is encoded character by character. -/
theorem encodeUtf8_ofList (chars : List Char) :
    encodeUtf8 (String.ofList chars) = chars.flatMap String.utf8EncodeChar := by
  simp [encodeUtf8, List.utf8Encode]

theorem encodeUtf8_eq_flatMap (text : String) :
    encodeUtf8 text = text.toList.flatMap String.utf8EncodeChar := by
  rw [← encodeUtf8_ofList, String.ofList_toList]

theorem utf8EncodeChar_of_ascii {c : Char} (hascii : c.toNat < 0x80) :
    String.utf8EncodeChar c = [c.toNat.toUInt8] := by
  have hsmall : c.val.toNat ≤ 0x7F := Nat.le_of_lt_succ hascii
  rw [String.utf8EncodeChar, if_pos hsmall]
  rfl

theorem toNat_charOfNat {n : Nat} (hascii : n < 0x80) : (Char.ofNat n).toNat = n := by
  have hvalid : n.isValidChar := .inl (by omega)
  rw [Char.ofNat, dif_pos hvalid]
  rfl

/-! ## Lossy decoding -/

theorem decodeLossyFrom_cons (pending : Option Unfinished) (byte : UInt8) (rest : List UInt8) :
    decodeLossyFrom pending (byte :: rest) =
      (continueSequence pending byte).1 ++
        decodeLossyFrom (continueSequence pending byte).2 rest := by
  cases pending <;> rfl

theorem toNat_ofNat_of_lt {n : Nat} (hbyte : n < 256) : (UInt8.ofNat n).toNat = n := by
  rw [UInt8.toNat_ofNat']
  omega

/-- A sequence goes on with a byte within its bounds. -/
theorem decodeLossyFrom_within {part : Unfinished} {n : Nat} (hmore : part.needed ≠ 1)
    (hlow : part.low ≤ n) (hhigh : n ≤ part.high) (hbyte : n < 256) (rest : List UInt8) :
    decodeLossyFrom (some part) (UInt8.ofNat n :: rest) =
      decodeLossyFrom
        (some ⟨part.needed - 1, 0x80, 0xBF, part.bits * 64 + (n - 0x80)⟩) rest := by
  rw [decodeLossyFrom_cons]
  simp only [continueSequence, toNat_ofNat_of_lt hbyte, if_pos (And.intro hlow hhigh),
    if_neg hmore, List.nil_append]

/-- A sequence ends with a byte within its bounds. -/
theorem decodeLossyFrom_last {part : Unfinished} {n : Nat} (hlast : part.needed = 1)
    (hlow : part.low ≤ n) (hhigh : n ≤ part.high) (hbyte : n < 256) (rest : List UInt8) :
    decodeLossyFrom (some part) (UInt8.ofNat n :: rest) =
      Char.ofNat (part.bits * 64 + (n - 0x80)) :: decodeLossyFrom none rest := by
  rw [decodeLossyFrom_cons]
  simp only [continueSequence, toNat_ofNat_of_lt hbyte, if_pos (And.intro hlow hhigh),
    if_pos hlast, List.singleton_append]

theorem decodeLossyFrom_begin {n : Nat} {part : Unfinished}
    (hbegin : beginSequence (UInt8.ofNat n) = ([], some part)) (rest : List UInt8) :
    decodeLossyFrom none (UInt8.ofNat n :: rest) = decodeLossyFrom (some part) rest := by
  rw [decodeLossyFrom_cons, continueSequence, hbegin]
  rfl

/-- The first byte of two. -/
theorem beginSequence_two {v : Nat} (hlow : 0x80 ≤ v) (hhigh : v ≤ 0x7FF) :
    beginSequence (UInt8.ofNat (v / 64 % 32 + 0xC0)) = ([], some ⟨1, 0x80, 0xBF, v / 64⟩) := by
  have hnat : (UInt8.ofNat (v / 64 % 32 + 0xC0)).toNat = v / 64 + 0xC0 := by
    rw [toNat_ofNat_of_lt (by omega)]
    omega
  simp only [beginSequence, hnat]
  rw [if_neg (by omega), if_pos (by omega), Nat.add_sub_cancel]

/-- The first byte of three, with the bounds that it sets for the second one. -/
theorem beginSequence_three {v : Nat} (hlow : 0x800 ≤ v) (hhigh : v ≤ 0xFFFF)
    (hvalid : v < 0xD800 ∨ 0xDFFF < v) :
    ∃ low high, beginSequence (UInt8.ofNat (v / 4096 % 16 + 0xE0)) =
        ([], some ⟨2, low, high, v / 4096⟩) ∧
      low ≤ v / 64 % 64 + 0x80 ∧ v / 64 % 64 + 0x80 ≤ high := by
  have hnat : (UInt8.ofNat (v / 4096 % 16 + 0xE0)).toNat = v / 4096 + 0xE0 := by
    rw [toNat_ofNat_of_lt (by omega)]
    omega
  simp only [beginSequence, hnat]
  rw [if_neg (by omega), if_neg (by omega)]
  -- the bounds leave out numbers that have shorter sequences, and the surrogates
  by_cases hfirst : v / 4096 = 0
  · exact ⟨0xA0, 0xBF, by rw [if_pos (by omega), hfirst], by omega, by omega⟩
  · rw [if_neg (by omega)]
    by_cases hsurrogates : v / 4096 = 0xD
    · exact ⟨0x80, 0x9F, by rw [if_pos (by omega), hsurrogates], by omega, by omega⟩
    · refine ⟨0x80, 0xBF, ?_, by omega, by omega⟩
      rw [if_neg (by omega), if_pos (by omega), Nat.add_sub_cancel]

/-- The first byte of four, with the bounds that it sets for the second one. -/
theorem beginSequence_four {v : Nat} (hlow : 0x10000 ≤ v) (hhigh : v < 0x110000) :
    ∃ low high, beginSequence (UInt8.ofNat (v / 262144 % 8 + 0xF0)) =
        ([], some ⟨3, low, high, v / 262144⟩) ∧
      low ≤ v / 4096 % 64 + 0x80 ∧ v / 4096 % 64 + 0x80 ≤ high := by
  have hnat : (UInt8.ofNat (v / 262144 % 8 + 0xF0)).toNat = v / 262144 + 0xF0 := by
    rw [toNat_ofNat_of_lt (by omega)]
    omega
  simp only [beginSequence, hnat]
  rw [if_neg (by omega), if_neg (by omega), if_neg (by omega), if_neg (by omega), if_neg (by omega)]
  -- the bounds leave out numbers that have shorter sequences, and those beyond all characters
  by_cases hfirst : v / 262144 = 0
  · exact ⟨0x90, 0xBF, by rw [if_pos (by omega), hfirst], by omega, by omega⟩
  · rw [if_neg (by omega)]
    by_cases hlast : v / 262144 = 4
    · exact ⟨0x80, 0x8F, by rw [if_pos (by omega), hlast], by omega, by omega⟩
    · refine ⟨0x80, 0xBF, ?_, by omega, by omega⟩
      rw [if_neg (by omega), if_pos (by omega), Nat.add_sub_cancel]

/-- The bytes of a character are decoded to it. -/
theorem decodeLossyFrom_char (c : Char) (rest : List UInt8) :
    decodeLossyFrom none (String.utf8EncodeChar c ++ rest) = c :: decodeLossyFrom none rest := by
  have hvalid : c.val.toNat < 0xD800 ∨ 0xDFFF < c.val.toNat ∧ c.val.toNat < 0x110000 := c.valid
  have hchar : Char.ofNat c.val.toNat = c := Char.ofNat_toNat c
  generalize hv : c.val.toNat = v at hvalid hchar
  simp only [String.utf8EncodeChar, hv]
  -- by the number of bytes
  by_cases hone : v ≤ 0x7F
  · rw [if_pos hone, List.singleton_append, decodeLossyFrom_cons]
    simp only [continueSequence, beginSequence, toNat_ofNat_of_lt (show v < 256 by omega),
      if_pos (show v < 0x80 by omega), hchar, List.singleton_append]
  rw [if_neg hone]
  by_cases htwo : v ≤ 0x7FF
  · have hbegin := beginSequence_two (v := v) (by omega) htwo
    rw [if_pos htwo, List.cons_append, List.singleton_append,
      decodeLossyFrom_begin hbegin,
      decodeLossyFrom_last rfl (by simp only; omega) (by simp only; omega) (by omega)]
    simp only [show v / 64 * 64 + (v % 64 + 0x80 - 0x80) = v by omega, hchar]
  rw [if_neg htwo]
  by_cases hthree : v ≤ 0xFFFF
  · obtain ⟨low, high, hbegin, hlow, hhigh⟩ :=
      beginSequence_three (v := v) (by omega) hthree (by omega)
    rw [if_pos hthree, List.cons_append, List.cons_append, List.singleton_append,
      decodeLossyFrom_begin hbegin,
      decodeLossyFrom_within (by simp) hlow hhigh (by omega),
      decodeLossyFrom_last rfl (by simp only; omega) (by simp only; omega) (by omega)]
    simp only [show (v / 4096 * 64 + (v / 64 % 64 + 0x80 - 0x80)) * 64 + (v % 64 + 0x80 - 0x80) = v
      by omega, hchar]
  · obtain ⟨low, high, hbegin, hlow, hhigh⟩ := beginSequence_four (v := v) (by omega) (by omega)
    rw [if_neg hthree, List.cons_append, List.cons_append, List.cons_append,
      List.singleton_append, decodeLossyFrom_begin hbegin,
      decodeLossyFrom_within (by simp) hlow hhigh (by omega),
      decodeLossyFrom_within (by simp) (by simp only; omega) (by simp only; omega) (by omega),
      decodeLossyFrom_last rfl (by simp only; omega) (by simp only; omega) (by omega)]
    simp only [show ((v / 262144 * 64 + (v / 4096 % 64 + 0x80 - 0x80)) * 64 +
      (v / 64 % 64 + 0x80 - 0x80)) * 64 + (v % 64 + 0x80 - 0x80) = v by omega, hchar]

/-- Lossy decoding undoes encoding. -/
theorem decodeLossy_encodeUtf8 (text : String) : decodeLossy (encodeUtf8 text) = text := by
  have hchars (chars : List Char) :
      decodeLossyFrom none (chars.flatMap String.utf8EncodeChar) = chars := by
    induction chars with
    | nil => rfl
    | cons c chars ih => rw [List.flatMap_cons, decodeLossyFrom_char, ih]
  rw [decodeLossy, encodeUtf8_eq_flatMap, hchars, String.ofList_toList]

end ChatSteward.Text
