import ChatSteward.Json.Record
import ChatSteward.Proofs.Json.Passing
import ChatSteward.Proofs.Text.Utf8

/-!
# Reading scalars

What the readers make of the texts of the grammar: a string that spells some characters is read as
them, and the decimal text of an integer within its bounds as the integer. A reading of a value
does not depend on the blanks in front of it, nor on what follows it.

## Main definitions

* `Reads` — a text that a reader takes for a value

## Main results

* `readText_of_spells` — strings are read as what they spell
* `readNumber_toString` — integers are read from their decimal text
* `Decoder.decode_of_reads` — a text that is read as a value is decoded as it
-/

namespace ChatSteward.Json

/-- Whether a reader takes a text for a value, with any blanks in front of it and whatever
follows. -/
def Reads {α : Type} (reader : Reader α) (text : List UInt8) (value : α) : Prop :=
  ∀ before rest, Blanks before → Ends rest →
    reader.read (before ++ (text ++ rest)) = .ok (value, rest)

theorem Reads.map {α β : Type} {reader : Reader α} {text : List UInt8} {value : α}
    (hreads : Reads reader text value) (f : α → β) : Reads (reader.map f) text (f value) := by
  intro before rest hbefore hends
  simp only [Reader.map, hreads before rest hbefore hends]

/-! ## Strings -/

theorem readContent_plain {b : UInt8} (hcontrol : ¬ b < 0x20) (hquote : b ≠ Byte.quote)
    (hbackslash : b ≠ Byte.backslash) {rest content atQuote : List UInt8}
    (hrest : readContent rest = .ok (content, atQuote)) :
    readContent (b :: rest) = .ok (b :: content, atQuote) := by
  refine (readContent.eq_4 b rest hquote hbackslash).trans ?_
  rw [if_neg hcontrol, hrest]

theorem readContent_escape {rest rest' escaped content atQuote : List UInt8}
    (hescape : readEscape rest = .ok (escaped, rest'))
    (hrest : readContent rest' = .ok (content, atQuote)) :
    readContent (Byte.backslash :: rest) = .ok (escaped ++ content, atQuote) := by
  refine (readContent.eq_3 rest).trans ?_
  split
  case h_1 herror =>
    rw [hescape] at herror
    cases herror
  case h_2 hok =>
    rw [hescape] at hok
    cases hok
    rw [hrest]

/-- Bytes that are neither quotes nor backslashes nor controls stand for themselves. -/
theorem readContent_append {bytes rest content atQuote : List UInt8}
    (hbytes : ∀ b ∈ bytes, ¬ b < 0x20 ∧ b ≠ Byte.quote ∧ b ≠ Byte.backslash)
    (hrest : readContent rest = .ok (content, atQuote)) :
    readContent (bytes ++ rest) = .ok (bytes ++ content, atQuote) := by
  induction bytes with
  | nil => exact hrest
  | cons b bytes ih =>
    obtain ⟨hcontrol, hquote, hbackslash⟩ := hbytes b List.mem_cons_self
    exact readContent_plain hcontrol hquote hbackslash
      (ih fun b hb => hbytes b (List.mem_cons_of_mem _ hb))

/-- Beyond ASCII every byte of a character is at least `0x80`. -/
theorem le_of_mem_utf8EncodeChar {c : Char} (hwide : 0x80 ≤ c.toNat) {b : UInt8}
    (hmem : b ∈ String.utf8EncodeChar c) : 0x80 ≤ b := by
  have hnot : ¬ c.val.toNat ≤ 0x7F := Nat.not_le_of_lt hwide
  have hbyte (n : Nat) (hlow : 0x80 ≤ n) (hhigh : n < 256) : (0x80 : UInt8) ≤ UInt8.ofNat n := by
    rw [UInt8.le_iff_toNat_le, Text.toNat_ofNat_of_lt hhigh]
    exact hlow
  -- two, three or four bytes: the first has a mark of its length, the others are continuations
  simp only [String.utf8EncodeChar, if_neg hnot] at hmem
  split at hmem
  · simp only [List.mem_cons, List.not_mem_nil, or_false] at hmem
    rcases hmem with rfl | rfl <;> exact hbyte _ (by omega) (by omega)
  · split at hmem
    · simp only [List.mem_cons, List.not_mem_nil, or_false] at hmem
      rcases hmem with rfl | rfl | rfl <;> exact hbyte _ (by omega) (by omega)
    · simp only [List.mem_cons, List.not_mem_nil, or_false] at hmem
      rcases hmem with rfl | rfl | rfl | rfl <;> exact hbyte _ (by omega) (by omega)

/-- A character other than quotes, backslashes and controls has none of their bytes. -/
theorem plain_of_mem_utf8EncodeChar {c : Char} (hcontrol : 0x20 ≤ c.toNat) (hquote : c ≠ '"')
    (hbackslash : c ≠ '\\') {b : UInt8} (hmem : b ∈ String.utf8EncodeChar c) :
    ¬ b < 0x20 ∧ b ≠ Byte.quote ∧ b ≠ Byte.backslash := by
  by_cases hascii : c.toNat < 0x80
  · -- the only byte is the code of the character
    rw [Text.utf8EncodeChar_of_ascii hascii, List.mem_singleton] at hmem
    have hnat : b.toNat = c.toNat := by
      rw [hmem]
      exact Text.toNat_ofNat_of_lt (by omega)
    have hchar {other : Char} (hne : c ≠ other) : c.toNat ≠ other.toNat :=
      fun hsame => hne (Char.toNat_inj.mp hsame)
    refine ⟨?_, ?_, ?_⟩
    · rw [UInt8.lt_iff_toNat_lt, hnat]
      exact Nat.not_lt_of_le hcontrol
    · rintro rfl
      exact hchar hquote hnat.symm
    · rintro rfl
      exact hchar hbackslash hnat.symm
  · -- all bytes are beyond those of the quote, the backslash and the controls
    have hhigh := le_of_mem_utf8EncodeChar (Nat.le_of_not_lt hascii) hmem
    rw [UInt8.le_iff_toNat_le] at hhigh
    refine ⟨?_, ?_, ?_⟩
    · rw [UInt8.lt_iff_toNat_lt]
      exact Nat.not_lt_of_le (Nat.le_trans (by decide) hhigh)
    · rintro rfl
      exact absurd hhigh (by decide)
    · rintro rfl
      exact absurd hhigh (by decide)

theorem readHex_unit {a b c d : UInt8} {n : Nat} (hunit : hexValue? a b c d = some n)
    (rest : List UInt8) : readHex (a :: b :: c :: d :: rest) = .ok (n, rest) := by
  rw [readHex, hunit]

/-- A letter that an escape can have stands for an ASCII character. -/
theorem toNat_lt_of_letterEscape {b byte : UInt8} (hletter : letterEscape? b = some byte) :
    byte.toNat < 0x80 := by
  unfold letterEscape? at hletter
  repeat' split at hletter
  case isTrue hmark =>
    obtain rfl := Option.some.inj hletter
    rcases hmark with rfl | rfl | rfl <;> decide
  all_goals
    cases hletter
  all_goals decide

theorem readEscape_letter {b byte : UInt8} (hletter : letterEscape? b = some byte)
    (rest : List UInt8) :
    readEscape (b :: rest) = .ok (String.utf8EncodeChar (Char.ofNat byte.toNat), rest) := by
  have hascii := toNat_lt_of_letterEscape hletter
  have hnat := Text.toNat_charOfNat hascii
  rw [readEscape, hletter, Text.utf8EncodeChar_of_ascii (by omega), hnat]
  simp

theorem readEscape_unit {a b c d : UInt8} {n : Nat} (hunit : hexValue? a b c d = some n)
    (hleading : isLeadingSurrogate n = false) (htrailing : isTrailingSurrogate n = false)
    (rest : List UInt8) :
    readEscape (Byte.letterU :: a :: b :: c :: d :: rest) =
      .ok (String.utf8EncodeChar (Char.ofNat n), rest) := by
  have hletter : letterEscape? Byte.letterU = none := by decide
  rw [readEscape, hletter]
  simp [readNumericEscape, readHex_unit hunit, hleading, htrailing, codePointBytes]

theorem readEscape_pair {a b c d a' b' c' d' : UInt8} {leading trailing : Nat}
    (hunit : hexValue? a b c d = some leading) (hleading : isLeadingSurrogate leading = true)
    (hunit' : hexValue? a' b' c' d' = some trailing)
    (htrailing : isTrailingSurrogate trailing = true) (rest : List UInt8) :
    readEscape
        (Byte.letterU :: a :: b :: c :: d ::
          Byte.backslash :: Byte.letterU :: a' :: b' :: c' :: d' :: rest) =
      .ok (String.utf8EncodeChar (Char.ofNat (pairedCodePoint leading trailing)), rest) := by
  have hletter : letterEscape? Byte.letterU = none := by decide
  have hother : isTrailingSurrogate leading = false := by
    simp only [isLeadingSurrogate, isTrailingSurrogate, Bool.and_eq_true, decide_eq_true_eq,
      Bool.and_eq_false_iff, decide_eq_false_iff_not] at hleading ⊢
    omega
  have hsecond : readTrailing (Byte.backslash :: Byte.letterU :: a' :: b' :: c' :: d' :: rest) =
      .ok (trailing, rest) := by
    refine (readTrailing.eq_3 _).trans ?_
    simp [readHex_unit hunit', htrailing]
  rw [readEscape, hletter]
  simp [readNumericEscape, readHex_unit hunit, hleading, hother, hsecond, codePointBytes]

/-- The content of a string that spells some characters is their bytes. -/
theorem readContent_of_spells {bytes : List UInt8} {chars : List Char}
    (hspells : Spells bytes chars) (rest : List UInt8) :
    readContent (bytes ++ rest) =
      .ok (chars.flatMap String.utf8EncodeChar, Byte.quote :: rest) := by
  induction hspells with
  | close => exact readContent.eq_2 rest
  | plain hcontrol hquote hbackslash _ ih =>
    rw [List.append_assoc, List.flatMap_cons]
    exact readContent_append
      (fun b hb => plain_of_mem_utf8EncodeChar hcontrol hquote hbackslash hb) ih
  | letter hletter _ ih => exact readContent_escape (readEscape_letter hletter _) ih
  | unit hunit hleading htrailing _ ih =>
    exact readContent_escape (readEscape_unit hunit hleading htrailing _) ih
  | pair hunit hleading hunit' htrailing _ ih =>
    exact readContent_escape (readEscape_pair hunit hleading hunit' htrailing _) ih

/-- A string is read as what it spells. -/
theorem readText_of_spells {bytes : List UInt8} {chars : List Char}
    (hspells : Spells bytes chars) (rest : List UInt8) :
    readText (bytes ++ rest) = .ok (String.ofList chars, rest) := by
  rw [readText, readContent_of_spells hspells]
  simp only [← Text.encodeUtf8_ofList, Text.decodeUtf8?_encodeUtf8, List.drop_succ_cons,
    List.drop_zero]

theorem isContent_append {bytes rest : List UInt8}
    (hbytes : ∀ b ∈ bytes, ¬ b < 0x20 ∧ b ≠ Byte.quote ∧ b ≠ Byte.backslash)
    (hrest : IsContent rest) : IsContent (bytes ++ rest) := by
  induction bytes with
  | nil => exact hrest
  | cons b bytes ih =>
    obtain ⟨hcontrol, hquote, hbackslash⟩ := hbytes b List.mem_cons_self
    exact .plain hcontrol hquote hbackslash (ih fun b hb => hbytes b (List.mem_cons_of_mem _ hb))

/-- What spells some characters is the content of a string. -/
theorem Spells.isContent {bytes : List UInt8} {chars : List Char} (hspells : Spells bytes chars) :
    IsContent bytes := by
  induction hspells with
  | close => exact .close
  | plain hcontrol hquote hbackslash _ ih =>
    exact isContent_append
      (fun b hb => plain_of_mem_utf8EncodeChar hcontrol hquote hbackslash hb) ih
  | letter hletter _ ih => exact .letter hletter ih
  | unit hunit _ _ _ ih => exact .unit hunit ih
  | pair hunit _ hunit' _ _ ih => exact .unit hunit (.unit hunit' ih)

theorem IsMembers.derives {text : List UInt8} {members : List (String × List UInt8)}
    (hmembers : IsMembers text members) : Derives .members text := by
  induction hmembers with
  | last hkey hlabel hvalue hpadded => exact .lastMember hkey.isContent hlabel hvalue hpadded
  | more hkey hlabel hvalue hpadded _ ih =>
    exact .member hkey.isContent hlabel hvalue hpadded ih

/-- An object is a value. -/
theorem IsObject.isValue {text : List UInt8} {members : List (String × List UInt8)}
    (hobject : IsObject text members) : IsValue text := by
  cases hobject with
  | empty hblanks => exact .emptyObject hblanks
  | members hmembers => exact .object hmembers.derives

/-! ## Integers -/

/-- The bytes of the decimal digits of a number. -/
def digitsOf (n : Nat) : List UInt8 := (Nat.toDigits 10 n).map fun c => c.toNat.toUInt8

theorem toNat_of_isDigit {c : Char} (hdigit : c.isDigit = true) :
    48 ≤ c.toNat ∧ c.toNat ≤ 57 := by
  simpa [Char.isDigit, UInt32.le_iff_toNat_le] using hdigit

theorem isDigit_of_char {c : Char} (hdigit : c.isDigit = true) :
    Byte.isDigit c.toNat.toUInt8 = true ∧ Byte.digit c.toNat.toUInt8 = c.toNat - 48 := by
  have hbounds := toNat_of_isDigit hdigit
  have hnat : (c.toNat.toUInt8).toNat = c.toNat := Text.toNat_ofNat_of_lt (by omega)
  refine ⟨?_, by rw [Byte.digit, hnat]⟩
  simp only [Byte.isDigit, Bool.and_eq_true, decide_eq_true_eq, UInt8.le_iff_toNat_le, hnat]
  exact hbounds

theorem isDigit_of_mem_toDigits {n : Nat} {c : Char} (hmem : c ∈ Nat.toDigits 10 n) :
    c.isDigit = true :=
  Nat.isDigit_of_mem_toDigits (by decide) (by decide) hmem

theorem isDigit_digitsOf {n : Nat} {b : UInt8} (hmem : b ∈ digitsOf n) :
    Byte.isDigit b = true := by
  obtain ⟨c, hc, rfl⟩ := List.mem_map.mp hmem
  exact (isDigit_of_char (isDigit_of_mem_toDigits hc)).1

/-- The first digit of a number other than zero is not zero. -/
theorem toDigits_front {n : Nat} (hzero : n ≠ 0) :
    ∃ first rest, Nat.toDigits 10 n = first :: rest ∧ first ≠ '0' := by
  -- the first digit is that of the number without its last one, as long as this is not zero
  induction n using Nat.strongRecOn with
  | ind n ih =>
    by_cases hsmall : n < 10
    · refine ⟨n.digitChar, [], Nat.toDigits_of_lt_base hsmall, ?_⟩
      have hall : ∀ m < 10, m ≠ 0 → m.digitChar ≠ '0' := by decide
      exact hall n hsmall hzero
    · obtain ⟨first, rest, hdigits, hfirst⟩ := ih (n / 10) (by omega) (by omega)
      rw [Nat.toDigits_of_base_le (by decide) (by omega), hdigits]
      exact ⟨first, _, rfl, hfirst⟩

theorem digitsOf_front {n : Nat} (hzero : n ≠ 0) :
    ∃ first rest, digitsOf n = first :: rest ∧ first ≠ Byte.zero := by
  obtain ⟨first, rest, hdigits, hfirst⟩ := toDigits_front hzero
  refine ⟨_, _, by rw [digitsOf, hdigits, List.map_cons], fun hsame => hfirst ?_⟩
  have hdigit : first.isDigit = true :=
    isDigit_of_mem_toDigits (hdigits ▸ List.mem_cons_self)
  have hvalue := (isDigit_of_char hdigit).2
  have hbounds := toNat_of_isDigit hdigit
  have hdecimal : Byte.digit Byte.zero = 0 := by decide
  rw [hsame, hdecimal] at hvalue
  have hnat : first.toNat = 48 := by omega
  exact Char.toNat_inj.mp hnat

/-- The digits of a number are those of a whole part. -/
theorem isWhole_digitsOf (n : Nat) : IsWhole (digitsOf n) := by
  by_cases hzero : n = 0
  · subst hzero
    exact IsWhole.zero
  · obtain ⟨first, rest, hdigits, hfirst⟩ := digitsOf_front hzero
    have hall : ∀ b ∈ first :: rest, Byte.isDigit b = true :=
      fun b hb => isDigit_digitsOf (hdigits ▸ hb)
    rw [hdigits]
    exact .digits (hall first List.mem_cons_self) hfirst fun b hb =>
      hall b (List.mem_cons_of_mem _ hb)

/-- Further digits only make a number greater. -/
theorem le_ofDigitChars (chars : List Char) (n : Nat) : n ≤ Nat.ofDigitChars 10 chars n := by
  induction chars generalizing n with
  | nil => simp
  | cons c chars ih =>
    rw [Nat.ofDigitChars_cons]
    exact Nat.le_trans (by omega) (ih _)

/-- A digit is added to a number as readers of digits add its byte. -/
theorem next_of_isDigit {c : Char} (hdigit : c.isDigit = true) (n : Nat) :
    n * 10 + Byte.digit c.toNat.toUInt8 = 10 * n + (c.toNat - '0'.toNat) := by
  rw [(isDigit_of_char hdigit).2, Nat.mul_comm]
  rfl

/-- A significand takes no digit that would make it too great. -/
theorem absorb_le {significand : Nat} (hfits : significand ≤ greatestUnsigned)
    (digits : List UInt8) : (absorb significand digits).1 ≤ greatestUnsigned := by
  induction digits generalizing significand with
  | nil => exact hfits
  | cons digit digits ih =>
    rw [absorb]
    split
    case isTrue hnext => exact ih hnext
    case isFalse => exact hfits

theorem absorb_length_le (significand : Nat) (digits : List UInt8) :
    (absorb significand digits).2.length ≤ digits.length := by
  induction digits generalizing significand with
  | nil => exact Nat.le_refl _
  | cons digit digits ih =>
    rw [absorb]
    split
    case isTrue => exact Nat.le_succ_of_le (ih _)
    case isFalse => exact Nat.le_refl _

/-- A significand takes all digits of a number that fits 64 bits. -/
theorem absorb_digits {chars : List Char} (hdigits : ∀ c ∈ chars, c.isDigit = true)
    {significand : Nat} (hfits : Nat.ofDigitChars 10 chars significand ≤ greatestUnsigned) :
    absorb significand (chars.map fun c => c.toNat.toUInt8) =
      (Nat.ofDigitChars 10 chars significand, []) := by
  induction chars generalizing significand with
  | nil => simp [absorb]
  | cons c chars ih =>
    -- every number on the way fits as the last does
    rw [Nat.ofDigitChars_cons] at hfits ⊢
    rw [List.map_cons, absorb, next_of_isDigit (hdigits c List.mem_cons_self)]
    simp only [if_pos (Nat.le_trans (le_ofDigitChars _ _) hfits)]
    exact ih (fun c hc => hdigits c (List.mem_cons_of_mem _ hc)) hfits

theorem absorb_digitsOf {n : Nat} (hfits : n ≤ greatestUnsigned) :
    absorb 0 (digitsOf n) = (n, []) := by
  have hvalue := Nat.ofDigitChars_ten_toDigits (n := n)
  have hdigits : ∀ c ∈ Nat.toDigits 10 n, c.isDigit = true :=
    fun c hc => isDigit_of_mem_toDigits hc
  have habsorb := absorb_digits hdigits (hvalue.symm ▸ hfits)
  rwa [hvalue] at habsorb

theorem encodeUtf8_digits {chars : List Char} (hdigits : ∀ c ∈ chars, c.isDigit = true) :
    Text.encodeUtf8 (String.ofList chars) = chars.map fun c => c.toNat.toUInt8 := by
  rw [Text.encodeUtf8_ofList]
  induction chars with
  | nil => rfl
  | cons c chars ih =>
    have hbounds := toNat_of_isDigit (hdigits c List.mem_cons_self)
    rw [List.flatMap_cons, Text.utf8EncodeChar_of_ascii (by omega), List.map_cons,
      ih fun c hc => hdigits c (List.mem_cons_of_mem _ hc)]
    rfl

theorem encodeUtf8_repr (n : Nat) : Text.encodeUtf8 (Nat.repr n) = digitsOf n := by
  rw [Nat.repr_eq_ofList_toDigits]
  exact encodeUtf8_digits fun c hc => isDigit_of_mem_toDigits hc

/-- A number that ends behind its whole part is that. -/
theorem readAfterWhole_of_ends (negative : Bool) (n : Nat) {rest : List UInt8}
    (hends : Ends rest) : readAfterWhole negative n 0 rest = wholeOf negative n rest := by
  cases rest with
  | nil => rfl
  | cons b rest =>
    obtain ⟨hpoint, hlower, hupper⟩ := hends.ne_marks
    rw [readAfterWhole.eq_def]
    split
    case h_1 heq => exact absurd (List.cons.inj heq).1 hpoint
    case h_2 heq => exact absurd (List.cons.inj heq).1 hlower
    case h_3 heq => exact absurd (List.cons.inj heq).1 hupper
    case h_4 => rfl

/-- Behind its sign a number is read from the significand of its whole part, the digits that this
does not take as powers of ten. -/
theorem readUnsigned_whole (negative : Bool) {whole rest : List UInt8} (hwhole : IsWhole whole)
    (hrest : ∀ b ∈ rest.head?, Byte.isDigit b = false) :
    readUnsigned negative (whole ++ rest) =
      readAfterWhole negative (absorb 0 whole).1 (absorb 0 whole).2.length rest := by
  cases hwhole with
  | zero =>
    have hnone : leadingDigits ([] ++ rest) = [] := leadingDigits_append (by simp) hrest
    have habsorb : absorb 0 [Byte.zero] = (0, []) := by decide
    rw [List.nil_append] at hnone
    rw [List.singleton_append, readUnsigned, if_pos rfl, hnone, habsorb]
    rfl
  | @digits first digits hfirst hzero hdigits =>
    rw [List.cons_append, readUnsigned, if_neg hzero, if_pos hfirst,
      leadingDigits_append hdigits hrest, afterDigits_append hdigits hrest]

/-- Behind its sign a number within 64 bits is read as a whole. -/
theorem readUnsigned_digitsOf (negative : Bool) {n : Nat} (hfits : n ≤ greatestUnsigned)
    {rest : List UInt8} (hends : Ends rest) :
    readUnsigned negative (digitsOf n ++ rest) = wholeOf negative n rest := by
  rw [readUnsigned_whole negative (isWhole_digitsOf n) hends.head_not_digit, absorb_digitsOf hfits]
  exact readAfterWhole_of_ends negative n hends

/-- A number that starts with a digit has no sign. -/
theorem readNumber_of_isDigit {first : UInt8} (hfirst : Byte.isDigit first = true)
    (rest : List UInt8) : readNumber (first :: rest) = readUnsigned false (first :: rest) := by
  rw [readNumber.eq_def]
  split
  case h_1 heq =>
    rw [(List.cons.inj heq).1] at hfirst
    exact absurd hfirst (by decide)
  case h_2 => rfl

theorem encodeUtf8_negSucc (n : Nat) :
    Text.encodeUtf8 (toString (Int.negSucc n)) = Byte.minus :: digitsOf (n + 1) := by
  have hminus : Text.encodeUtf8 "-" = [Byte.minus] := by decide +kernel
  have hrepr : toString (Int.negSucc n) = "-" ++ Nat.repr (n + 1) := rfl
  rw [hrepr, Text.encodeUtf8_append, encodeUtf8_repr, hminus]
  rfl

/-- An integer of 64 bits, with or without a sign, is read from its decimal text. -/
theorem readNumber_toString {n : Int} (hlow : -(greatestSigned : Int) - 1 ≤ n)
    (hhigh : n ≤ greatestUnsigned) {rest : List UInt8} (hends : Ends rest) :
    readNumber (Text.encodeUtf8 (toString n) ++ rest) = .ok (.integer n, rest) := by
  cases n with
  | ofNat n =>
    have htext : Text.encodeUtf8 (toString (Int.ofNat n)) = digitsOf n := encodeUtf8_repr n
    have hfits : n ≤ greatestUnsigned := Int.ofNat_le.mp hhigh
    obtain ⟨first, digits, hdigits, hfirst⟩ := (isWhole_digitsOf n).front
    have hread := readUnsigned_digitsOf false hfits hends
    rw [hdigits, List.cons_append] at hread
    rw [htext, hdigits, List.cons_append, readNumber_of_isDigit hfirst]
    exact hread
  | negSucc n =>
    -- the least integer is one further from zero than the greatest
    have hsigned : n + 1 ≤ greatestSigned + 1 := by omega
    have hunsigned : greatestSigned + 1 ≤ greatestUnsigned := by decide
    rw [encodeUtf8_negSucc]
    refine (readUnsigned_digitsOf true (Nat.le_trans hsigned hunsigned) hends).trans ?_
    have hwhole : ¬ (n + 1 = 0 ∨ greatestSigned + 1 < n + 1) := by omega
    rw [wholeOf, if_neg (by decide), if_neg hwhole]
    rfl

/-! ## Scalars -/

/-- Whether a text is one of a scalar value, as readers of scalars take it. -/
def IsScalar (text : List UInt8) (value : Value) : Prop :=
  ∃ first tail, text = first :: tail ∧ Byte.isBlank first = false ∧
    first ≠ Byte.openBracket ∧ first ≠ Byte.openBrace ∧
    ∀ rest, Ends rest → readScalar first (tail ++ rest) = .ok (value, rest)

theorem isScalar_null : IsScalar nullText .null := by
  refine ⟨_, _, rfl, by decide, by decide, by decide, fun rest _ => ?_⟩
  rw [readScalar, if_pos rfl, readWord_append]

theorem isScalar_true : IsScalar trueText (.boolean true) := by
  refine ⟨_, _, rfl, by decide, by decide, by decide, fun rest _ => ?_⟩
  rw [readScalar, if_neg (by decide), if_pos rfl, readWord_append]

theorem isScalar_false : IsScalar falseText (.boolean false) := by
  refine ⟨_, _, rfl, by decide, by decide, by decide, fun rest _ => ?_⟩
  rw [readScalar, if_neg (by decide), if_neg (by decide), if_pos rfl, readWord_append]

theorem isScalar_text {content : List UInt8} {text : String}
    (hspells : Spells content text.toList) :
    IsScalar (Byte.quote :: content) (.text text) := by
  refine ⟨_, _, rfl, by decide, by decide, by decide, fun rest _ => ?_⟩
  rw [readScalar, if_neg (by decide), if_neg (by decide), if_neg (by decide), if_pos rfl,
    readText_of_spells hspells, String.ofList_toList]

/-- The text of a number is a scalar if it is read up to what ends it. -/
theorem isScalar_of_isNumeral {text : List UInt8} (hnumeral : IsNumeral text) {n : Number}
    (hread : ∀ rest, Ends rest → readNumber (text ++ rest) = .ok (n, rest)) :
    IsScalar text (.number n) := by
  obtain ⟨first, tail, rfl, hfirst⟩ := hnumeral.front
  -- what starts the text starts no other scalar, no array and no object
  have hne {b : UInt8} (hb : ¬ (b = Byte.minus ∨ Byte.isDigit b = true)) : first ≠ b := by
    rintro rfl
    exact hb hfirst
  have hsolid : Byte.isBlank first = false := by
    rcases hfirst with rfl | hdigit
    · decide
    · exact (startsValue_of_isDigit hdigit).1
  refine ⟨first, tail, rfl, hsolid, hne (by decide), hne (by decide), fun rest hends => ?_⟩
  have hnumber := hread rest hends
  rw [List.cons_append] at hnumber
  rw [readScalar, if_neg (hne (by decide)), if_neg (hne (by decide)), if_neg (hne (by decide)),
    if_neg (hne (by decide)), if_pos hfirst, hnumber]

/-- The text of an integer is a number. -/
theorem isNumeral_integer (n : Int) : IsNumeral (Text.encodeUtf8 (toString n)) := by
  cases n with
  | ofNat n =>
    have hdigits : Text.encodeUtf8 (toString (Int.ofNat n)) = [] ++ (digitsOf n ++ ([] ++ [])) := by
      rw [List.nil_append, List.append_nil, List.append_nil]
      exact encodeUtf8_repr n
    rw [hdigits]
    exact .of (.inl rfl) (isWhole_digitsOf n) .none .none
  | negSucc n =>
    have hdigits : Text.encodeUtf8 (toString (Int.negSucc n)) =
        [Byte.minus] ++ (digitsOf (n + 1) ++ ([] ++ [])) := by
      rw [List.append_nil, List.append_nil]
      exact encodeUtf8_negSucc n
    rw [hdigits]
    exact .of (.inr rfl) (isWhole_digitsOf (n + 1)) .none .none

theorem isScalar_integer {n : Int} (hlow : -(greatestSigned : Int) - 1 ≤ n)
    (hhigh : n ≤ greatestUnsigned) :
    IsScalar (Text.encodeUtf8 (toString n)) (.number (.integer n)) :=
  isScalar_of_isNumeral (isNumeral_integer n) fun _ hends => readNumber_toString hlow hhigh hends

/-- Readers of scalars read what passes their check. -/
theorem IsScalar.reads {text : List UInt8} {value : Value} (hscalar : IsScalar text value)
    {α : Type} {check : Value → Except Cause α} {result : α} (hcheck : check value = .ok result)
    (expected : String) : Reads (scalarReader expected check) text result := by
  obtain ⟨first, tail, rfl, hsolid, hbracket, hbrace, hread⟩ := hscalar
  intro before rest hbefore hends
  change readChecked expected check _ = _
  rw [readChecked, List.cons_append, dropBlanks_blanks_cons hbefore hsolid]
  simp only [hbracket, hbrace, or_self, if_false, hread rest hends, hcheck]

namespace Decoder

theorem reads_text {content : List UInt8} {text : String} (hspells : Spells content text.toList)
    (depth : Nat) : Reads (Decoder.text.reader depth) (Byte.quote :: content) text := by
  change Reads (scalarReader _ _) _ _
  apply (isScalar_text hspells).reads
  rfl

theorem reads_int64 {n : Int} (hlow : -(greatestSigned : Int) - 1 ≤ n) (hhigh : n ≤ greatestSigned)
    (depth : Nat) : Reads (int64.reader depth) (Text.encodeUtf8 (toString n)) n := by
  have hsigned : greatestSigned ≤ greatestUnsigned := by decide
  exact (isScalar_integer hlow (by omega)).reads (if_pos ⟨hlow, hhigh⟩) _

theorem reads_optional_null {α : Type} (decoder : Decoder α) (depth : Nat) :
    Reads (decoder.optional.reader depth) nullText none := by
  intro before rest hbefore _
  have hfront : dropBlanks (before ++ (nullText ++ rest)) = Byte.letterN :: (nullTail ++ rest) :=
    dropBlanks_blanks_cons hbefore (by decide) _
  simp only [optional, hfront]
  split
  case h_1 tail heq =>
    obtain rfl : nullTail ++ rest = tail := (List.cons.inj heq).2
    rw [readWord_append]
  case h_2 hother => exact absurd rfl (hother _)

/-- Only `null` starts like it. -/
theorem eq_nullText_of_isValue {tail : List UInt8} (hvalue : IsValue (Byte.letterN :: tail)) :
    Byte.letterN :: tail = nullText := by
  cases hvalue with
  | word hword =>
    simp only [List.mem_cons, List.not_mem_nil, or_false] at hword
    rcases hword with heq | heq | heq
    · exact heq
    · exact absurd (List.cons.inj heq).1 (by decide)
    · exact absurd (List.cons.inj heq).1 (by decide)
  | numeral hnumeral =>
    obtain ⟨first, rest, heq, hfirst⟩ := hnumeral.front
    rw [← (List.cons.inj heq).1] at hfirst
    exact absurd hfirst (by decide)

/-- A value that is not `null` is read as what it is. -/
theorem reads_optional {α : Type} {decoder : Decoder α} {depth : Nat} {text : List UInt8}
    {value : α} (hvalue : IsValue text) (hnull : text ≠ nullText)
    (hreads : Reads (decoder.reader depth) text value) :
    Reads (decoder.optional.reader depth) text (some value) := by
  intro before rest hbefore hends
  obtain ⟨first, tail, rfl, hsolid, -⟩ := hvalue.front
  have hsome := hreads.map some before rest hbefore hends
  simp only [optional, List.cons_append, dropBlanks_blanks_cons hbefore hsolid]
  split
  case h_1 heq =>
    obtain ⟨rfl, -⟩ := List.cons.inj heq
    exact absurd (eq_nullText_of_isValue hvalue) hnull
  case h_2 => exact hsome

theorem reads_ignored {text : List UInt8} (hvalue : IsValue text) (depth : Nat) :
    Reads (ignored.reader depth) text () := by
  intro before rest hbefore hends
  simp only [ignored, skipped, skipValue_of_isValue hvalue hbefore hends]

/-- A text that is read as a value is decoded as it. -/
theorem decode_of_reads {α : Type} {decoder : Decoder α} {text padded : List UInt8} {value : α}
    (hreads : Reads (decoder.reader greatestDepth) text value) (hpadded : Padded text padded) :
    decoder.decode padded = .ok value := by
  obtain ⟨before, after, hbefore, hafter, rfl⟩ := hpadded
  have hends : Ends after := by
    rw [← List.append_nil after]
    exact Ends.blanks_append hafter ends_nil
  have hrest : dropBlanks after = [] := by
    have := dropBlanks_blanks_append hafter []
    rwa [List.append_nil] at this
  rw [decode, hreads before after hbefore hends]
  simp only [hrest]

end Decoder

end ChatSteward.Json
