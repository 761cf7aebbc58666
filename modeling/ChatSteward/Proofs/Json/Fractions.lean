import ChatSteward.Json.Writer
import ChatSteward.Proofs.Json.Scanning
import ChatSteward.Proofs.Number.Shortest

/-!
# Written fractions

The text of a binary fraction is a number of the grammar, and it is read as a fraction. This need
not be the one that was written, as reading does not round correctly. A text with a rising power of
ten is read from exactly the parts of the shortest decimal; in all others the significand that is
read has 64 bits and the power of ten is small, and this is enough.

## Main definitions

* `LaysOut` — the texts in which a decimal is laid out

## Main results

* `exists_laysOut` — fractions are written in these texts
* `isNumeral_fraction` — the text of a fraction is a number
* `exists_isScalar_fraction` — it is read as a fraction
-/

namespace ChatSteward.Json

/-! ## Reading what a layout holds -/

/-- Digits behind a point, if there are any. -/
def pointed (digits : List UInt8) : List UInt8 :=
  if digits.isEmpty then [] else Byte.point :: digits

theorem isFraction_pointed {digits : List UInt8} (hdigits : ∀ b ∈ digits, Byte.isDigit b = true) :
    IsFraction (pointed digits) := by
  cases digits with
  | nil => exact .none
  | cons first rest => exact .digits ⟨List.cons_ne_nil _ _, hdigits⟩

/-- A decimal within the format is a fraction. -/
theorem fractionOf_of_some {negative : Bool} {significand : Nat} {exponent : Int} {x : Binary64}
    (hx : Binary64.ofParts? negative significand exponent = some x) (rest : List UInt8) :
    fractionOf negative significand exponent rest = .ok (.fraction x, rest) := by
  rw [fractionOf, hx]

/-- Digits behind a point are read up to what is not a digit. -/
theorem readFraction_of_ends (negative : Bool) (significand : Nat) (exponent : Int)
    {digits rest : List UInt8} (hdigits : IsDigits digits) (hends : Ends rest) :
    readFraction negative significand exponent (digits ++ rest) =
      fractionOf negative (absorb significand digits).1
        (exponent - (digits.length - (absorb significand digits).2.length : Nat)) rest := by
  have hsome : ¬ digits.isEmpty = true := by simpa using hdigits.1
  simp only [readFraction, leadingDigits_append hdigits.2 hends.head_not_digit,
    afterDigits_append hdigits.2 hends.head_not_digit, if_neg hsome]
  cases rest with
  | nil => rfl
  | cons b rest =>
    obtain ⟨-, hlower, hupper⟩ := hends.ne_marks
    split
    case h_1 heq => exact absurd (List.cons.inj heq).1 hlower
    case h_2 heq => exact absurd (List.cons.inj heq).1 hupper
    case h_3 => rfl

/-- Digits behind a point are read up to the mark of an exponent. -/
theorem readFraction_of_mark (negative : Bool) (significand : Nat) (exponent : Int)
    {digits : List UInt8} (hdigits : IsDigits digits) (tail : List UInt8) :
    readFraction negative significand exponent (digits ++ Byte.lowerE :: tail) =
      readExponent negative (absorb significand digits).1
        (exponent - (digits.length - (absorb significand digits).2.length : Nat)) tail := by
  have hsome : ¬ digits.isEmpty = true := by simpa using hdigits.1
  have hmark : ∀ b ∈ (Byte.lowerE :: tail).head?, Byte.isDigit b = false := by
    intro b hb
    obtain rfl := Option.some.inj hb
    decide
  simp only [readFraction, leadingDigits_append hdigits.2 hmark,
    afterDigits_append hdigits.2 hmark, if_neg hsome]
  rfl

/-- What a number with a fraction or an exponent takes of its digits fits 64 bits. -/
theorem absorb_twice_le (first second : List UInt8) :
    (absorb (absorb 0 first).1 second).1 ≤ UInt64.size := by
  have hsize : greatestUnsigned ≤ UInt64.size := Nat.sub_le _ _
  exact (absorb_le (absorb_le (Nat.zero_le _) first) second).trans hsize

/-- A number with a fraction and no exponent is read if its whole part is not too long. -/
theorem exists_readUnsigned_plain (negative : Bool) {whole digits : List UInt8}
    (hwhole : IsWhole whole) (hlength : whole.length ≤ 288) (hdigits : IsDigits digits) :
    ∃ x, ∀ rest, Ends rest →
      readUnsigned negative (whole ++ Byte.point :: digits ++ rest) = .ok (.fraction x, rest) := by
  have hpowers := absorb_length_le 0 whole
  have hexponent : ((absorb 0 whole).2.length : Int) -
      (digits.length - (absorb (absorb 0 whole).1 digits).2.length : Nat) ≤ 288 := by
    omega
  obtain ⟨x, hx⟩ :=
    Binary64.exists_ofParts?_of_le negative (absorb_twice_le whole digits) hexponent
  refine ⟨x, fun rest hends => ?_⟩
  have hpoint : ∀ b ∈ (Byte.point :: digits ++ rest).head?, Byte.isDigit b = false := by
    intro b hb
    obtain rfl := Option.some.inj hb
    decide
  rw [List.append_assoc, readUnsigned_whole negative hwhole hpoint]
  change readFraction negative _ _ (digits ++ rest) = _
  rw [readFraction_of_ends _ _ _ hdigits hends]
  exact fractionOf_of_some hx rest

/-- Every significand takes its first digit. -/
theorem absorb_first (first : UInt8) (digits : List UInt8) :
    (absorb 0 [first]).2 = [] ∧
      absorb 0 (first :: digits) = absorb (absorb 0 [first]).1 digits := by
  have hbyte : first.toNat < 256 := first.toNat_lt
  have hgreat : 256 ≤ greatestUnsigned := by decide
  have hsmall : 0 * 10 + Byte.digit first ≤ greatestUnsigned := by
    rw [Byte.digit]
    omega
  simp only [absorb, if_pos hsmall, and_self]

/-- A number with one digit before its point goes on with its exponent. -/
theorem readUnsigned_scientific (negative : Bool) {first : UInt8} {digits : List UInt8}
    (hwhole : IsWhole [first]) (hdigits : ∀ b ∈ digits, Byte.isDigit b = true)
    (tail : List UInt8) :
    readUnsigned negative (first :: (pointed digits ++ Byte.lowerE :: tail)) =
      readExponent negative (absorb (absorb 0 [first]).1 digits).1
        (-(digits.length - (absorb (absorb 0 [first]).1 digits).2.length : Nat)) tail := by
  have hmarks : ∀ b ∈ (pointed digits ++ Byte.lowerE :: tail).head?, Byte.isDigit b = false := by
    intro b hb
    cases digits <;> obtain rfl := Option.some.inj hb <;> decide
  rw [← List.singleton_append, readUnsigned_whole negative hwhole hmarks,
    (absorb_first first digits).1]
  cases digits with
  | nil => rfl
  | cons digit digits =>
    change readFraction negative _ _ (digit :: digits ++ Byte.lowerE :: tail) = _
    rw [readFraction_of_mark _ _ _ ⟨List.cons_ne_nil _ _, hdigits⟩]
    simp only [List.length_nil, Int.natCast_zero, zero_sub]

/-- An exponent is read from the digits behind its sign. -/
theorem readExponent_signed (negative : Bool) (significand : Nat) (start : Int) {sign : UInt8}
    {falling : Bool} (hsign : ∀ bytes, splitSign (sign :: bytes) = (falling, bytes))
    {first : UInt8} {digits rest : List UInt8}
    (hdigits : ∀ b ∈ first :: digits, Byte.isDigit b = true) (hends : Ends rest) :
    readExponent negative significand start (sign :: (first :: digits ++ rest)) =
      match exponentValue (Byte.digit first) digits with
      | .ok value =>
        fractionOf negative significand
          (clampExponent (if falling then start - value else start + value)) rest
      | .error unreadDigits =>
        if significand ≠ 0 ∧ !falling then stopHere .numberOutOfRange (unreadDigits ++ rest)
        else .ok (.fraction { Binary64.zero with negative := negative }, rest) := by
  obtain ⟨hfirst, hrest⟩ := List.forall_mem_cons.mp hdigits
  cases hvalue : exponentValue (Byte.digit first) digits <;>
    simp only [readExponent, hsign, List.cons_append, hfirst, if_true, hvalue,
      leadingDigits_append hrest hends.head_not_digit,
      afterDigits_append hrest hends.head_not_digit]

/-- A falling power of ten is read whatever it is. -/
theorem exists_readExponent_falling (negative : Bool) {significand : Nat}
    (hfits : significand ≤ UInt64.size) {start : Int} (hstart : start ≤ 0) {digits : List UInt8}
    (hdigits : IsDigits digits) :
    ∃ x, ∀ rest, Ends rest →
      readExponent negative significand start (Byte.minus :: (digits ++ rest)) =
        .ok (.fraction x, rest) := by
  obtain ⟨hne, hall⟩ := hdigits
  obtain ⟨first, digits, rfl⟩ := List.exists_cons_of_ne_nil hne
  have hminus (bytes : List UInt8) : splitSign (Byte.minus :: bytes) = (true, bytes) := rfl
  cases hvalue : exponentValue (Byte.digit first) digits with
  | ok value =>
    have hclamp : clampExponent (start - value) ≤ 288 := by
      simp only [clampExponent, greatestExponent]
      omega
    obtain ⟨x, hx⟩ := Binary64.exists_ofParts?_of_le negative hfits hclamp
    refine ⟨x, fun rest hends => ?_⟩
    rw [readExponent_signed negative significand start hminus hall hends, hvalue]
    exact fractionOf_of_some hx rest
  | error unreadDigits =>
    -- an exponent that is too great to be counted leaves nothing but a zero
    refine ⟨{ Binary64.zero with negative := negative }, fun rest hends => ?_⟩
    rw [readExponent_signed negative significand start hminus hall hends, hvalue]
    exact if_neg (by simp)

/-- The digits of an exponent are taken if its value is not too great. -/
theorem exponentValue_digits {chars : List Char} (hdigits : ∀ c ∈ chars, c.isDigit = true)
    {value : Nat} (hfits : Nat.ofDigitChars 10 chars value ≤ greatestExponent) :
    exponentValue value (chars.map fun c => c.toNat.toUInt8) =
      .ok (Nat.ofDigitChars 10 chars value) := by
  induction chars generalizing value with
  | nil => simp [exponentValue]
  | cons c chars ih =>
    rw [Nat.ofDigitChars_cons] at hfits ⊢
    rw [List.map_cons, exponentValue, next_of_isDigit (hdigits c List.mem_cons_self)]
    simp only [if_pos ((le_ofDigitChars _ _).trans hfits)]
    exact ih (fun c hc => hdigits c (List.mem_cons_of_mem _ hc)) hfits

/-- A rising power of ten is read from its digits. -/
theorem readExponent_rising (negative : Bool) (significand : Nat) (start : Int) {n : Nat}
    (hfits : n ≤ greatestExponent) {rest : List UInt8} (hends : Ends rest) :
    readExponent negative significand start (Byte.plus :: (digitsOf n ++ rest)) =
      fractionOf negative significand (clampExponent (start + n)) rest := by
  have hplus (bytes : List UInt8) : splitSign (Byte.plus :: bytes) = (false, bytes) := rfl
  have hdigits : ∀ c ∈ Nat.toDigits 10 n, c.isDigit = true :=
    fun c hc => isDigit_of_mem_toDigits hc
  have hvalue := Nat.ofDigitChars_ten_toDigits (n := n)
  have hall : ∀ b ∈ digitsOf n, Byte.isDigit b = true := fun b hb => isDigit_digitsOf hb
  rw [digitsOf] at hall ⊢
  -- the value of an exponent starts with its first digit, so that is split off
  obtain ⟨first, chars, hchars⟩ := List.exists_cons_of_ne_nil
    (List.length_pos_iff.mp (Nat.length_toDigits_pos (b := 10) (n := n)))
  rw [hchars] at hdigits hvalue hall ⊢
  have hfirst := next_of_isDigit (hdigits first List.mem_cons_self) 0
  rw [Nat.ofDigitChars_cons, ← hfirst, Nat.zero_mul, Nat.zero_add] at hvalue
  rw [List.map_cons] at hall ⊢
  rw [readExponent_signed negative significand start hplus hall hends,
    exponentValue_digits (fun c hc => hdigits c (List.mem_cons_of_mem _ hc)) (hvalue ▸ hfits),
    hvalue]
  rfl

/-! ## Layouts -/

/-- The texts in which a decimal is laid out, apart from its sign: positional below one, as a whole
or with its digits split by the point, and with a falling or a rising power of ten. -/
inductive LaysOut (d : Decimal) : List UInt8 → Prop where
  | small (zeros : Nat) :
      LaysOut d ([Byte.zero] ++
        (Byte.point :: (List.replicate zeros Byte.zero ++ digitsOf d.coefficient)))
  | whole {zeros : Nat} (hlength : (digitsOf d.coefficient).length + zeros ≤ 16)
      (hzero : d.coefficient = 0 → zeros = 0) :
      LaysOut d ((digitsOf d.coefficient ++ List.replicate zeros Byte.zero) ++
        [Byte.point, Byte.zero])
  | split {front back : List UInt8} (hsplit : digitsOf d.coefficient = front ++ back)
      (hfront : front ≠ []) (hback : back ≠ []) (hlength : front.length ≤ 16) :
      LaysOut d (front ++ Byte.point :: back)
  | falling {first : UInt8} {rest : List UInt8} (hsplit : digitsOf d.coefficient = first :: rest)
      (hne : d.coefficient ≠ 0) (n : Nat) :
      LaysOut d (first :: (pointed rest ++ Byte.lowerE :: Byte.minus :: digitsOf n))
  | rising {first : UInt8} {rest : List UInt8} (hsplit : digitsOf d.coefficient = first :: rest)
      (hne : d.coefficient ≠ 0) {n : Nat} (hexponent : d.exponent + rest.length = n) :
      LaysOut d (first :: (pointed rest ++ Byte.lowerE :: Byte.plus :: digitsOf n))

namespace LaysOut

variable {d : Decimal} {body : List UInt8}

/-- What leads the digits of a number other than zero is a whole part. -/
theorem isWhole_of_digitsOf {n : Nat} (hne : n ≠ 0) {front back zeros : List UInt8}
    (hsplit : digitsOf n = front ++ back) (hfront : front ≠ [])
    (hzeros : ∀ b ∈ zeros, Byte.isDigit b = true) : IsWhole (front ++ zeros) := by
  obtain ⟨first, rest, hdigits, hfirst⟩ := digitsOf_front hne
  have hall : ∀ b ∈ front, Byte.isDigit b = true :=
    fun b hb => isDigit_digitsOf (hsplit ▸ List.mem_append_left back hb)
  obtain ⟨head, front, rfl⟩ := List.exists_cons_of_ne_nil hfront
  obtain ⟨hdigit, hdigits'⟩ := List.forall_mem_cons.mp hall
  rw [hdigits, List.cons_append] at hsplit
  refine .digits hdigit ((List.cons.inj hsplit).1 ▸ hfirst) fun b hb => ?_
  rcases List.mem_append.mp hb with hb | hb
  · exact hdigits' b hb
  · exact hzeros b hb

theorem isDigits_zeros (zeros n : Nat) :
    IsDigits (List.replicate zeros Byte.zero ++ digitsOf n) := by
  obtain ⟨first, rest, hdigits, -⟩ := (isWhole_digitsOf n).front
  refine ⟨by simp [hdigits], fun b hb => ?_⟩
  rcases List.mem_append.mp hb with hb | hb
  · rw [List.eq_of_mem_replicate hb]
    decide
  · exact isDigit_digitsOf hb

/-- The whole part of a text without a power of ten. -/
theorem isWhole_zeros {n zeros : Nat} (hzero : n = 0 → zeros = 0) :
    IsWhole (digitsOf n ++ List.replicate zeros Byte.zero) := by
  by_cases hne : n = 0
  · rw [hzero hne, List.replicate_zero, List.append_nil]
    exact isWhole_digitsOf n
  · obtain ⟨first, rest, hdigits, -⟩ := digitsOf_front hne
    refine isWhole_of_digitsOf hne (List.append_nil _).symm (by simp [hdigits]) fun b hb => ?_
    rw [List.eq_of_mem_replicate hb]
    decide

/-- Two parts of the digits of a number are a whole part and a fraction. -/
theorem parts_of_split {n : Nat} {front back : List UInt8} (hsplit : digitsOf n = front ++ back)
    (hfront : front ≠ []) (hback : back ≠ []) : IsWhole front ∧ IsDigits back := by
  have hne : n ≠ 0 := by
    rintro rfl
    have hlength := congrArg List.length hsplit
    have hone : (digitsOf 0).length = 1 := rfl
    rw [hone, List.length_append] at hlength
    have hfront' := List.length_pos_iff.mpr hfront
    have hback' := List.length_pos_iff.mpr hback
    omega
  have hwhole : IsWhole (front ++ []) := isWhole_of_digitsOf hne hsplit hfront (by simp)
  rw [List.append_nil] at hwhole
  exact ⟨hwhole, hback, fun b hb => isDigit_digitsOf (hsplit ▸ List.mem_append_right front hb)⟩

/-- The first digit of a number other than zero is a whole part. -/
theorem parts_of_first {n : Nat} (hne : n ≠ 0) {first : UInt8} {rest : List UInt8}
    (hsplit : digitsOf n = first :: rest) :
    IsWhole [first] ∧ ∀ b ∈ rest, Byte.isDigit b = true := by
  have hwhole : IsWhole ([first] ++ []) := isWhole_of_digitsOf hne hsplit (by simp) (by simp)
  exact ⟨hwhole, fun b hb => isDigit_digitsOf (hsplit ▸ List.mem_cons_of_mem first hb)⟩

theorem isDigits_digitsOf (n : Nat) : IsDigits (digitsOf n) := isDigits_zeros 0 n

/-- A text in which a decimal is laid out is a number, with a sign or without. -/
theorem isNumeral (hlays : LaysOut d body) {sign : List UInt8}
    (hsign : sign = [] ∨ sign = [Byte.minus]) : IsNumeral (sign ++ body) := by
  have hplain {whole digits : List UInt8} (hwhole : IsWhole whole) (hdigits : IsDigits digits) :
      IsNumeral (sign ++ (whole ++ Byte.point :: digits)) := by
    have hnumeral := IsNumeral.of hsign hwhole (.digits hdigits) .none
    rwa [List.append_nil] at hnumeral
  cases hlays with
  | small zeros => exact hplain .zero (isDigits_zeros zeros _)
  | whole _ hzero => exact hplain (isWhole_zeros hzero) ⟨by simp, by simp; decide⟩
  | split hsplit hfront hback _ =>
    obtain ⟨hwhole, hdigits⟩ := parts_of_split hsplit hfront hback
    exact hplain hwhole hdigits
  | falling hsplit hne n =>
    obtain ⟨hwhole, hdigits⟩ := parts_of_first hne hsplit
    exact .of hsign hwhole (isFraction_pointed hdigits)
      (.digits (.inl rfl) (.inr (.inr rfl)) (isDigits_digitsOf n))
  | rising hsplit hne hexponent =>
    obtain ⟨hwhole, hdigits⟩ := parts_of_first hne hsplit
    exact .of hsign hwhole (isFraction_pointed hdigits)
      (.digits (.inl rfl) (.inr (.inl rfl)) (isDigits_digitsOf _))

/-- A text in which a decimal is laid out starts with a digit. -/
theorem front (hlays : LaysOut d body) :
    ∃ first tail, body = first :: tail ∧ Byte.isDigit first = true := by
  have hwhole {whole : List UInt8} (hwhole : IsWhole whole) (rest : List UInt8) :
      ∃ first tail, whole ++ rest = first :: tail ∧ Byte.isDigit first = true := by
    obtain ⟨first, tail, rfl, hfirst⟩ := hwhole.front
    exact ⟨first, tail ++ rest, rfl, hfirst⟩
  cases hlays with
  | small zeros => exact hwhole .zero _
  | whole _ hzero => exact hwhole (isWhole_zeros hzero) _
  | split hsplit hfront hback _ => exact hwhole (parts_of_split hsplit hfront hback).1 _
  | falling hsplit hne n => exact hwhole (parts_of_first hne hsplit).1 _
  | rising hsplit hne hexponent => exact hwhole (parts_of_first hne hsplit).1 _

/-- A text in which a decimal within the format is laid out is read as a fraction. -/
theorem exists_readUnsigned (hlays : LaysOut d body) (hcoefficient : d.coefficient ≤ 10 ^ 17)
    (hexponent : d.exponent ≤ 308) {negative : Bool} {x : Binary64}
    (hx : Binary64.ofParts? negative d.coefficient d.exponent = some x) :
    ∃ y, ∀ rest, Ends rest → readUnsigned negative (body ++ rest) = .ok (.fraction y, rest) := by
  cases hlays with
  | small zeros =>
    exact exists_readUnsigned_plain negative .zero (by decide) (isDigits_zeros zeros _)
  | whole hlength hzero =>
    refine exists_readUnsigned_plain negative (isWhole_zeros hzero) ?_ ⟨by simp, by simp; decide⟩
    rw [List.length_append, List.length_replicate]
    omega
  | split hsplit hfront hback hlength =>
    obtain ⟨hwhole, hdigits⟩ := parts_of_split hsplit hfront hback
    exact exists_readUnsigned_plain negative hwhole (by omega) hdigits
  | @falling first rest hsplit hne n =>
    obtain ⟨hwhole, hdigits⟩ := parts_of_first hne hsplit
    obtain ⟨y, hy⟩ := exists_readExponent_falling negative (absorb_twice_le [first] rest)
      (Int.neg_nonpos_of_nonneg (Int.natCast_nonneg
        (rest.length - (absorb (absorb 0 [first]).1 rest).2.length)))
      (isDigits_digitsOf n)
    refine ⟨y, fun after hends => ?_⟩
    rw [List.cons_append, List.append_assoc, List.cons_append,
      readUnsigned_scientific negative hwhole hdigits]
    exact hy after hends
  | @rising first rest hsplit hne n hn =>
    obtain ⟨hwhole, hdigits⟩ := parts_of_first hne hsplit
    -- all digits of the coefficient are taken, so the parts that are read are those of the decimal
    have hfits : d.coefficient ≤ greatestUnsigned := hcoefficient.trans (by decide)
    have habsorb := absorb_digitsOf hfits
    rw [hsplit, (absorb_first first rest).2] at habsorb
    have hlength : (digitsOf d.coefficient).length ≤ 18 := by
      rw [digitsOf, List.length_map, Nat.length_toDigits_le_iff (by decide) (by decide)]
      exact hcoefficient.trans_lt (by decide)
    rw [hsplit, List.length_cons] at hlength
    have hlimit : 2 ^ 30 ≤ greatestExponent := by decide
    have hclamp : clampExponent (-(rest.length : Int) + n) = d.exponent := by
      rw [clampExponent]
      omega
    refine ⟨x, fun after hends => ?_⟩
    rw [List.cons_append, List.append_assoc, List.cons_append,
      readUnsigned_scientific negative hwhole hdigits, habsorb, List.length_nil, Nat.sub_zero,
      List.cons_append, readExponent_rising _ _ _ (by omega) hends, hclamp]
    exact fractionOf_of_some hx after

end LaysOut

/-! ## Written texts -/

theorem toList_repr (n : Nat) : (Nat.repr n).toList = Nat.toDigits 10 n := by
  rw [Nat.repr_eq_ofList_toDigits, String.toList_ofList]

theorem length_repr (n : Nat) : (Nat.repr n).length = (digitsOf n).length := by
  rw [Nat.repr_eq_ofList_toDigits, String.length_ofList, digitsOf, List.length_map]

theorem encodeUtf8_zeros (zeros : Nat) :
    Text.encodeUtf8 (String.ofList (List.replicate zeros '0')) =
      List.replicate zeros Byte.zero := by
  rw [encodeUtf8_digits fun c hc => List.eq_of_mem_replicate hc ▸ rfl, List.map_replicate]
  rfl

/-- Digits without a power of ten are laid out around the point. -/
theorem laysOut_positional {d : Decimal} (hzero : d.coefficient = 0 → d.exponent = 0)
    {leading : Int} (hleading : leading = d.exponent + (Nat.repr d.coefficient).length - 1)
    (hplain : leading ≤ 15) :
    LaysOut d (Text.encodeUtf8 (numberLayout.positional (Nat.repr d.coefficient) leading)) := by
  have hdot : Text.encodeUtf8 "." = [Byte.point] := by decide +kernel
  have hfront : Text.encodeUtf8 "0." = [Byte.zero, Byte.point] := by decide +kernel
  have hend : Text.encodeUtf8 numberLayout.wholeEnd = [Byte.point, Byte.zero] := by
    decide +kernel
  rw [length_repr] at hleading
  simp only [NumberLayout.positional, length_repr]
  split
  case isTrue hsmall =>
    rw [Text.encodeUtf8_append, Text.encodeUtf8_append, hfront, encodeUtf8_zeros, encodeUtf8_repr]
    exact .small _
  case isFalse hlarge =>
    split
    case isTrue hwhole =>
      rw [Text.encodeUtf8_append, Text.encodeUtf8_append, hend, encodeUtf8_zeros, encodeUtf8_repr]
      refine .whole (by omega) fun hnone => ?_
      have hexponent := hzero hnone
      omega
    case isFalse hsplit =>
      have hchars : digitsOf d.coefficient =
          ((Nat.toDigits 10 d.coefficient).take (leading + 1).toNat).map
              (fun c => c.toNat.toUInt8) ++
            ((Nat.toDigits 10 d.coefficient).drop (leading + 1).toNat).map
              (fun c => c.toNat.toUInt8) := by
        rw [← List.map_append, List.take_append_drop, digitsOf]
      have hlength : (digitsOf d.coefficient).length = (Nat.toDigits 10 d.coefficient).length :=
        List.length_map _
      rw [Text.encodeUtf8_append, Text.encodeUtf8_append, hdot, toList_repr,
        encodeUtf8_digits fun c hc => isDigit_of_mem_toDigits (List.mem_of_mem_take hc),
        encodeUtf8_digits fun c hc => isDigit_of_mem_toDigits (List.mem_of_mem_drop hc),
        List.append_assoc, List.singleton_append]
      refine .split hchars ?_ ?_ ?_
      · rw [← List.length_pos_iff, List.length_map, List.length_take]
        omega
      · rw [← List.length_pos_iff, List.length_map, List.length_drop]
        omega
      · rw [List.length_map, List.length_take]
        omega

/-- Digits with a power of ten are laid out with one before the point. -/
theorem laysOut_scientific {d : Decimal} (hne : d.coefficient ≠ 0) {leading : Int}
    (hleading : leading = d.exponent + (Nat.repr d.coefficient).length - 1) :
    LaysOut d (Text.encodeUtf8 (numberLayout.scientific (Nat.repr d.coefficient) leading)) := by
  have hmark : Text.encodeUtf8 "e" = [Byte.lowerE] := by decide +kernel
  obtain ⟨first, rest, hdigits, -⟩ := toDigits_front hne
  have hall : ∀ c ∈ first :: rest, c.isDigit = true :=
    fun c hc => isDigit_of_mem_toDigits (hdigits ▸ hc)
  have hsplit : digitsOf d.coefficient =
      first.toNat.toUInt8 :: rest.map fun c => c.toNat.toUInt8 := by
    rw [digitsOf, hdigits, List.map_cons]
  have hfront : Text.encodeUtf8 (String.ofList [first]) = [first.toNat.toUInt8] :=
    encodeUtf8_digits fun c hc => hall c (List.mem_singleton.mp hc ▸ List.mem_cons_self)
  have hpoint (tail : List UInt8) : Text.encodeUtf8 (if rest.isEmpty then "" else ".") ++
      (Text.encodeUtf8 (String.ofList rest) ++ tail) =
        pointed (rest.map fun c => c.toNat.toUInt8) ++ tail := by
    rw [encodeUtf8_digits fun c hc => hall c (List.mem_cons_of_mem _ hc)]
    cases rest with
    | nil => rfl
    | cons c rest =>
      have hdot : Text.encodeUtf8 "." = [Byte.point] := by decide +kernel
      simp only [List.isEmpty_cons, Bool.false_eq_true, if_false, hdot, pointed, List.map_cons]
      rfl
  rw [length_repr, hsplit, List.length_cons, List.length_map] at hleading
  simp only [NumberLayout.scientific, toList_repr, hdigits, List.take_succ_cons, List.take_zero,
    List.drop_succ_cons, List.drop_zero, Text.encodeUtf8_append, hfront, hmark, encodeUtf8_repr,
    List.append_assoc, hpoint]
  split
  case isTrue hrising =>
    have hsign : Text.encodeUtf8 numberLayout.risingSign = [Byte.plus] := by decide +kernel
    rw [hsign]
    exact .rising hsplit hne (by rw [List.length_map]; omega)
  case isFalse hfalling =>
    have hsign : Text.encodeUtf8 "-" = [Byte.minus] := by decide +kernel
    rw [hsign]
    exact .falling hsplit hne _

/-- A fraction is written as its shortest decimal is laid out, behind its sign. -/
theorem exists_laysOut (x : Binary64) :
    ∃ body, LaysOut x.shortest body ∧ Text.encodeUtf8 (x.written numberLayout) =
      (if x.negative then [Byte.minus] else []) ++ body := by
  have hsign : Text.encodeUtf8 (if x.negative then "-" else "") =
      if x.negative then [Byte.minus] else [] := by
    cases x.negative <;> decide +kernel
  set leading : Int := x.shortest.exponent + (Nat.repr x.shortest.coefficient).length - 1
    with hleading
  simp only [Binary64.written, Text.encodeUtf8_append, hsign, ← hleading]
  by_cases hplain : numberLayout.leastPlain ≤ leading ∧ leading ≤ numberLayout.greatestPlain
  · rw [if_pos hplain]
    refine ⟨_, laysOut_positional (fun hzero => ?_) hleading hplain.2, rfl⟩
    rw [Binary64.shortest_of_coefficient_eq_zero hzero]
  · rw [if_neg hplain]
    refine ⟨_, laysOut_scientific (fun hzero => hplain ?_) hleading, rfl⟩
    -- zero has one digit, which is written without a power of ten
    rw [hleading, Binary64.shortest_of_coefficient_eq_zero hzero]
    decide

/-- The text of a fraction is a number. -/
theorem isNumeral_fraction (x : Binary64) :
    IsNumeral (Text.encodeUtf8 (x.written numberLayout)) := by
  obtain ⟨body, hlays, htext⟩ := exists_laysOut x
  rw [htext]
  exact hlays.isNumeral (by cases x.negative <;> simp)

/-- The text of a fraction of the format is read as a fraction. -/
theorem exists_isScalar_fraction {x : Binary64} (hx : x.IsBounded) :
    ∃ y, IsScalar (Text.encodeUtf8 (x.written numberLayout)) (.number (.fraction y)) := by
  obtain ⟨body, hlays, htext⟩ := exists_laysOut x
  obtain ⟨z, hz⟩ := Binary64.exists_ofParts?_shortest hx x.negative
  obtain ⟨y, hy⟩ := hlays.exists_readUnsigned x.shortest_coefficient_le
    (Binary64.shortest_exponent_le hx) hz
  refine ⟨y, isScalar_of_isNumeral (isNumeral_fraction x) fun rest hends => ?_⟩
  have hread := hy rest hends
  rw [htext]
  cases hnegative : x.negative with
  | true =>
    rw [hnegative] at hread
    exact hread
  | false =>
    obtain ⟨first, tail, rfl, hfirst⟩ := hlays.front
    rw [hnegative] at hread
    exact (readNumber_of_isDigit hfirst (tail ++ rest)).trans hread

end ChatSteward.Json
