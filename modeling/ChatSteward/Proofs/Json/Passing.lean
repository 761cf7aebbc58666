import ChatSteward.Json.Enclosed
import ChatSteward.Proofs.Json.Grammar

/-!
# Passing over values

Passing over a value ends right behind it, for every text of the grammar. The stack of open
brackets plays no part within the value: it is what was open before, and comes back when the value
has been passed.

## Main definitions

* `Phrase.Passes` — how a phrase is passed over

## Main results

* `skipWithin_append` — passing over a value, and then over what was open around it
* `skipValue_of_isValue` — passing over a value ends right behind it
-/

namespace ChatSteward.Json

/-! ## Blanks and digits -/

theorem dropBlanks_blanks_append {blanks : List UInt8} (hblanks : Blanks blanks)
    (rest : List UInt8) : dropBlanks (blanks ++ rest) = dropBlanks rest :=
  List.dropWhile_append_of_pos hblanks

theorem dropBlanks_cons {b : UInt8} (hsolid : Byte.isBlank b = false) (rest : List UInt8) :
    dropBlanks (b :: rest) = b :: rest := by
  simp [dropBlanks, hsolid]

theorem dropBlanks_blanks_cons {blanks : List UInt8} (hblanks : Blanks blanks) {b : UInt8}
    (hsolid : Byte.isBlank b = false) (rest : List UInt8) :
    dropBlanks (blanks ++ b :: rest) = b :: rest := by
  rw [dropBlanks_blanks_append hblanks, dropBlanks_cons hsolid]

/-- Blanks are dropped once. -/
theorem dropBlanks_dropBlanks (bytes : List UInt8) :
    dropBlanks (dropBlanks bytes) = dropBlanks bytes := by
  induction bytes with
  | nil => rfl
  | cons b bytes ih =>
    by_cases hblank : Byte.isBlank b = true
    · have hdrop : dropBlanks (b :: bytes) = dropBlanks bytes := by simp [dropBlanks, hblank]
      rw [hdrop, ih]
    · rw [dropBlanks_cons (by simpa using hblank), dropBlanks_cons (by simpa using hblank)]

/-- No digit follows a number. -/
theorem Ends.head_not_digit {rest : List UInt8} (hends : Ends rest) :
    ∀ b ∈ rest.head?, Byte.isDigit b = false := by
  intro b hb
  have hstop := hends b hb
  simp only [continuesNumber, Bool.or_eq_false_iff] at hstop
  exact hstop.1.1.1

theorem leadingDigits_append {digits rest : List UInt8}
    (hdigits : ∀ b ∈ digits, Byte.isDigit b = true)
    (hrest : ∀ b ∈ rest.head?, Byte.isDigit b = false) :
    leadingDigits (digits ++ rest) = digits := by
  rw [leadingDigits, List.takeWhile_append_of_pos hdigits]
  cases rest with
  | nil => simp
  | cons b rest => simp [hrest b rfl]

theorem afterDigits_append {digits rest : List UInt8}
    (hdigits : ∀ b ∈ digits, Byte.isDigit b = true)
    (hrest : ∀ b ∈ rest.head?, Byte.isDigit b = false) :
    afterDigits (digits ++ rest) = rest := by
  rw [afterDigits, List.dropWhile_append_of_pos hdigits]
  cases rest with
  | nil => rfl
  | cons b rest => simp [hrest b rfl]

/-! ## Strings -/

@[simp] theorem skipText_quote (rest : List UInt8) : skipText (Byte.quote :: rest) = .ok rest :=
  skipText.eq_2 rest

theorem skipText_escape {rest rest' : List UInt8} (hescape : skipEscape rest = .ok rest') :
    skipText (Byte.backslash :: rest) = skipText rest' := by
  refine (skipText.eq_3 rest).trans ?_
  split
  case h_1 herror =>
    rw [hescape] at herror
    cases herror
  case h_2 hok =>
    rw [hescape] at hok
    cases hok
    rfl

theorem skipText_plain {b : UInt8} (hcontrol : ¬ b < 0x20) (hquote : b ≠ Byte.quote)
    (hbackslash : b ≠ Byte.backslash) (rest : List UInt8) :
    skipText (b :: rest) = skipText rest :=
  (skipText.eq_4 b rest hquote hbackslash).trans (if_neg hcontrol)

theorem skipEscape_letter {b byte : UInt8} (hletter : letterEscape? b = some byte)
    (rest : List UInt8) : skipEscape (b :: rest) = .ok rest := by
  rw [skipEscape, hletter]

theorem skipEscape_unit {a b c d : UInt8} {n : Nat} (hunit : hexValue? a b c d = some n)
    (rest : List UInt8) : skipEscape (Byte.letterU :: a :: b :: c :: d :: rest) = .ok rest := by
  have hletter : letterEscape? Byte.letterU = none := by decide
  rw [skipEscape, hletter]
  simp [readHex, hunit]

/-- Passing over a string ends behind its closing quote. -/
theorem skipText_of_isContent {content : List UInt8} (hcontent : IsContent content)
    (rest : List UInt8) : skipText (content ++ rest) = .ok rest := by
  induction hcontent with
  | close => exact skipText_quote rest
  | plain hcontrol hquote hbackslash _ ih =>
    rw [List.cons_append, skipText_plain hcontrol hquote hbackslash, ih]
  | letter hletter _ ih =>
    rw [List.cons_append, List.cons_append, skipText_escape (skipEscape_letter hletter _), ih]
  | unit hunit _ ih => exact (skipText_escape (skipEscape_unit hunit _)).trans ih

/-! ## Numbers -/

theorem splitSign_append {sign digits : List UInt8}
    (hsign : sign = [] ∨ sign = [Byte.plus] ∨ sign = [Byte.minus]) (hdigits : IsDigits digits)
    (rest : List UInt8) : (splitSign (sign ++ (digits ++ rest))).2 = digits ++ rest := by
  rcases hsign with rfl | rfl | rfl
  · -- a digit is neither of the signs, so nothing is split off
    obtain ⟨hne, hall⟩ := hdigits
    obtain ⟨first, digits, rfl⟩ := List.exists_cons_of_ne_nil hne
    have hfirst := hall first List.mem_cons_self
    rw [List.nil_append, List.cons_append, splitSign.eq_def]
    split
    case h_1 heq =>
      obtain ⟨rfl, -⟩ := List.cons.inj heq
      exact absurd hfirst (by decide)
    case h_2 heq =>
      obtain ⟨rfl, -⟩ := List.cons.inj heq
      exact absurd hfirst (by decide)
    case h_3 => rfl
  · rfl
  · rfl

theorem skipExponent_append {sign digits rest : List UInt8}
    (hsign : sign = [] ∨ sign = [Byte.plus] ∨ sign = [Byte.minus]) (hdigits : IsDigits digits)
    (hends : Ends rest) : skipExponent (sign ++ (digits ++ rest)) = .ok rest := by
  obtain ⟨hne, hall⟩ := hdigits
  rw [skipExponent, splitSign_append hsign ⟨hne, hall⟩]
  obtain ⟨first, digits, rfl⟩ := List.exists_cons_of_ne_nil hne
  rw [List.cons_append]
  simp only [hall first List.mem_cons_self, if_true]
  rw [afterDigits_append (fun b hb => hall b (List.mem_cons_of_mem _ hb)) hends.head_not_digit]

/-- Neither a point nor the mark of an exponent follows a number. -/
theorem Ends.ne_marks {b : UInt8} {rest : List UInt8} (hends : Ends (b :: rest)) :
    b ≠ Byte.point ∧ b ≠ Byte.lowerE ∧ b ≠ Byte.upperE := by
  have hstop := hends b rfl
  simp only [continuesNumber, Bool.or_eq_false_iff, beq_eq_false_iff_ne] at hstop
  obtain ⟨⟨⟨-, hpoint⟩, hlower⟩, hupper⟩ := hstop
  exact ⟨hpoint, hlower, hupper⟩

/-- What ends a number has neither a fraction nor an exponent. -/
theorem skipAfterWhole_of_ends {rest : List UInt8} (hends : Ends rest) :
    skipAfterWhole rest = .ok rest := by
  cases rest with
  | nil => rfl
  | cons b rest =>
    obtain ⟨hpoint, hlower, hupper⟩ := hends.ne_marks
    rw [skipAfterWhole.eq_def]
    split
    case h_1 heq => exact absurd (List.cons.inj heq).1 hpoint
    case h_2 heq => exact absurd (List.cons.inj heq).1 hlower
    case h_3 heq => exact absurd (List.cons.inj heq).1 hupper
    case h_4 => rfl

/-- A number whose fraction has been passed goes on with its exponent, if it has one. -/
theorem skipAfterWhole_exponent {exponent rest : List UInt8} (hexponent : IsExponent exponent)
    (hends : Ends rest) : skipAfterWhole (exponent ++ rest) = .ok rest := by
  cases hexponent with
  | none => exact skipAfterWhole_of_ends hends
  | digits hmark hsign hdigits =>
    rw [List.cons_append, List.append_assoc]
    rcases hmark with rfl | rfl
    · exact skipExponent_append hsign hdigits hends
    · exact skipExponent_append hsign hdigits hends

/-- No digit starts an exponent or follows a number. -/
theorem IsExponent.head_not_digit {exponent rest : List UInt8} (hexponent : IsExponent exponent)
    (hends : Ends rest) : ∀ b ∈ (exponent ++ rest).head?, Byte.isDigit b = false := by
  cases hexponent with
  | none => exact hends.head_not_digit
  | digits hmark _ _ =>
    intro b hb
    obtain rfl := Option.some.inj hb
    rcases hmark with rfl | rfl <;> decide

theorem skipAfterWhole_point (tail : List UInt8) :
    skipAfterWhole (Byte.point :: tail) =
      if (leadingDigits tail).isEmpty then stopAhead .invalidNumber (afterDigits tail)
      else
        match afterDigits tail with
        | Byte.lowerE :: rest | Byte.upperE :: rest => skipExponent rest
        | rest => .ok rest := rfl

theorem skipAfterWhole_fraction {fraction exponent rest : List UInt8}
    (hfraction : IsFraction fraction) (hexponent : IsExponent exponent) (hends : Ends rest) :
    skipAfterWhole (fraction ++ (exponent ++ rest)) = .ok rest := by
  cases hfraction with
  | none => exact skipAfterWhole_exponent hexponent hends
  | @digits digits hdigits =>
    have hrest := hexponent.head_not_digit hends
    have hsome : ¬ (leadingDigits (digits ++ (exponent ++ rest))).isEmpty = true := by
      rw [leadingDigits_append hdigits.2 hrest]
      simpa using hdigits.1
    rw [List.cons_append, skipAfterWhole_point, if_neg hsome, afterDigits_append hdigits.2 hrest]
    -- the digits are all used up, and behind them stands the exponent or the end
    cases hexponent with
    | none =>
      rw [List.nil_append]
      split
      case h_1 => exact absurd (hends _ rfl) (by decide)
      case h_2 => exact absurd (hends _ rfl) (by decide)
      case h_3 => rfl
    | digits hmark hsign hdigits =>
      rw [List.cons_append, List.append_assoc]
      rcases hmark with rfl | rfl
      · exact skipExponent_append hsign hdigits hends
      · exact skipExponent_append hsign hdigits hends

/-- No digit starts a fraction or an exponent, or follows a number. -/
theorem IsFraction.head_not_digit {fraction exponent rest : List UInt8}
    (hfraction : IsFraction fraction) (hexponent : IsExponent exponent) (hends : Ends rest) :
    ∀ b ∈ (fraction ++ (exponent ++ rest)).head?, Byte.isDigit b = false := by
  cases hfraction with
  | none => exact hexponent.head_not_digit hends
  | digits _ =>
    intro b hb
    obtain rfl := Option.some.inj hb
    decide

theorem skipUnsigned_numeral {whole fraction exponent rest : List UInt8} (hwhole : IsWhole whole)
    (hfraction : IsFraction fraction) (hexponent : IsExponent exponent) (hends : Ends rest) :
    skipUnsigned (whole ++ (fraction ++ (exponent ++ rest))) = .ok rest := by
  have hrest := hfraction.head_not_digit hexponent hends
  have hafter := skipAfterWhole_fraction hfraction hexponent hends
  cases hwhole with
  | zero =>
    -- a zero that leads stands alone, and what follows it starts with no digit
    have hnone : leadingDigits ([] ++ (fraction ++ (exponent ++ rest))) = [] :=
      leadingDigits_append (by simp) hrest
    rw [List.nil_append] at hnone
    rw [List.cons_append, List.nil_append, skipUnsigned, hnone]
    simpa using hafter
  | digits hfirst hzero hdigits =>
    rw [List.cons_append, skipUnsigned, if_neg hzero, if_pos hfirst,
      afterDigits_append hdigits hrest, hafter]

/-- Passing over a number ends behind it. -/
theorem skipNumber_of_isNumeral {text rest : List UInt8} (hnumeral : IsNumeral text)
    (hends : Ends rest) : skipNumber (text ++ rest) = .ok rest := by
  obtain ⟨hsign, hwhole, hfraction, hexponent⟩ := hnumeral
  have hunsigned := skipUnsigned_numeral hwhole hfraction hexponent hends
  simp only [List.append_assoc]
  rcases hsign with rfl | rfl
  · obtain ⟨first, digits, rfl, hfirst⟩ := hwhole.front
    rw [List.nil_append, skipNumber.eq_def]
    -- a number without a sign starts with a digit, which is no minus
    split
    case h_1 heq =>
      rw [(List.cons.inj heq).1] at hfirst
      exact absurd hfirst (by decide)
    case h_2 => exact hunsigned
  · exact hunsigned

/-! ## Equations -/

theorem skipWithin_eq (around : List Enclosure) (bytes : List UInt8) :
    skipWithin around bytes =
      match dropBlanks bytes with
      | [] => stopAhead .endInValue []
      | first :: rest =>
        if first = Byte.openBracket then skipOpened .array around rest
        else if first = Byte.openBrace then skipOpened .object around rest
        else (skipScalar first rest).bind (skipAfter around) := by
  rw [skipWithin.eq_def]
  split
  case h_1 hfront => rw [hfront]
  case h_2 hfront =>
    rw [hfront]
    rfl
  case h_3 hfront =>
    rw [hfront]
    rfl
  case h_4 hbracket hbrace hfront =>
    rw [hfront]
    simp only [show ¬ _ = Byte.openBracket from hbracket, show ¬ _ = Byte.openBrace from hbrace,
      if_false]
    split
    case h_1 hscalar => rw [hscalar]; rfl
    case h_2 hscalar => rw [hscalar]; rfl

theorem skipOpened_eq (enclosure : Enclosure) (around : List Enclosure) (bytes : List UInt8) :
    skipOpened enclosure around bytes =
      match dropBlanks bytes with
      | [] => stopAhead enclosure.endInside []
      | b :: rest =>
        if b = enclosure.closing then skipAfter around rest
        else skipMember enclosure around (b :: rest) := by
  rw [skipOpened.eq_def]
  split
  case h_1 hfront => rw [hfront]
  case h_2 hfront => rw [hfront]

@[simp] theorem skipAfter_nil (bytes : List UInt8) : skipAfter [] bytes = .ok bytes := by
  rw [skipAfter.eq_def]

theorem skipAfter_cons (enclosure : Enclosure) (outer : List Enclosure) (bytes : List UInt8) :
    skipAfter (enclosure :: outer) bytes =
      match dropBlanks bytes with
      | [] => stopAhead enclosure.endInside []
      | b :: rest =>
        if b = Byte.comma then skipMember enclosure outer rest
        else if b = enclosure.closing then skipAfter outer rest
        else stopAhead enclosure.expectedEnd (b :: rest) := by
  rw [skipAfter.eq_def]
  simp only
  split
  case h_1 hfront => rw [hfront]
  case h_2 hfront => rw [hfront]

@[simp] theorem skipMember_array (around : List Enclosure) (bytes : List UInt8) :
    skipMember .array around bytes = skipWithin (.array :: around) bytes := by
  rw [skipMember.eq_def]

theorem skipMember_object (around : List Enclosure) (bytes : List UInt8) :
    skipMember .object around bytes = (skipKey bytes).bind (skipWithin (.object :: around)) := by
  rw [skipMember.eq_def]
  simp only
  split
  case h_1 hkey =>
    rw [hkey]
    rfl
  case h_2 hkey =>
    rw [hkey]
    rfl

/-! ## What is open around a value -/

mutual

/-- Passing over a value and what is open around it is passing over what is open nearest and then
over the rest. -/
theorem skipWithin_append (nearer farther : List Enclosure) (bytes : List UInt8) :
    skipWithin (nearer ++ farther) bytes =
      (skipWithin nearer bytes).bind (skipAfter farther) := by
  rw [skipWithin_eq, skipWithin_eq nearer]
  -- both sides look at the same byte and differ in what is open around it alone
  cases hfront : dropBlanks bytes with
  | nil => rfl
  | cons first rest =>
    have hlength := length_lt_of_dropBlanks hfront
    simp only
    split
    · exact skipOpened_append .array nearer farther rest
    · split
      · exact skipOpened_append .object nearer farther rest
      · cases hscalar : skipScalar first rest with
        | error stop => rfl
        | ok rest' =>
          have hscalarLength := skipScalar_shrinks hscalar
          exact skipAfter_append nearer farther rest'
termination_by 4 * bytes.length
decreasing_by all_goals omega

theorem skipOpened_append (enclosure : Enclosure) (nearer farther : List Enclosure)
    (bytes : List UInt8) :
    skipOpened enclosure (nearer ++ farther) bytes =
      (skipOpened enclosure nearer bytes).bind (skipAfter farther) := by
  rw [skipOpened_eq, skipOpened_eq enclosure nearer]
  cases hfront : dropBlanks bytes with
  | nil => rfl
  | cons b rest =>
    have hlength := length_lt_of_dropBlanks hfront
    simp only
    split
    · exact skipAfter_append nearer farther rest
    · exact skipMember_append enclosure nearer farther (b :: rest)
termination_by 4 * bytes.length + 2
decreasing_by
  · rw [List.length_cons]
    omega
  · omega

theorem skipAfter_append (nearer farther : List Enclosure) (bytes : List UInt8) :
    skipAfter (nearer ++ farther) bytes =
      (skipAfter nearer bytes).bind (skipAfter farther) := by
  cases nearer with
  | nil =>
    rw [skipAfter_nil]
    rfl
  | cons enclosure nearer =>
    rw [List.cons_append, skipAfter_cons, skipAfter_cons enclosure nearer]
    cases hfront : dropBlanks bytes with
    | nil => rfl
    | cons b rest =>
      have hlength := length_lt_of_dropBlanks hfront
      simp only
      split
      · exact skipMember_append enclosure nearer farther rest
      · split
        · exact skipAfter_append nearer farther rest
        · rfl
termination_by 4 * bytes.length + 2
decreasing_by all_goals omega

theorem skipMember_append (enclosure : Enclosure) (nearer farther : List Enclosure)
    (bytes : List UInt8) :
    skipMember enclosure (nearer ++ farther) bytes =
      (skipMember enclosure nearer bytes).bind (skipAfter farther) := by
  cases enclosure with
  | array =>
    rw [skipMember_array, skipMember_array]
    exact skipWithin_append (.array :: nearer) farther bytes
  | object =>
    rw [skipMember_object, skipMember_object]
    cases hkey : skipKey bytes with
    | error stop => rfl
    | ok rest =>
      have hkeyLength := skipKey_shrinks hkey
      exact skipWithin_append (.object :: nearer) farther rest
termination_by 4 * bytes.length + 1
decreasing_by all_goals omega

end

/-! ## Scalars -/

theorem skipScalar_of_numeral {first : UInt8} {rest after : List UInt8}
    (hnumeral : IsNumeral (first :: rest)) (hends : Ends after) :
    skipScalar first (rest ++ after) = .ok after := by
  obtain ⟨first', rest', heq, hfirst⟩ := hnumeral.front
  obtain ⟨rfl, rfl⟩ := List.cons.inj heq
  -- a minus or a digit starts none of the words and no string
  have hword {b : UInt8} (hb : ¬ (b = Byte.minus ∨ Byte.isDigit b = true)) : first ≠ b := by
    rintro rfl
    exact hb hfirst
  rw [skipScalar, if_neg (hword (by decide)), if_neg (hword (by decide)),
    if_neg (hword (by decide)), if_neg (hword (by decide)), if_pos hfirst]
  exact skipNumber_of_isNumeral hnumeral hends

@[simp] theorem readWord_append (word rest : List UInt8) :
    readWord word (word ++ rest) = .ok rest := by
  induction word with
  | nil => rfl
  | cons b word ih => rw [List.cons_append, readWord, if_pos rfl, ih]

/-- A value that neither a bracket nor a brace starts is a scalar and is passed over as one. -/
theorem skipScalar_of_isValue {first : UInt8} {rest after : List UInt8}
    (hvalue : IsValue (first :: rest)) (hbracket : first ≠ Byte.openBracket)
    (hbrace : first ≠ Byte.openBrace) (hends : Ends after) :
    skipScalar first (rest ++ after) = .ok after := by
  cases hvalue with
  | word hword =>
    simp only [List.mem_cons, List.not_mem_nil, or_false, nullText, trueText, falseText,
      List.cons.injEq] at hword
    rcases hword with ⟨rfl, rfl⟩ | ⟨rfl, rfl⟩ | ⟨rfl, rfl⟩
    all_goals exact readWord_append _ after
  | numeral hnumeral => exact skipScalar_of_numeral hnumeral hends
  | string hcontent => exact skipText_of_isContent hcontent after
  | emptyArray | array => exact absurd rfl hbracket
  | emptyObject | object => exact absurd rfl hbrace

/-! ## Values -/

/-- What a phrase does to whoever passes over it: a value is passed over within what is open
around it, items and members are passed over with the bracket that they end with. -/
def Phrase.Passes : Phrase → List UInt8 → Prop
  | .value, text => ∀ around before rest, Blanks before → Ends rest →
      skipWithin around (before ++ (text ++ rest)) = skipAfter around rest
  | .items, text => ∀ around rest,
      skipOpened .array around (text ++ rest) = skipAfter around rest ∧
        skipMember .array around (text ++ rest) = skipAfter around rest
  | .members, text => ∀ around rest,
      skipOpened .object around (text ++ rest) = skipAfter around rest ∧
        skipMember .object around (text ++ rest) = skipAfter around rest

theorem readColon_blanks {blanks : List UInt8} (hblanks : Blanks blanks) (rest : List UInt8) :
    readColon (blanks ++ Byte.colon :: rest) = .ok rest := by
  rw [readColon, dropBlanks_blanks_cons hblanks (by decide)]
  rfl

/-- A key is a string with a colon behind it. -/
theorem skipKey_quote {bytes rest : List UInt8} (hfront : dropBlanks bytes = Byte.quote :: rest) :
    skipKey bytes = (skipText rest).bind readColon := by
  unfold skipKey
  rw [hfront]
  split
  case h_1 hnil => cases hnil
  case h_2 tail heq =>
    obtain rfl : rest = tail := (List.cons.inj heq).2
    cases skipText rest <;> rfl
  case h_3 hother => exact absurd rfl (hother _)

theorem skipKey_label {content label : List UInt8} (hcontent : IsContent content)
    (hlabel : IsLabel content label) (rest : List UInt8) : skipKey (label ++ rest) = .ok rest := by
  obtain ⟨before, after, hbefore, hafter, rfl⟩ := hlabel
  simp only [List.append_assoc, List.cons_append, List.nil_append]
  rw [skipKey_quote (dropBlanks_blanks_cons hbefore (by decide) _),
    skipText_of_isContent hcontent]
  exact readColon_blanks hafter rest

/-- Blanks in front of an item or a member do not matter. -/
theorem skipMember_dropBlanks (enclosure : Enclosure) (around : List Enclosure)
    (bytes : List UInt8) :
    skipMember enclosure around (dropBlanks bytes) = skipMember enclosure around bytes := by
  cases enclosure with
  | array =>
    rw [skipMember_array, skipMember_array, skipWithin_eq, skipWithin_eq _ bytes,
      dropBlanks_dropBlanks]
  | object =>
    have hkey : skipKey (dropBlanks bytes) = skipKey bytes := by
      rw [skipKey, skipKey, dropBlanks_dropBlanks]
    rw [skipMember_object, skipMember_object, hkey]

/-- An enclosure goes on with a member unless it is closed. -/
theorem skipOpened_of_member {enclosure : Enclosure} {bytes rest : List UInt8} {b : UInt8}
    (hfront : dropBlanks bytes = b :: rest) (hopen : b ≠ enclosure.closing)
    (around : List Enclosure) :
    skipOpened enclosure around bytes = skipMember enclosure around bytes := by
  rw [skipOpened_eq, hfront]
  simp only [if_neg hopen]
  rw [← hfront, skipMember_dropBlanks]

theorem skipOpened_closing {enclosure : Enclosure} {bytes rest : List UInt8}
    (hfront : dropBlanks bytes = enclosure.closing :: rest) (around : List Enclosure) :
    skipOpened enclosure around bytes = skipAfter around rest := by
  rw [skipOpened_eq, hfront]
  simp

/-- An enclosure starts where a value with blanks around it does. -/
theorem Padded.front {value padded : List UInt8} (hpadded : Padded value padded)
    (hvalue : IsValue value) (rest : List UInt8) :
    ∃ first tail, dropBlanks (padded ++ rest) = first :: tail ∧ StartsValue first := by
  obtain ⟨before, after, hbefore, -, rfl⟩ := hpadded
  obtain ⟨first, tail, rfl, hfirst⟩ := hvalue.front
  refine ⟨first, tail ++ (after ++ rest), ?_, hfirst⟩
  simp only [List.append_assoc, List.cons_append]
  exact dropBlanks_blanks_cons hbefore hfirst.1 _

theorem IsLabel.front {content label : List UInt8} (hlabel : IsLabel content label)
    (rest : List UInt8) : ∃ tail, dropBlanks (label ++ rest) = Byte.quote :: tail := by
  obtain ⟨before, after, hbefore, -, rfl⟩ := hlabel
  simp only [List.append_assoc, List.cons_append]
  exact ⟨_, dropBlanks_blanks_cons hbefore (by decide) _⟩

theorem ends_closing (enclosure : Enclosure) (rest : List UInt8) :
    Ends (enclosure.closing :: rest) := by
  cases enclosure with
  | array => exact ends_closeBracket rest
  | object => exact ends_closeBrace rest

/-- Behind the last value of an enclosure stands its closing bracket. -/
theorem skipWithin_last {value padded : List UInt8} (hpasses : Phrase.value.Passes value)
    (hpadded : Padded value padded) (enclosure : Enclosure) (around : List Enclosure)
    (rest : List UInt8) :
    skipWithin (enclosure :: around) (padded ++ enclosure.closing :: rest) =
      skipAfter around rest := by
  obtain ⟨before, after, hbefore, hafter, rfl⟩ := hpadded
  have hends := Ends.blanks_append hafter (ends_closing enclosure rest)
  have hclosing : dropBlanks (after ++ enclosure.closing :: rest) = enclosure.closing :: rest :=
    dropBlanks_blanks_cons hafter (by cases enclosure <;> decide) rest
  rw [List.append_assoc, List.append_assoc, hpasses _ _ _ hbefore hends, skipAfter_cons, hclosing]
  cases enclosure <;> rfl

/-- Behind any other value of an enclosure stands a comma. -/
theorem skipWithin_next {value padded : List UInt8} (hpasses : Phrase.value.Passes value)
    (hpadded : Padded value padded) (enclosure : Enclosure) (around : List Enclosure)
    (rest : List UInt8) :
    skipWithin (enclosure :: around) (padded ++ Byte.comma :: rest) =
      skipMember enclosure around rest := by
  obtain ⟨before, after, hbefore, hafter, rfl⟩ := hpadded
  have hends := Ends.blanks_append hafter (ends_comma rest)
  have hcomma : dropBlanks (after ++ Byte.comma :: rest) = Byte.comma :: rest :=
    dropBlanks_blanks_cons hafter (by decide) rest
  rw [List.append_assoc, List.append_assoc, hpasses _ _ _ hbefore hends, skipAfter_cons, hcomma]
  rfl

theorem passes_of_scalar {first : UInt8} {rest : List UInt8} (hvalue : IsValue (first :: rest))
    (hbracket : first ≠ Byte.openBracket) (hbrace : first ≠ Byte.openBrace) :
    Phrase.value.Passes (first :: rest) := by
  intro around before after hbefore hends
  obtain ⟨_, _, hfront, hsolid, -⟩ := hvalue.front
  obtain ⟨rfl, rfl⟩ := List.cons.inj hfront
  rw [List.cons_append, skipWithin_eq, dropBlanks_blanks_cons hbefore hsolid]
  simp only [if_neg hbracket, if_neg hbrace, skipScalar_of_isValue hvalue hbracket hbrace hends]
  rfl

/-- The byte that opens an enclosure. -/
def Enclosure.opening : Enclosure → UInt8
  | .array => Byte.openBracket
  | .object => Byte.openBrace

theorem skipWithin_opening (enclosure : Enclosure) {bytes rest : List UInt8}
    (hfront : dropBlanks bytes = enclosure.opening :: rest) (around : List Enclosure) :
    skipWithin around bytes = skipOpened enclosure around rest := by
  rw [skipWithin_eq, hfront]
  cases enclosure <;> rfl

theorem passes_of_opened (enclosure : Enclosure) {text : List UInt8}
    (hopened : ∀ around rest,
      skipOpened enclosure around (text ++ rest) = skipAfter around rest) :
    Phrase.value.Passes (enclosure.opening :: text) := by
  intro around before after hbefore _
  have hsolid : Byte.isBlank enclosure.opening = false := by cases enclosure <;> decide
  rw [List.cons_append, skipWithin_opening enclosure (dropBlanks_blanks_cons hbefore hsolid _),
    hopened]

/-- What is passed over as a member is passed over behind the opening bracket too. -/
theorem passes_of_member (enclosure : Enclosure) {around : List Enclosure}
    {bytes tail rest : List UInt8} {first : UInt8} (hfront : dropBlanks bytes = first :: tail)
    (hopen : first ≠ enclosure.closing)
    (hmember : skipMember enclosure around bytes = skipAfter around rest) :
    skipOpened enclosure around bytes = skipAfter around rest ∧
      skipMember enclosure around bytes = skipAfter around rest :=
  ⟨(skipOpened_of_member hfront hopen around).trans hmember, hmember⟩

/-- Every phrase of the grammar is passed over to its end. -/
theorem Derives.passes {phrase : Phrase} {text : List UInt8} (hderives : Derives phrase text) :
    phrase.Passes text := by
  -- induction on the derivation: the last item or member ends at the bracket, every other one at
  -- a comma, behind which the others are passed over
  induction hderives with
  | word hword =>
    have hvalue := Derives.word hword
    simp only [List.mem_cons, List.not_mem_nil, or_false] at hword
    rcases hword with rfl | rfl | rfl
    all_goals exact passes_of_scalar hvalue (by decide) (by decide)
  | numeral hnumeral =>
    obtain ⟨first, rest, rfl, hfirst⟩ := hnumeral.front
    refine passes_of_scalar (.numeral hnumeral) ?_ ?_
    all_goals
      rintro rfl
      exact absurd hfirst (by decide)
  | string hcontent => exact passes_of_scalar (.string hcontent) (by decide) (by decide)
  | emptyArray hblanks =>
    apply passes_of_opened .array
    intro around rest
    rw [List.append_assoc]
    exact skipOpened_closing (dropBlanks_blanks_cons hblanks (by decide) rest) around
  | array _ ih => exact passes_of_opened .array fun around rest => (ih around rest).1
  | emptyObject hblanks =>
    apply passes_of_opened .object
    intro around rest
    rw [List.append_assoc]
    exact skipOpened_closing (dropBlanks_blanks_cons hblanks (by decide) rest) around
  | object _ ih =>
    exact passes_of_opened .object fun around rest => (ih around rest).1
  | lastItem hvalue hpadded ih =>
    intro around rest
    rw [List.append_assoc]
    obtain ⟨first, tail, hfront, -, hopen, -⟩ := hpadded.front hvalue ([Byte.closeBracket] ++ rest)
    apply passes_of_member .array hfront hopen
    rw [skipMember_array]
    exact skipWithin_last ih hpadded .array around rest
  | item hvalue hpadded _ ih ihrest =>
    intro around rest
    rw [List.append_assoc]
    obtain ⟨first, tail, hfront, -, hopen, -⟩ := hpadded.front hvalue (Byte.comma :: _ ++ rest)
    apply passes_of_member .array hfront hopen
    rw [skipMember_array, List.cons_append, skipWithin_next ih hpadded]
    exact (ihrest around rest).2
  | lastMember hcontent hlabel hvalue hpadded ih =>
    intro around rest
    rw [List.append_assoc]
    obtain ⟨tail, hfront⟩ := hlabel.front (_ ++ rest)
    apply passes_of_member .object hfront (by decide)
    rw [skipMember_object, skipKey_label hcontent hlabel, List.append_assoc]
    exact skipWithin_last ih hpadded .object around rest
  | member hcontent hlabel hvalue hpadded _ ih ihrest =>
    intro around rest
    rw [List.append_assoc]
    obtain ⟨tail, hfront⟩ := hlabel.front (_ ++ rest)
    apply passes_of_member .object hfront (by decide)
    rw [skipMember_object, skipKey_label hcontent hlabel, List.append_assoc]
    exact (skipWithin_next ih hpadded .object around _).trans (ihrest around rest).2

/-- Passing over a value, with blanks in front of it, ends right behind it. -/
theorem skipValue_of_isValue {before text rest : List UInt8} (hvalue : IsValue text)
    (hbefore : Blanks before) (hends : Ends rest) :
    skipValue (before ++ (text ++ rest)) = .ok rest := by
  rw [skipValue, Derives.passes hvalue [] before rest hbefore hends, skipAfter_nil]

end ChatSteward.Json
