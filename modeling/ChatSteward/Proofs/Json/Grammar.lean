import ChatSteward.Json.Skip

/-!
# The grammar of JSON text

What a JSON text is, apart from any reader of it. Texts are bytes. A value is told by its text
alone; what the readers make of it is a matter of their own. An object at the top is told with its
members, the keys as strings and the values as texts, since decoding a record turns on them.

A number has no end of its own, so a text that may follow a value must not go on with what a
number could hold.

## Main definitions

* `Blanks`, `Padded` — blanks, and a text with blanks around it
* `Ends` — what may follow a value
* `IsContent`, `Spells` — the text of a string after its opening quote, without and with the
  string that it stands for
* `IsNumeral` — the text of a number
* `IsValue` — the text of a value
* `IsObject`, `IsArray` — the text of an object with its members, and of an array with its items

## Main results

* `IsValue.front` — the first byte of a value is no blank and ends nothing
-/

namespace ChatSteward.Json

/-! ## Blanks -/

/-- Whether some bytes are all blank. -/
def Blanks (bytes : List UInt8) : Prop := ∀ b ∈ bytes, Byte.isBlank b = true

/-- Whether a text is another one with blanks around it. -/
def Padded (text padded : List UInt8) : Prop :=
  ∃ before after, Blanks before ∧ Blanks after ∧ padded = before ++ (text ++ after)

/-- Whether a number could go on with a byte. -/
def continuesNumber (b : UInt8) : Bool :=
  Byte.isDigit b || b == Byte.point || b == Byte.lowerE || b == Byte.upperE

/-- Whether some bytes may follow a value: a number does not go on with them. -/
def Ends (rest : List UInt8) : Prop := ∀ b ∈ rest.head?, continuesNumber b = false

theorem blanks_nil : Blanks [] := by simp [Blanks]

theorem padded_self (text : List UInt8) : Padded text text :=
  ⟨[], [], blanks_nil, blanks_nil, by simp⟩

theorem continuesNumber_of_isBlank {b : UInt8} (hblank : Byte.isBlank b = true) :
    continuesNumber b = false := by
  simp only [Byte.isBlank, Bool.or_eq_true, beq_iff_eq] at hblank
  rcases hblank with ((rfl | rfl) | rfl) | rfl <;> decide

/-- Blanks end a number as well as what follows them. -/
theorem Ends.blanks_append {blanks rest : List UInt8} (hblanks : Blanks blanks)
    (hends : Ends rest) : Ends (blanks ++ rest) := by
  cases blanks with
  | nil => exact hends
  | cons b blanks =>
    intro first hfirst
    obtain rfl := Option.some.inj hfirst
    exact continuesNumber_of_isBlank (hblanks _ List.mem_cons_self)

theorem ends_nil : Ends [] := by simp [Ends]

theorem ends_comma (rest : List UInt8) : Ends (Byte.comma :: rest) := by simp [Ends]; decide

theorem ends_closeBracket (rest : List UInt8) : Ends (Byte.closeBracket :: rest) := by
  simp [Ends]; decide

theorem ends_closeBrace (rest : List UInt8) : Ends (Byte.closeBrace :: rest) := by
  simp [Ends]; decide

/-! ## Strings -/

/-- The text of a string from behind its opening quote to its closing one. -/
inductive IsContent : List UInt8 → Prop where
  | close : IsContent [Byte.quote]
  | plain {b : UInt8} {rest : List UInt8} (hcontrol : ¬ b < 0x20) (hquote : b ≠ Byte.quote)
      (hbackslash : b ≠ Byte.backslash) (hrest : IsContent rest) : IsContent (b :: rest)
  | letter {b byte : UInt8} {rest : List UInt8} (hletter : letterEscape? b = some byte)
      (hrest : IsContent rest) : IsContent (Byte.backslash :: b :: rest)
  | unit {a b c d : UInt8} {n : Nat} {rest : List UInt8} (hunit : hexValue? a b c d = some n)
      (hrest : IsContent rest) :
      IsContent (Byte.backslash :: Byte.letterU :: a :: b :: c :: d :: rest)

/-- The text of a string from behind its opening quote to its closing one, with the characters
that it stands for. -/
inductive Spells : List UInt8 → List Char → Prop where
  | close : Spells [Byte.quote] []
  | plain {c : Char} {rest : List UInt8} {chars : List Char} (hcontrol : 0x20 ≤ c.toNat)
      (hquote : c ≠ '"') (hbackslash : c ≠ '\\') (hrest : Spells rest chars) :
      Spells (String.utf8EncodeChar c ++ rest) (c :: chars)
  | letter {b byte : UInt8} {rest : List UInt8} {chars : List Char}
      (hletter : letterEscape? b = some byte) (hrest : Spells rest chars) :
      Spells (Byte.backslash :: b :: rest) (Char.ofNat byte.toNat :: chars)
  | unit {a b c d : UInt8} {n : Nat} {rest : List UInt8} {chars : List Char}
      (hunit : hexValue? a b c d = some n) (hleading : isLeadingSurrogate n = false)
      (htrailing : isTrailingSurrogate n = false) (hrest : Spells rest chars) :
      Spells (Byte.backslash :: Byte.letterU :: a :: b :: c :: d :: rest) (Char.ofNat n :: chars)
  | pair {a b c d a' b' c' d' : UInt8} {leading trailing : Nat} {rest : List UInt8}
      {chars : List Char} (hunit : hexValue? a b c d = some leading)
      (hleading : isLeadingSurrogate leading = true)
      (hunit' : hexValue? a' b' c' d' = some trailing)
      (htrailing : isTrailingSurrogate trailing = true) (hrest : Spells rest chars) :
      Spells
        (Byte.backslash :: Byte.letterU :: a :: b :: c :: d ::
          Byte.backslash :: Byte.letterU :: a' :: b' :: c' :: d' :: rest)
        (Char.ofNat (pairedCodePoint leading trailing) :: chars)

/-! ## Numbers -/

/-- Whether some bytes are digits, at least one. -/
def IsDigits (bytes : List UInt8) : Prop := bytes ≠ [] ∧ ∀ b ∈ bytes, Byte.isDigit b = true

/-- The digits of a number before its point. No zero stands before other digits. -/
inductive IsWhole : List UInt8 → Prop where
  | zero : IsWhole [Byte.zero]
  | digits {first : UInt8} {rest : List UInt8} (hfirst : Byte.isDigit first = true)
      (hzero : first ≠ Byte.zero) (hrest : ∀ b ∈ rest, Byte.isDigit b = true) :
      IsWhole (first :: rest)

/-- The fraction of a number, if there is one. -/
inductive IsFraction : List UInt8 → Prop where
  | none : IsFraction []
  | digits {digits : List UInt8} (hdigits : IsDigits digits) :
      IsFraction (Byte.point :: digits)

/-- The exponent of a number, if there is one. -/
inductive IsExponent : List UInt8 → Prop where
  | none : IsExponent []
  | digits {mark : UInt8} {sign digits : List UInt8}
      (hmark : mark = Byte.lowerE ∨ mark = Byte.upperE)
      (hsign : sign = [] ∨ sign = [Byte.plus] ∨ sign = [Byte.minus]) (hdigits : IsDigits digits) :
      IsExponent (mark :: (sign ++ digits))

/-- The text of a number. -/
inductive IsNumeral : List UInt8 → Prop where
  | of {sign whole fraction exponent : List UInt8} (hsign : sign = [] ∨ sign = [Byte.minus])
      (hwhole : IsWhole whole) (hfraction : IsFraction fraction)
      (hexponent : IsExponent exponent) :
      IsNumeral (sign ++ (whole ++ (fraction ++ exponent)))

/-! ## Values -/

/-- The text of `null`. -/
def nullText : List UInt8 := Byte.letterN :: nullTail

/-- The text of `true`. -/
def trueText : List UInt8 := Byte.letterT :: trueTail

/-- The text of `false`. -/
def falseText : List UInt8 := Byte.letterF :: falseTail

/-- Whether a text is a key with its colon; `content` is what follows the opening quote of the
key. -/
def IsLabel (content label : List UInt8) : Prop :=
  ∃ before after, Blanks before ∧ Blanks after ∧
    label = before ++ Byte.quote :: (content ++ (after ++ [Byte.colon]))

/-- The phrases of the grammar: a value, and the items or members behind an opening bracket up to
the closing one, at least one of them. -/
inductive Phrase where
  | value
  | items
  | members

/-- The texts of each phrase. -/
inductive Derives : Phrase → List UInt8 → Prop where
  | word {text : List UInt8} (hword : text ∈ [nullText, trueText, falseText]) :
      Derives .value text
  | numeral {text : List UInt8} (hnumeral : IsNumeral text) : Derives .value text
  | string {content : List UInt8} (hcontent : IsContent content) :
      Derives .value (Byte.quote :: content)
  | emptyArray {blanks : List UInt8} (hblanks : Blanks blanks) :
      Derives .value (Byte.openBracket :: (blanks ++ [Byte.closeBracket]))
  | array {text : List UInt8} (hitems : Derives .items text) :
      Derives .value (Byte.openBracket :: text)
  | emptyObject {blanks : List UInt8} (hblanks : Blanks blanks) :
      Derives .value (Byte.openBrace :: (blanks ++ [Byte.closeBrace]))
  | object {text : List UInt8} (hmembers : Derives .members text) :
      Derives .value (Byte.openBrace :: text)
  | lastItem {value padded : List UInt8} (hvalue : Derives .value value)
      (hpadded : Padded value padded) : Derives .items (padded ++ [Byte.closeBracket])
  | item {value padded rest : List UInt8} (hvalue : Derives .value value)
      (hpadded : Padded value padded) (hrest : Derives .items rest) :
      Derives .items (padded ++ Byte.comma :: rest)
  | lastMember {content label value padded : List UInt8} (hcontent : IsContent content)
      (hlabel : IsLabel content label) (hvalue : Derives .value value)
      (hpadded : Padded value padded) :
      Derives .members (label ++ (padded ++ [Byte.closeBrace]))
  | member {content label value padded rest : List UInt8} (hcontent : IsContent content)
      (hlabel : IsLabel content label) (hvalue : Derives .value value)
      (hpadded : Padded value padded) (hrest : Derives .members rest) :
      Derives .members (label ++ (padded ++ Byte.comma :: rest))

/-- Whether a text is one of a value. -/
abbrev IsValue (text : List UInt8) : Prop := Derives .value text

/-! ## Objects with their members -/

/-- The text of some members behind an opening brace up to the closing one, at least one of them,
with the keys as strings and the values as texts. -/
inductive IsMembers : List UInt8 → List (String × List UInt8) → Prop where
  | last {content label value padded : List UInt8} {key : String}
      (hkey : Spells content key.toList) (hlabel : IsLabel content label)
      (hvalue : IsValue value) (hpadded : Padded value padded) :
      IsMembers (label ++ (padded ++ [Byte.closeBrace])) [(key, value)]
  | more {content label value padded rest : List UInt8} {key : String}
      {members : List (String × List UInt8)} (hkey : Spells content key.toList)
      (hlabel : IsLabel content label) (hvalue : IsValue value) (hpadded : Padded value padded)
      (hrest : IsMembers rest members) :
      IsMembers (label ++ (padded ++ Byte.comma :: rest)) ((key, value) :: members)

/-- The text of an object with its members. -/
inductive IsObject : List UInt8 → List (String × List UInt8) → Prop where
  | empty {blanks : List UInt8} (hblanks : Blanks blanks) :
      IsObject (Byte.openBrace :: (blanks ++ [Byte.closeBrace])) []
  | members {text : List UInt8} {members : List (String × List UInt8)}
      (hmembers : IsMembers text members) : IsObject (Byte.openBrace :: text) members

/-! ## Arrays with their items -/

/-- The text of some items behind an opening bracket up to the closing one, at least one of them,
with the items as texts. -/
inductive IsItems : List UInt8 → List (List UInt8) → Prop where
  | last {value padded : List UInt8} (hvalue : IsValue value) (hpadded : Padded value padded) :
      IsItems (padded ++ [Byte.closeBracket]) [value]
  | more {value padded rest : List UInt8} {items : List (List UInt8)} (hvalue : IsValue value)
      (hpadded : Padded value padded) (hrest : IsItems rest items) :
      IsItems (padded ++ Byte.comma :: rest) (value :: items)

/-- The text of an array with its items. -/
inductive IsArray : List UInt8 → List (List UInt8) → Prop where
  | empty {blanks : List UInt8} (hblanks : Blanks blanks) :
      IsArray (Byte.openBracket :: (blanks ++ [Byte.closeBracket])) []
  | items {text : List UInt8} {items : List (List UInt8)} (hitems : IsItems text items) :
      IsArray (Byte.openBracket :: text) items

theorem IsItems.derives {text : List UInt8} {items : List (List UInt8)}
    (hitems : IsItems text items) : Derives .items text := by
  induction hitems with
  | last hvalue hpadded => exact .lastItem hvalue hpadded
  | more hvalue hpadded _ ih => exact .item hvalue hpadded ih

/-- An array is a value. -/
theorem IsArray.isValue {text : List UInt8} {items : List (List UInt8)}
    (harray : IsArray text items) : IsValue text := by
  cases harray with
  | empty hblanks => exact .emptyArray hblanks
  | items hitems => exact .array hitems.derives

/-! ## First bytes -/

/-- Whether a value could start with a byte: it is no blank, and it ends nothing. -/
def StartsValue (b : UInt8) : Prop :=
  Byte.isBlank b = false ∧ b ≠ Byte.closeBracket ∧ b ≠ Byte.closeBrace ∧ b ≠ Byte.comma

theorem startsValue_of_isDigit {b : UInt8} (hdigit : Byte.isDigit b = true) : StartsValue b := by
  have hbounds : 0x30 ≤ b ∧ b ≤ 0x39 := by simpa [Byte.isDigit] using hdigit
  have hne {other : UInt8} (hother : ¬ (0x30 ≤ other ∧ other ≤ 0x39)) : b ≠ other := by
    rintro rfl
    exact hother hbounds
  refine ⟨?_, hne (by decide), hne (by decide), hne (by decide)⟩
  simp [Byte.isBlank, hne (show ¬ (0x30 ≤ (0x20 : UInt8) ∧ (0x20 : UInt8) ≤ 0x39) by decide),
    hne (show ¬ (0x30 ≤ (0x09 : UInt8) ∧ (0x09 : UInt8) ≤ 0x39) by decide),
    hne (show ¬ (0x30 ≤ (0x0A : UInt8) ∧ (0x0A : UInt8) ≤ 0x39) by decide),
    hne (show ¬ (0x30 ≤ (0x0D : UInt8) ∧ (0x0D : UInt8) ≤ 0x39) by decide)]

theorem IsWhole.front {whole : List UInt8} (hwhole : IsWhole whole) :
    ∃ first rest, whole = first :: rest ∧ Byte.isDigit first = true := by
  cases hwhole with
  | zero => exact ⟨_, _, rfl, by decide⟩
  | digits hfirst _ _ => exact ⟨_, _, rfl, hfirst⟩

/-- The first byte of a number is a minus sign or a digit. -/
theorem IsNumeral.front {text : List UInt8} (hnumeral : IsNumeral text) :
    ∃ first rest, text = first :: rest ∧ (first = Byte.minus ∨ Byte.isDigit first = true) := by
  obtain ⟨hsign, hwhole, _, _⟩ := hnumeral
  obtain ⟨first, rest, rfl, hfirst⟩ := hwhole.front
  rcases hsign with rfl | rfl
  · exact ⟨first, _, rfl, .inr hfirst⟩
  · exact ⟨Byte.minus, _, rfl, .inl rfl⟩

/-- The first byte of a value is no blank and ends nothing. -/
theorem IsValue.front {text : List UInt8} (hvalue : IsValue text) :
    ∃ first rest, text = first :: rest ∧ StartsValue first := by
  cases hvalue with
  | word hword =>
    simp only [List.mem_cons, List.not_mem_nil, or_false] at hword
    rcases hword with rfl | rfl | rfl
    all_goals exact ⟨_, _, rfl, by unfold StartsValue; decide⟩
  | numeral hnumeral =>
    obtain ⟨first, rest, rfl, hfirst⟩ := hnumeral.front
    refine ⟨first, rest, rfl, ?_⟩
    rcases hfirst with rfl | hdigit
    · unfold StartsValue
      decide
    · exact startsValue_of_isDigit hdigit
  | string | emptyArray | array | emptyObject | object =>
    exact ⟨_, _, rfl, by unfold StartsValue; decide⟩

end ChatSteward.Json
