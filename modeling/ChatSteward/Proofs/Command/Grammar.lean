import ChatSteward.Proofs.Command.Cut
import Mathlib.Data.List.TakeWhile

/-!
# The grammar of command expressions

Command lines as they are written: a bare name, a name with empty parentheses, or a name with
arguments between commas. A reading tells how a trimmed line falls into these parts. Parsing
finds the reading of a line if there is one and refuses the line otherwise.

## Main definitions

* `IsIdentifier`, `IsName` — the texts of names
* `Reading`, `Reading.text`, `Reading.WellFormed` — the parts of a line and how they are written
* `Reading.expression` — what a line means

## Main results

* `ofTrimmed_text` — a line that is written well is parsed as it is written
* `exists_reading_of_ofTrimmed` — what is parsed was written well
* `Reading.text_injective` — a line has one reading
* `parse_grammar` — parsing accepts the grammar and nothing else
-/

namespace ChatSteward.Command

open Text (isBlank isWordChar trim trimEnd)

/-! ## Names -/

/-- A letter or an underscore, then letters, numerals and underscores. -/
def IsIdentifier (text : List Char) : Prop :=
  ∃ c rest, text = c :: rest ∧ (Text.isLetter c = true ∨ c = '_') ∧
    ∀ d ∈ rest, isWordChar d = true

/-- One or more letters, numerals and underscores. -/
def IsName (text : List Char) : Prop := text ≠ [] ∧ ∀ c ∈ text, isWordChar c = true

namespace Expression

@[simp] theorem isIdentifier_iff {text : List Char} :
    isIdentifier text = true ↔ IsIdentifier text := by
  cases text with
  | nil => simp [isIdentifier, IsIdentifier]
  | cons c rest =>
    simp only [isIdentifier, Bool.and_eq_true, Bool.or_eq_true, beq_iff_eq, List.all_eq_true]
    constructor
    · rintro ⟨hfirst, hrest⟩
      exact ⟨c, rest, rfl, hfirst, hrest⟩
    · rintro ⟨_, _, heq, hfirst, hrest⟩
      cases heq
      exact ⟨hfirst, hrest⟩

@[simp] theorem isWord_iff {text : List Char} : isWord text = true ↔ IsName text := by
  simp [isWord, IsName, List.all_eq_true]

/-- The code points of the blanks. -/
def blankCodes : List Nat :=
  [9, 10, 11, 12, 13, 0x20, 0x85, 0xA0, 0x1680, 0x2000, 0x2001, 0x2002, 0x2003, 0x2004, 0x2005,
   0x2006, 0x2007, 0x2008, 0x2009, 0x200A, 0x2028, 0x2029, 0x202F, 0x205F, 0x3000]

theorem mem_blankCodes {c : Char} (hblank : isBlank c = true) : c.toNat ∈ blankCodes := by
  simp only [isBlank, Bool.or_eq_true, Bool.and_eq_true, decide_eq_true_eq, beq_iff_eq] at hblank
  simp only [blankCodes, List.mem_cons, List.not_mem_nil, or_false]
  omega

theorem isWordChar_of_mem_blankCodes :
    ∀ n ∈ blankCodes, isWordChar (Char.ofNat n) = false := by
  decide +kernel

/-- No blank stands in a name. -/
theorem isBlank_eq_false_of_isWordChar {c : Char} (hword : isWordChar c = true) :
    isBlank c = false := by
  rw [← Bool.not_eq_true]
  intro hblank
  -- there are few blanks, and each of them is looked up in the tables of letters
  have hcode := isWordChar_of_mem_blankCodes _ (mem_blankCodes hblank)
  rw [Char.ofNat_toNat, hword] at hcode
  cases hcode

end Expression

/-! ## Readings -/

/-- How a trimmed line falls into its parts. -/
inductive Reading where
  /-- A name alone. -/
  | bare (name : List Char)
  /-- A name with nothing but blanks between the parentheses. -/
  | empty (name blanks inner : List Char)
  /-- A name with arguments between commas. -/
  | call (name blanks : List Char) (pieces : List (List Char))

namespace Reading

/-- How a reading is written. -/
def text : Reading → List Char
  | .bare name => name
  | .empty name blanks inner => name ++ blanks ++ '(' :: (inner ++ [')'])
  | .call name blanks pieces => name ++ blanks ++ '(' :: (Text.joinWith [','] pieces ++ [')'])

/-- Whether the parts of a reading are what they should be. -/
def WellFormed : Reading → Prop
  | .bare name => IsIdentifier name
  | .empty name blanks inner =>
    IsName name ∧ (∀ c ∈ blanks, isBlank c = true) ∧ ∀ c ∈ inner, isBlank c = true
  | .call name blanks pieces =>
    IsName name ∧ (∀ c ∈ blanks, isBlank c = true) ∧ pieces ≠ [] ∧
      (∃ c ∈ Text.joinWith [','] pieces, isBlank c = false) ∧
      ∀ piece ∈ pieces, IsArgumentText (trim piece)

/-- What a reading means: its name in lower case, and its arguments trimmed and in order. -/
def expression : Reading → Expression
  | .bare name => ⟨String.ofList (Text.lowercase name), []⟩
  | .empty name _ _ => ⟨String.ofList (Text.lowercase name), []⟩
  | .call name _ pieces =>
    ⟨String.ofList (Text.lowercase name), pieces.map fun piece => String.ofList (trim piece)⟩

end Reading

/-! ## Parsing -/

namespace Expression

theorem not_mem_opening {name blanks : List Char} (hname : ∀ c ∈ name, isWordChar c = true)
    (hblanks : ∀ c ∈ blanks, isBlank c = true) : '(' ∉ name ++ blanks := by
  intro hmem
  rcases List.mem_append.mp hmem with hmem | hmem
  · exact absurd (hname _ hmem) (by decide)
  · exact absurd (hblanks _ hmem) (by decide)

theorem not_mem_opening_of_isIdentifier {name : List Char} (hname : IsIdentifier name) :
    '(' ∉ name := by
  obtain ⟨c, rest, rfl, hfirst, hrest⟩ := hname
  intro hmem
  rcases List.mem_cons.mp hmem with rfl | hmem
  · exact absurd hfirst (by decide)
  · exact absurd (hrest _ hmem) (by decide)

/-- The name before a parenthesis is found between blanks. -/
theorem trimEnd_name {name blanks : List Char} (hname : IsName name)
    (hblanks : ∀ c ∈ blanks, isBlank c = true) : trimEnd (name ++ blanks) = name := by
  rw [Text.trimEnd_append_blanks hblanks]
  exact Text.trimEnd_of_solid fun c hc => isBlank_eq_false_of_isWordChar (hname.2 c hc)

@[simp] theorem dropClosing?_eq_some_iff {text inner : List Char} :
    dropClosing? text = some inner ↔ text = inner ++ [')'] := by
  constructor
  · intro hdrop
    rw [dropClosing?] at hdrop
    split at hdrop
    case isTrue hlast =>
      obtain ⟨front, rfl⟩ := List.getLast?_eq_some_iff.mp hlast
      rw [List.dropLast_concat] at hdrop
      cases hdrop
      rfl
    case isFalse => cases hdrop
  · rintro rfl
    simp [dropClosing?]

theorem ne_opening_of_not_mem {text : List Char} (habsent : '(' ∉ text) :
    ∀ c ∈ text, decide (c ≠ '(') = true :=
  fun _ hc => decide_eq_true fun h => habsent (h ▸ hc)

theorem ofTrimmed_of_not_mem {line : List Char} (habsent : '(' ∉ line) :
    ofTrimmed line =
      if isIdentifier line then .ok (ofChars line []) else .error .unknownExpression := by
  have hnone : line.dropWhile (· ≠ '(') = [] :=
    List.dropWhile_eq_nil_iff.mpr (ne_opening_of_not_mem habsent)
  simp only [ofTrimmed, hnone]

theorem ofTrimmed_append {front : List Char} (habsent : '(' ∉ front) (rest : List Char) :
    ofTrimmed (front ++ '(' :: rest) =
      if isWord (trimEnd front) then
        match (dropClosing? rest).bind argumentsIn with
        | some arguments => .ok (ofChars (trimEnd front) arguments)
        | none => .error .unknownExpression
      else .error .unknownExpression := by
  have hall := ne_opening_of_not_mem habsent
  have hdrop : (front ++ '(' :: rest).dropWhile (· ≠ '(') = '(' :: rest := by
    rw [List.dropWhile_append_of_pos hall, List.dropWhile_cons_of_neg (by decide)]
  have htake : (front ++ '(' :: rest).takeWhile (· ≠ '(') = front := by
    rw [List.takeWhile_append_of_pos hall, List.takeWhile_cons_of_neg (by decide),
      List.append_nil]
  cases harguments : (dropClosing? rest).bind argumentsIn with
  | none => simp only [ofTrimmed, hdrop, htake, harguments]
  | some arguments => simp only [ofTrimmed, hdrop, htake, harguments]

theorem argumentsIn_of_blank {inner : List Char} (hblank : ∀ c ∈ inner, isBlank c = true) :
    argumentsIn inner = some [] := by
  rw [argumentsIn, if_pos (List.isEmpty_iff.mpr (Text.trim_eq_nil_iff.mpr hblank))]

theorem trim_isEmpty_eq_false {inner : List Char} {c : Char} (hmem : c ∈ inner)
    (hsolid : isBlank c = false) : ¬ (trim inner).isEmpty = true := by
  rw [List.isEmpty_iff, Text.trim_eq_nil_iff]
  exact fun hall => absurd (hall c hmem) (by simp [hsolid])

theorem argumentsIn_joinWith {pieces : List (List Char)} (hsome : pieces ≠ [])
    (hsolid : ∃ c ∈ Text.joinWith [','] pieces, isBlank c = false)
    (harguments : ∀ piece ∈ pieces, IsArgumentText (trim piece)) :
    argumentsIn (Text.joinWith [','] pieces) = some (pieces.map trim) := by
  obtain ⟨c, hmem, hc⟩ := hsolid
  have hall : (pieces.map trim).all isArgument = true := by
    rw [List.all_map, List.all_eq_true]
    exact fun piece hpiece => isArgument_iff.mpr (harguments piece hpiece)
  simp only [argumentsIn, if_neg (trim_isEmpty_eq_false hmem hc),
    cut_joinWith hsome harguments, hall, if_true]

/-- The arguments that are found are nothing between blanks, or they stand between commas. -/
theorem argumentsIn_cases {inner : List Char} {arguments : List (List Char)}
    (hin : argumentsIn inner = some arguments) :
    (∀ c ∈ inner, isBlank c = true) ∧ arguments = [] ∨
      ∃ pieces, pieces ≠ [] ∧ Text.joinWith [','] pieces = inner ∧
        (∃ c ∈ inner, isBlank c = false) ∧ (∀ piece ∈ pieces, IsArgumentText (trim piece)) ∧
        arguments = pieces.map trim := by
  rw [argumentsIn] at hin
  split at hin
  case isTrue hempty =>
    cases hin
    exact .inl ⟨Text.trim_eq_nil_iff.mp (List.isEmpty_iff.mp hempty), rfl⟩
  case isFalse hsolid =>
    rw [List.isEmpty_iff, Text.trim_eq_nil_iff] at hsolid
    cases hcut : cut none inner with
    | none => rw [hcut] at hin; cases hin
    | some pieces =>
      obtain ⟨hsome, hjoin⟩ := joinWith_cut hcut
      simp only [hcut] at hin
      split at hin
      case isTrue hall =>
        cases hin
        rw [List.all_map, List.all_eq_true] at hall
        refine .inr ⟨pieces, hsome, hjoin, by simpa using hsolid, fun piece hpiece => ?_, rfl⟩
        exact isArgument_iff.mp (hall piece hpiece)
      case isFalse => cases hin

/-! ## Lines and readings -/

/-- A line that is written well is parsed as it is written. -/
theorem ofTrimmed_text {reading : Reading} (hwell : reading.WellFormed) :
    ofTrimmed reading.text = .ok reading.expression := by
  cases reading with
  | bare name =>
    rw [Reading.text, ofTrimmed_of_not_mem (not_mem_opening_of_isIdentifier hwell),
      if_pos (isIdentifier_iff.mpr hwell)]
    rfl
  | empty name blanks inner =>
    obtain ⟨hname, hblanks, hinner⟩ := hwell
    rw [Reading.text, ofTrimmed_append (not_mem_opening hname.2 hblanks),
      trimEnd_name hname hblanks, if_pos (isWord_iff.mpr hname),
      dropClosing?_eq_some_iff.mpr rfl, Option.bind_some, argumentsIn_of_blank hinner]
    rfl
  | call name blanks pieces =>
    obtain ⟨hname, hblanks, hsome, hsolid, harguments⟩ := hwell
    rw [Reading.text, ofTrimmed_append (not_mem_opening hname.2 hblanks),
      trimEnd_name hname hblanks, if_pos (isWord_iff.mpr hname),
      dropClosing?_eq_some_iff.mpr rfl, Option.bind_some,
      argumentsIn_joinWith hsome hsolid harguments]
    simp [ofChars, Reading.expression]

/-- What is parsed was written well. -/
theorem exists_reading_of_ofTrimmed {line : List Char} {expression : Expression}
    (hparse : ofTrimmed line = .ok expression) :
    ∃ reading : Reading, reading.WellFormed ∧ reading.text = line ∧
      reading.expression = expression := by
  by_cases hopen : '(' ∈ line
  · obtain ⟨front, rest, rfl, habsent⟩ := List.eq_append_cons_of_mem hopen
    rw [ofTrimmed_append habsent] at hparse
    split at hparse
    case isFalse => cases hparse
    case isTrue hword =>
      obtain ⟨blanks, hblanks, hfront⟩ := Text.exists_blanks_trimEnd front
      cases hdrop : dropClosing? rest with
      | none => rw [hdrop] at hparse; cases hparse
      | some inner =>
        rw [hdrop, Option.bind_some] at hparse
        have hrest := dropClosing?_eq_some_iff.mp hdrop
        cases hin : argumentsIn inner with
        | none => rw [hin] at hparse; cases hparse
        | some arguments =>
          rw [hin] at hparse
          cases hparse
          -- what stands before the parenthesis is the name and the blanks that were trimmed
          rcases argumentsIn_cases hin with
            ⟨hblank, rfl⟩ | ⟨pieces, hsome, hjoin, hsolid, harguments, rfl⟩
          · refine ⟨.empty (trimEnd front) blanks inner, ⟨isWord_iff.mp hword, hblanks, hblank⟩,
              ?_, rfl⟩
            rw [Reading.text, ← hfront, hrest]
          · refine ⟨.call (trimEnd front) blanks pieces,
              ⟨isWord_iff.mp hword, hblanks, hsome, hjoin ▸ hsolid, harguments⟩, ?_, ?_⟩
            · rw [Reading.text, ← hfront, hjoin, hrest]
            · simp [ofChars, Reading.expression]
  · rw [ofTrimmed_of_not_mem hopen] at hparse
    split at hparse
    case isTrue hidentifier =>
      cases hparse
      exact ⟨.bare line, isIdentifier_iff.mp hidentifier, rfl, rfl⟩
    case isFalse => cases hparse

/-- There is only one refusal of a line by its form. -/
theorem ofTrimmed_error {line : List Char} {refusal : Refusal}
    (hparse : ofTrimmed line = .error refusal) : refusal = .unknownExpression := by
  rw [ofTrimmed] at hparse
  split at hparse
  · split at hparse <;> cases hparse
    rfl
  · dsimp only at hparse
    split at hparse
    · split at hparse <;> cases hparse
      rfl
    · cases hparse
      rfl

end Expression

/-! ## Uniqueness -/

namespace Reading

theorem name_blanks_inj {name name' blanks blanks' : List Char} (hname : IsName name)
    (hname' : IsName name') (hblanks : ∀ c ∈ blanks, isBlank c = true)
    (hblanks' : ∀ c ∈ blanks', isBlank c = true) (heq : name ++ blanks = name' ++ blanks') :
    name = name' ∧ blanks = blanks' := by
  have htrim := congrArg trimEnd heq
  rw [Expression.trimEnd_name hname hblanks, Expression.trimEnd_name hname' hblanks'] at htrim
  obtain rfl := htrim
  exact ⟨rfl, List.append_cancel_left heq⟩

/-- Two calls that are written alike have the same name, the same blanks after it and the same
text between the parentheses. -/
theorem call_text_inj {name name' blanks blanks' inner inner' : List Char} (hname : IsName name)
    (hname' : IsName name') (hblanks : ∀ c ∈ blanks, isBlank c = true)
    (hblanks' : ∀ c ∈ blanks', isBlank c = true)
    (heq : name ++ blanks ++ '(' :: (inner ++ [')']) =
      name' ++ blanks' ++ '(' :: (inner' ++ [')'])) :
    name = name' ∧ blanks = blanks' ∧ inner = inner' := by
  obtain ⟨hfront, hrest⟩ := Text.append_separator_inj
    (Expression.not_mem_opening hname.2 hblanks) (Expression.not_mem_opening hname'.2 hblanks') heq
  obtain ⟨rfl, rfl⟩ := name_blanks_inj hname hname' hblanks hblanks' hfront
  exact ⟨rfl, rfl, List.append_cancel_right hrest⟩

/-- A line has one reading. -/
theorem text_injective {first second : Reading} (hfirst : first.WellFormed)
    (hsecond : second.WellFormed) (heq : first.text = second.text) : first = second := by
  -- an identifier holds no parenthesis, so a bare name is written like no call
  have hopen {front rest : List Char} {name : List Char} (hname : IsIdentifier name)
      (hname' : name = front ++ '(' :: rest) : False :=
    Expression.not_mem_opening_of_isIdentifier hname (by simp [hname'])
  cases first with
  | bare name =>
    cases second with
    | bare => exact congrArg Reading.bare heq
    | empty => exact (hopen hfirst heq).elim
    | call => exact (hopen hfirst heq).elim
  | empty name blanks inner =>
    cases second with
    | bare => exact (hopen hsecond heq.symm).elim
    | empty =>
      obtain ⟨rfl, rfl, rfl⟩ := call_text_inj hfirst.1 hsecond.1 hfirst.2.1 hsecond.2.1 heq
      rfl
    | call =>
      -- the text between the parentheses is blank by one reading and not by the other
      obtain ⟨-, -, rfl⟩ := call_text_inj hfirst.1 hsecond.1 hfirst.2.1 hsecond.2.1 heq
      obtain ⟨c, hmem, hsolid⟩ := hsecond.2.2.2.1
      exact absurd (hfirst.2.2 c hmem) (by simp [hsolid])
  | call name blanks pieces =>
    cases second with
    | bare => exact (hopen hsecond heq.symm).elim
    | empty =>
      obtain ⟨-, -, rfl⟩ := call_text_inj hfirst.1 hsecond.1 hfirst.2.1 hsecond.2.1 heq
      obtain ⟨c, hmem, hsolid⟩ := hfirst.2.2.2.1
      exact absurd (hsecond.2.2 c hmem) (by simp [hsolid])
    | call =>
      obtain ⟨rfl, rfl, hjoin⟩ := call_text_inj hfirst.1 hsecond.1 hfirst.2.1 hsecond.2.1 heq
      obtain ⟨-, -, hsome, -, harguments⟩ := hfirst
      obtain ⟨-, -, hsome', -, harguments'⟩ := hsecond
      -- the pieces are those of the cut, which depends on the text alone
      have hpieces := Expression.cut_joinWith hsome harguments
      rw [hjoin, Expression.cut_joinWith hsome' harguments'] at hpieces
      rw [Option.some.inj hpieces]

end Reading

/-- Parsing accepts a line exactly when its trimmed text has a reading, and yields what the
reading means; every other line is refused as no expression. A line has one reading at most. -/
theorem parse_grammar (line : String) :
    (∀ expression, Expression.parse line = .ok expression ↔
      ∃ reading : Reading, reading.WellFormed ∧ reading.text = trim line.toList ∧
        reading.expression = expression) ∧
    ((¬ ∃ reading : Reading, reading.WellFormed ∧ reading.text = trim line.toList) →
      Expression.parse line = .error .unknownExpression) ∧
    ∀ first second : Reading, first.WellFormed → second.WellFormed →
      first.text = trim line.toList → second.text = trim line.toList → first = second := by
  refine ⟨fun expression => ⟨Expression.exists_reading_of_ofTrimmed, ?_⟩, fun hnone => ?_, ?_⟩
  · rintro ⟨reading, hwell, htext, rfl⟩
    rw [Expression.parse, ← htext]
    exact Expression.ofTrimmed_text hwell
  · cases hparse : Expression.parse line with
    | ok expression =>
      obtain ⟨reading, hwell, htext, -⟩ := Expression.exists_reading_of_ofTrimmed hparse
      exact absurd ⟨reading, hwell, htext⟩ hnone
    | error refusal => rw [Expression.ofTrimmed_error hparse]
  · intro first second hfirst hsecond htext htext'
    exact Reading.text_injective hfirst hsecond (htext.trans htext'.symm)

end ChatSteward.Command
