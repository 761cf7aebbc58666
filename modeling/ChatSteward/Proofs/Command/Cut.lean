import ChatSteward.Command.Expression
import ChatSteward.Text.Split

/-!
# Cuts at commas

The text between the parentheses of a call is cut before any piece is looked at, and literals are
read twice on the way: by the cut, which enters them anywhere, and by the test of a single piece.
The two agree because a cut passes over every argument as a whole: neither a word nor blanks nor a
complete literal hold a comma or a parenthesis outside of quotes.

## Main definitions

* `QuotedBody`, `Literal` — the texts of literals
* `IsArgumentText` — the texts of trimmed arguments
* `IsPassed` — a cut passes over a text as a whole

## Main results

* `isLiteral_iff` — the test of literals knows exactly the complete ones
* `joinWith_cut` — joining the pieces of a cut gives the text back
* `cut_joinWith` — arguments between commas are cut at these commas
-/

namespace ChatSteward.Command

open Text (isBlank trim)

/-! ## Literals -/

/-- The back quote. -/
def backQuote : Char := '\x60'

/-- What may stand between double quotes: a backslash takes the next character with it. -/
inductive QuotedBody : List Char → Prop where
  | nil : QuotedBody []
  | char {c : Char} {rest : List Char} (hquote : c ≠ '"') (hescape : c ≠ '\\')
      (hrest : QuotedBody rest) : QuotedBody (c :: rest)
  | escaped (c : Char) {rest : List Char} (hrest : QuotedBody rest) :
      QuotedBody ('\\' :: c :: rest)

/-- A complete literal, in double quotes or in back quotes. -/
inductive Literal : List Char → Prop where
  | double {body : List Char} (hbody : QuotedBody body) : Literal ('"' :: (body ++ ['"']))
  | back {body : List Char} (habsent : backQuote ∉ body) :
      Literal (backQuote :: (body ++ [backQuote]))

/-- A trimmed argument: nothing, a word, or one complete literal. -/
def IsArgumentText (text : List Char) : Prop :=
  text = [] ∨
    (∀ c ∈ text, Text.isAlphanumeric c = true ∨ c = '_' ∨ c = '-' ∨ c = '.') ∨ Literal text

namespace Expression

/-! ## Literals -/

@[simp] theorem isQuote_iff {c : Char} : isQuote c = true ↔ c = '"' ∨ c = backQuote := by
  simp only [isQuote, Bool.or_eq_true, beq_iff_eq]
  refine or_congr_right ⟨fun hcode => ?_, fun heq => heq ▸ rfl⟩
  rw [← Char.ofNat_toNat c, hcode]
  rfl

theorem closesAtEnd_cons {quote c : Char} (hplain : ¬(c = '\\' ∧ quote = '"'))
    (rest : List Char) :
    closesAtEnd quote (c :: rest) = if c = quote then rest.isEmpty else closesAtEnd quote rest := by
  rw [closesAtEnd.eq_def]
  exact if_neg hplain

theorem closesAtEnd_of_quotedBody {body : List Char} (hbody : QuotedBody body) :
    closesAtEnd '"' (body ++ ['"']) = true := by
  induction hbody with
  | nil => rfl
  | char hquote hescape _ ih =>
    rw [List.cons_append, closesAtEnd_cons (fun h => hescape h.1), if_neg hquote, ih]
  | escaped c _ ih => exact ih

theorem quotedBody_of_closesAtEnd {text : List Char} (hcloses : closesAtEnd '"' text = true) :
    ∃ body, QuotedBody body ∧ text = body ++ ['"'] := by
  fun_induction closesAtEnd '"' text with
  | case1 => cases hcloses
  | case2 => cases hcloses
  | case3 c hescape d rest ih =>
    obtain ⟨body, hbody, rfl⟩ := ih hcloses
    exact ⟨c :: d :: body, hescape.1 ▸ .escaped d hbody, rfl⟩
  | case4 rest =>
    exact ⟨[], .nil, by rw [List.isEmpty_iff.mp hcloses]; rfl⟩
  | case5 c rest hescape hquote ih =>
    obtain ⟨body, hbody, rfl⟩ := ih hcloses
    exact ⟨c :: body, .char hquote (fun h => hescape ⟨h, rfl⟩) hbody, rfl⟩

@[simp] theorem closesAtEnd_backQuote_iff {text : List Char} :
    closesAtEnd backQuote text = true ↔ ∃ body, backQuote ∉ body ∧ text = body ++ [backQuote] := by
  induction text with
  | nil => simp [closesAtEnd]
  | cons c rest ih =>
    rw [closesAtEnd_cons (fun h => absurd h.2 (by decide))]
    by_cases hc : c = backQuote
    · subst hc
      rw [if_pos rfl, List.isEmpty_iff]
      constructor
      · rintro rfl
        exact ⟨[], List.not_mem_nil, rfl⟩
      · rintro ⟨body, habsent, heq⟩
        -- this quote is the first one, so nothing stands before it
        cases body with
        | nil => exact (List.cons.inj heq).2
        | cons d body => exact absurd (by rw [(List.cons.inj heq).1]; simp) habsent
    · rw [if_neg hc, ih]
      constructor
      · rintro ⟨body, habsent, rfl⟩
        exact ⟨c :: body, by simp [habsent, Ne.symm hc], rfl⟩
      · rintro ⟨body, habsent, heq⟩
        cases body with
        | nil => exact absurd (List.cons.inj heq).1 hc
        | cons d body =>
          exact ⟨body, fun h => habsent (by simp [h]), (List.cons.inj heq).2⟩

/-- The scanner of literals knows exactly the complete ones. -/
@[simp] theorem isLiteral_iff {text : List Char} : isLiteral text = true ↔ Literal text := by
  constructor
  · intro hliteral
    cases text with
    | nil => cases hliteral
    | cons quote rest =>
      obtain ⟨hquote, hcloses⟩ := Bool.and_eq_true_iff.mp hliteral
      rcases isQuote_iff.mp hquote with rfl | rfl
      · obtain ⟨body, hbody, rfl⟩ := quotedBody_of_closesAtEnd hcloses
        exact .double hbody
      · obtain ⟨body, habsent, rfl⟩ := closesAtEnd_backQuote_iff.mp hcloses
        exact .back habsent
  · rintro (hbody | habsent)
    · exact closesAtEnd_of_quotedBody hbody
    · exact closesAtEnd_backQuote_iff.mpr ⟨_, habsent, rfl⟩

/-! ## Cuts -/

theorem cut_none_cons (c : Char) (rest : List Char) :
    cut none (c :: rest) =
      if isQuote c then (cut (some c) rest).map (extend c)
      else if c = ',' then (cut none rest).map ([] :: ·)
      else if c = '(' ∨ c = ')' then none
      else (cut none rest).map (extend c) := by
  rw [cut.eq_def]

theorem cut_some_cons {quote c : Char} (hplain : ¬(c = '\\' ∧ quote = '"'))
    (rest : List Char) :
    cut (some quote) (c :: rest) =
      if c = quote then (cut none rest).map (extend c)
      else (cut (some quote) rest).map (extend c) := by
  rw [cut.eq_def]
  exact if_neg hplain

theorem cut_escaped (c : Char) (rest : List Char) :
    cut (some '"') ('\\' :: c :: rest) =
      (cut (some '"') rest).map fun pieces => extend '\\' (extend c pieces) := by
  rw [cut.eq_def]
  rfl

@[simp] theorem joinWith_extend (between : List Char) (c : Char) (pieces : List (List Char)) :
    Text.joinWith between (extend c pieces) = c :: Text.joinWith between pieces := by
  rcases pieces with _ | ⟨piece, _ | ⟨next, pieces⟩⟩ <;> rfl

theorem extend_ne_nil (c : Char) (pieces : List (List Char)) : extend c pieces ≠ [] := by
  cases pieces <;> simp [extend]

/-- Joining the pieces of a cut gives the text back. -/
theorem joinWith_cut {literal : Option Char} {text : List Char} {pieces : List (List Char)}
    (hcut : cut literal text = some pieces) :
    pieces ≠ [] ∧ Text.joinWith [','] pieces = text := by
  -- a cut puts each character in front of the first piece, but for a comma that begins another
  fun_induction cut literal text generalizing pieces with
  | case1 => cases hcut; simp [Text.joinWith]
  | case2 => cases hcut
  | case3 => cases hcut
  | case4 quote c hescape d rest ih =>
    obtain ⟨inner, hinner, rfl⟩ := Option.map_eq_some_iff.mp hcut
    exact ⟨extend_ne_nil _ _, by rw [joinWith_extend, joinWith_extend, (ih hinner).2]⟩
  | case5 c rest hescape ih =>
    obtain ⟨inner, hinner, rfl⟩ := Option.map_eq_some_iff.mp hcut
    exact ⟨extend_ne_nil _ _, by rw [joinWith_extend, (ih hinner).2]⟩
  | case6 quote c rest hescape hquote ih =>
    obtain ⟨inner, hinner, rfl⟩ := Option.map_eq_some_iff.mp hcut
    exact ⟨extend_ne_nil _ _, by rw [joinWith_extend, (ih hinner).2]⟩
  | case7 c rest hquote ih =>
    obtain ⟨inner, hinner, rfl⟩ := Option.map_eq_some_iff.mp hcut
    exact ⟨extend_ne_nil _ _, by rw [joinWith_extend, (ih hinner).2]⟩
  | case8 rest hquote ih =>
    obtain ⟨inner, hinner, rfl⟩ := Option.map_eq_some_iff.mp hcut
    obtain ⟨hsome, hjoin⟩ := ih hinner
    exact ⟨List.cons_ne_nil _ _, by rw [Text.joinWith_cons_of_ne_nil _ _ hsome, hjoin]; rfl⟩
  | case9 => cases hcut
  | case10 c rest hquote hcomma hparenthesis ih =>
    obtain ⟨inner, hinner, rfl⟩ := Option.map_eq_some_iff.mp hcut
    exact ⟨extend_ne_nil _ _, by rw [joinWith_extend, (ih hinner).2]⟩

/-! ## Texts that are cut nowhere -/

/-- Puts a text in front of the first piece. -/
def extendBy (text : List Char) (pieces : List (List Char)) : List (List Char) :=
  text.foldr extend pieces

@[simp] theorem extendBy_cons (text piece : List Char) (pieces : List (List Char)) :
    extendBy text (piece :: pieces) = (text ++ piece) :: pieces := by
  induction text with
  | nil => rfl
  | cons c rest ih => rw [extendBy, List.foldr_cons, ← extendBy, ih]; rfl

/-- Whether a cut passes over a text as a whole, whatever comes after it. -/
def IsPassed (text : List Char) : Prop :=
  ∀ rest, cut none (text ++ rest) = (cut none rest).map (extendBy text)

@[simp] theorem isPassed_nil : IsPassed [] := by
  intro rest
  change cut none rest = (cut none rest).map id
  rw [Option.map_id_apply]

theorem IsPassed.append {first second : List Char} (hfirst : IsPassed first)
    (hsecond : IsPassed second) : IsPassed (first ++ second) := by
  intro rest
  rw [List.append_assoc, hfirst, hsecond, Option.map_map]
  congr 1
  funext pieces
  simp [extendBy]

/-- Whether a character is text wherever it stands. -/
def IsOrdinary (c : Char) : Prop := isQuote c = false ∧ c ≠ ',' ∧ c ≠ '(' ∧ c ≠ ')'

theorem isPassed_of_ordinary {text : List Char} (hordinary : ∀ c ∈ text, IsOrdinary c) :
    IsPassed text := by
  induction text with
  | nil => exact isPassed_nil
  | cons c text ih =>
    intro rest
    obtain ⟨hquote, hcomma, hopen, hclose⟩ := hordinary c (by simp)
    rw [List.cons_append, cut_none_cons, if_neg (by simp [hquote]), if_neg hcomma,
      if_neg (by simp [hopen, hclose]), ih (fun d hd => hordinary d (by simp [hd])) rest,
      Option.map_map]
    rfl

theorem cut_quotedBody {body : List Char} (hbody : QuotedBody body) (rest : List Char) :
    cut (some '"') (body ++ '"' :: rest) =
      (cut none rest).map (extendBy (body ++ ['"'])) := by
  induction hbody with
  | nil => exact cut_some_cons (by decide) rest
  | char hquote hescape _ ih =>
    rw [List.cons_append, cut_some_cons (fun h => hescape h.1), if_neg hquote, ih, Option.map_map]
    rfl
  | escaped c _ ih =>
    rw [List.cons_append, List.cons_append, cut_escaped, ih, Option.map_map]
    rfl

theorem cut_backQuoted {body : List Char} (habsent : backQuote ∉ body) (rest : List Char) :
    cut (some backQuote) (body ++ backQuote :: rest) =
      (cut none rest).map (extendBy (body ++ [backQuote])) := by
  induction body with
  | nil =>
    rw [List.nil_append, cut_some_cons (by decide), if_pos rfl]
    rfl
  | cons c body ih =>
    have hc : c ≠ backQuote := fun h => habsent (by simp [h])
    rw [List.cons_append, cut_some_cons (fun h => absurd h.2 (by decide)), if_neg hc,
      ih (fun h => habsent (by simp [h])), Option.map_map]
    rfl

/-- A cut passes over a complete literal, whatever stands in it. -/
theorem isPassed_of_literal {text : List Char} (hliteral : Literal text) : IsPassed text := by
  intro rest
  -- the first quote enters the literal, and the body ends at the quote that leaves it
  cases hliteral with
  | double hbody =>
    rw [List.cons_append, List.append_assoc, cut_none_cons, if_pos (isQuote_iff.mpr (.inl rfl))]
    rw [List.singleton_append, cut_quotedBody hbody, Option.map_map]
    rfl
  | back habsent =>
    rw [List.cons_append, List.append_assoc, cut_none_cons, if_pos (isQuote_iff.mpr (.inr rfl))]
    rw [List.singleton_append, cut_backQuoted habsent, Option.map_map]
    rfl

@[simp] theorem isPlainChar_iff {c : Char} :
    isPlainChar c = true ↔ Text.isAlphanumeric c = true ∨ c = '_' ∨ c = '-' ∨ c = '.' := by
  simp [isPlainChar, or_assoc]

@[simp] theorem isArgument_iff {text : List Char} :
    isArgument text = true ↔ IsArgumentText text := by
  simp [isArgument, IsArgumentText, List.all_eq_true, or_assoc]

/-- What no separator satisfies makes characters ordinary. -/
theorem IsOrdinary.of_test {test : Char → Bool} {c : Char} (hc : test c = true)
    (hseparators : ['"', backQuote, ',', '(', ')'].any test = false) : IsOrdinary c := by
  have hne : ∀ d ∈ ['"', backQuote, ',', '(', ')'], c ≠ d := by
    -- a separator would satisfy the test as well
    rintro d hd rfl
    exact List.any_eq_false.mp hseparators c hd hc
  refine ⟨Bool.eq_false_iff.mpr fun hquote => ?_, hne _ (by simp), hne _ (by simp), hne _ (by simp)⟩
  rcases isQuote_iff.mp hquote with heq | heq
  · exact hne _ (by simp) heq
  · exact hne _ (by simp) heq

theorem isOrdinary_of_isBlank {c : Char} (hblank : isBlank c = true) : IsOrdinary c :=
  .of_test hblank (by decide)

theorem isOrdinary_of_isPlainChar {c : Char} (hplain : isPlainChar c = true) : IsOrdinary c :=
  .of_test hplain (by decide)

/-- A cut passes over everything that trims to an argument. -/
theorem isPassed_of_argument {piece : List Char} (hargument : IsArgumentText (trim piece)) :
    IsPassed piece := by
  obtain ⟨before, after, hbefore, hafter, hpiece⟩ := Text.exists_blanks_trim piece
  have hblanks {blanks : List Char} (hall : ∀ c ∈ blanks, isBlank c = true) : IsPassed blanks :=
    isPassed_of_ordinary fun c hc => isOrdinary_of_isBlank (hall c hc)
  have hmiddle : IsPassed (trim piece) := by
    rcases hargument with hnil | hplain | hliteral
    · exact hnil ▸ isPassed_nil
    · exact isPassed_of_ordinary fun c hc =>
        isOrdinary_of_isPlainChar (isPlainChar_iff.mpr (hplain c hc))
    · exact isPassed_of_literal hliteral
  rw [hpiece]
  exact (hblanks hbefore).append (hmiddle.append (hblanks hafter))

/-- Arguments between commas are cut at these commas. -/
theorem cut_joinWith {pieces : List (List Char)} (hsome : pieces ≠ [])
    (harguments : ∀ piece ∈ pieces, IsArgumentText (trim piece)) :
    cut none (Text.joinWith [','] pieces) = some pieces := by
  induction pieces with
  | nil => exact absurd rfl hsome
  | cons piece rest ih =>
    have hpassed := isPassed_of_argument (harguments piece (by simp))
    cases rest with
    | nil =>
      have hcut := hpassed []
      rw [List.append_nil] at hcut
      rw [Text.joinWith, hcut, cut, Option.map_some, extendBy_cons, List.append_nil]
    | cons next more =>
      -- the piece is passed as a whole, so the comma after it is met outside of literals
      have hrest := ih (by simp) fun p hp => harguments p (by simp [hp])
      rw [Text.joinWith_cons_of_ne_nil _ _ (by simp), List.append_assoc, List.singleton_append,
        hpassed, cut_none_cons, if_neg (by decide), if_pos rfl, hrest, Option.map_some,
        Option.map_some, extendBy_cons, List.append_nil]

end Expression

end ChatSteward.Command
