import ChatSteward.Text.Blank
import ChatSteward.Text.Split

/-!
# Words

The words of a text are what stands between its spaces, without the empty pieces that come of
several spaces in a row. How many spaces there are does not matter to them, nor do spaces at the
ends; so the words of a text that is blank nowhere but at its spaces are those of its trimmed form.

The tokens of a text stand between blanks of any kind. A space is a blank, so the tokens of joined
pieces are those of the pieces, and trimming keeps the tokens of every text.

## Main definitions

* `words` — the words of a text, in order
* `tokens` — what stands between its blanks, in order

## Main results

* `words_joinWith` — words are found again after joining
* `words_trim` — trimming keeps the words where every blank is a space
* `tokens_joinWith`, `tokens_trim` — joining and trimming keep the tokens
-/

namespace ChatSteward.Text

/-- The words of a text, in order. -/
def words (text : List Char) : List (List Char) :=
  (splitAt ' ' text).filter fun piece => !piece.isEmpty

@[simp] theorem words_nil : words [] = [] := rfl

/-- A text is cut at a separator, whatever stands on its two sides. -/
theorem splitAt_append_separator (separator : Char) (first second : List Char) :
    splitAt separator (first ++ separator :: second) =
      splitAt separator first ++ splitAt separator second := by
  induction first with
  | nil => simp [splitAt]
  | cons c first ih =>
    rw [List.cons_append, splitAt, splitAt, ih]
    by_cases hc : c = separator
    · rw [if_pos hc, if_pos hc, List.cons_append]
    · rw [if_neg hc, if_neg hc]
      -- the first piece grows by the character, and there is always a first piece
      cases hsplit : splitAt separator first with
      | nil => exact absurd hsplit (splitAt_ne_nil separator first)
      | cons piece pieces => rfl

/-- The words on the two sides of a space. -/
theorem words_append_space (first second : List Char) :
    words (first ++ ' ' :: second) = words first ++ words second := by
  rw [words, splitAt_append_separator, List.filter_append]
  rfl

/-- Spaces before a text do not matter to its words. -/
theorem words_spaces_append {spaces : List Char} (hspaces : ∀ c ∈ spaces, c = ' ')
    (text : List Char) : words (spaces ++ text) = words text := by
  induction spaces with
  | nil => rfl
  | cons c spaces ih =>
    obtain rfl := hspaces c List.mem_cons_self
    have hrest := ih fun d hd => hspaces d (List.mem_cons_of_mem _ hd)
    have hspace := words_append_space [] (spaces ++ text)
    rw [List.nil_append, words_nil, List.nil_append, hrest] at hspace
    exact hspace

/-- Spaces after a text do not matter to its words. -/
theorem words_append_spaces {spaces : List Char} (hspaces : ∀ c ∈ spaces, c = ' ')
    (text : List Char) : words (text ++ spaces) = words text := by
  cases spaces with
  | nil => rw [List.append_nil]
  | cons c spaces =>
    obtain rfl := hspaces c List.mem_cons_self
    have hrest := words_spaces_append (fun d hd => hspaces d (List.mem_cons_of_mem _ hd)) []
    rw [List.append_nil, words_nil] at hrest
    rw [words_append_space, hrest, List.append_nil]

/-- Words are found again after joining; pieces that are empty are lost. -/
theorem words_joinWith {pieces : List (List Char)} (hsolid : ∀ piece ∈ pieces, ' ' ∉ piece) :
    words (joinWith [' '] pieces) = pieces.filter fun piece => !piece.isEmpty := by
  by_cases hnone : pieces = []
  · rw [hnone]
    rfl
  · rw [words, splitAt_joinWith hnone hsolid]

/-- A character of joined pieces is in one of them or between two of them. -/
theorem mem_of_mem_joinWith {between : List Char} {pieces : List (List Char)} {c : Char}
    (hmem : c ∈ joinWith between pieces) : c ∈ between ∨ ∃ piece ∈ pieces, c ∈ piece := by
  induction pieces with
  | nil => cases hmem
  | cons piece rest ih =>
    by_cases hlast : rest = []
    · rw [hlast] at hmem
      exact .inr ⟨piece, List.mem_cons_self, hmem⟩
    · rw [joinWith_cons_of_ne_nil _ _ hlast, List.mem_append, List.mem_append] at hmem
      rcases hmem with (hpiece | hbetween) | hrest
      · exact .inr ⟨piece, List.mem_cons_self, hpiece⟩
      · exact .inl hbetween
      · rcases ih hrest with hbetween | ⟨other, hother, hc⟩
        · exact .inl hbetween
        · exact .inr ⟨other, List.mem_cons_of_mem _ hother, hc⟩

/-- Trimming keeps the words of a text in which every blank is a space. -/
@[simp] theorem words_trim {text : List Char} (hspaces : ∀ c ∈ text, isBlank c = true → c = ' ') :
    words (trim text) = words text := by
  obtain ⟨before, after, hbefore, hafter, htext⟩ := exists_blanks_trim text
  have hfirst : ∀ c ∈ before, c = ' ' := by
    intro c hc
    exact hspaces c (htext ▸ List.mem_append_left _ hc) (hbefore c hc)
  have hlast : ∀ c ∈ after, c = ' ' := by
    intro c hc
    refine hspaces c ?_ (hafter c hc)
    rw [htext]
    exact List.mem_append_right _ (List.mem_append_right _ hc)
  calc words (trim text)
      = words (trim text ++ after) := (words_append_spaces hlast _).symm
    _ = words (before ++ (trim text ++ after)) := (words_spaces_append hfirst _).symm
    _ = words text := by rw [← htext]

/-! ## Blanks of any kind -/

/-- What stands between the blanks of a text, in order. -/
def tokens (text : List Char) : List (List Char) :=
  (text.splitOnP isBlank).filter fun piece => !piece.isEmpty

@[simp] theorem tokens_nil : tokens [] = [] := by
  rw [tokens, List.splitOnP_nil]
  rfl

/-- A text without blanks is one token. -/
theorem tokens_of_solid {text : List Char} (hsome : text ≠ [])
    (hsolid : ∀ c ∈ text, isBlank c = false) : tokens text = [text] := by
  rw [tokens, List.splitOnP_eq_singleton hsolid, List.filter_cons_of_pos]
  · rfl
  · rwa [Bool.not_eq_true', List.isEmpty_eq_false_iff]

/-- The tokens on the two sides of a blank. -/
theorem tokens_append_blank {c : Char} (hblank : isBlank c = true) (first second : List Char) :
    tokens (first ++ c :: second) = tokens first ++ tokens second := by
  rw [tokens, List.splitOnP_append_cons first second hblank, List.filter_append]
  rfl

/-- Blanks before a text do not matter to its tokens. -/
theorem tokens_blanks_append {blanks : List Char} (hblanks : ∀ c ∈ blanks, isBlank c = true)
    (text : List Char) : tokens (blanks ++ text) = tokens text := by
  induction blanks with
  | nil => rfl
  | cons c blanks ih =>
    have hfirst := tokens_append_blank (hblanks c List.mem_cons_self) [] (blanks ++ text)
    rw [List.nil_append, tokens_nil, List.nil_append] at hfirst
    rw [List.cons_append, hfirst]
    exact ih fun d hd => hblanks d (List.mem_cons_of_mem _ hd)

/-- Blanks after a text do not matter to its tokens. -/
theorem tokens_append_blanks {blanks : List Char} (hblanks : ∀ c ∈ blanks, isBlank c = true)
    (text : List Char) : tokens (text ++ blanks) = tokens text := by
  cases blanks with
  | nil => rw [List.append_nil]
  | cons c blanks =>
    have hrest := tokens_blanks_append (fun d hd => hblanks d (List.mem_cons_of_mem _ hd)) []
    rw [List.append_nil, tokens_nil] at hrest
    rw [tokens_append_blank (hblanks c List.mem_cons_self), hrest, List.append_nil]

/-- Trimming keeps the tokens of a text. -/
@[simp] theorem tokens_trim (text : List Char) : tokens (trim text) = tokens text := by
  obtain ⟨before, after, hbefore, hafter, htext⟩ := exists_blanks_trim text
  calc tokens (trim text)
      = tokens (trim text ++ after) := (tokens_append_blanks hafter _).symm
    _ = tokens (before ++ (trim text ++ after)) := (tokens_blanks_append hbefore _).symm
    _ = tokens text := by rw [← htext]

/-- The tokens of joined pieces are those of the pieces. -/
theorem tokens_joinWith (pieces : List (List Char)) :
    tokens (joinWith [' '] pieces) = pieces.flatMap tokens := by
  induction pieces with
  | nil => exact tokens_nil
  | cons piece pieces ih =>
    by_cases hmore : pieces = []
    · rw [hmore, List.flatMap_singleton]
      rfl
    · rw [joinWith_cons_of_ne_nil _ _ hmore, List.append_assoc, List.singleton_append,
        tokens_append_blank rfl, ih, List.flatMap_cons]

end ChatSteward.Text
