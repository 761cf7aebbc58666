import ChatSteward.Command.Expression
import ChatSteward.Proofs.Event.Mentions
import ChatSteward.Proofs.Event.Removal
import ChatSteward.Proofs.Text.Padding

/-!
# Placeholders that stay

Placeholders are looked for between spaces alone, while a command line is trimmed and parsed with
blanks of every kind. So a placeholder next to another blank, such as the end of a line, belongs to
a longer piece and stays. Where each placeholder stands between spaces none is left, and stripping
the text again changes nothing.

## Main definitions

* `SetApart` — every placeholder of a text stands between spaces

## Main results

* `tokens_dropPlaceholders` — the tokens that are left are those of the pieces that are kept
* `stripMentions_stripMentions_iff` — when stripping again changes nothing
* `placeholders_set_apart_vanish` — no placeholder is left exactly where each is set apart
* `placeholder_stays_before_newline` — a placeholder at the end of a line stays
-/

namespace ChatSteward.Event

open Command (Expression)
open Text

/-- Whether every placeholder of a text stands between spaces, with no other blank next to it. -/
def SetApart (text : List Char) : Prop :=
  ∀ piece ∈ splitAt ' ' text, ∀ word ∈ tokens piece, IsPlaceholder word → word = piece

/-! ## Tokens -/

theorem tokens_of_isPlaceholder {word : List Char} (hplaceholder : IsPlaceholder word) :
    tokens word = [word] := by
  apply tokens_of_solid
  · obtain ⟨number, -, -, rfl⟩ := hplaceholder
    exact List.cons_ne_nil _ _
  · exact (Item.placeholder word hplaceholder).rest_solid

theorem tokens_splitAt (text : List Char) : tokens text = (splitAt ' ' text).flatMap tokens := by
  rw [← tokens_joinWith, joinWith_splitAt]

/-- The tokens that are left of a text are those of the pieces between spaces that are no
placeholders. -/
theorem tokens_dropPlaceholders (text : List Char) :
    tokens (trim (dropPlaceholders text)) =
      ((splitAt ' ' text).filter fun piece => !isPlaceholder piece).flatMap tokens := by
  rw [tokens_trim, dropPlaceholders, tokens_joinWith]

/-- No placeholder is left exactly if each of them is set apart. -/
theorem setApart_iff {text : List Char} :
    SetApart text ↔ ∀ word ∈ tokens (trim (dropPlaceholders text)), ¬ IsPlaceholder word := by
  rw [tokens_dropPlaceholders]
  constructor
  · intro hapart word hword hplaceholder
    obtain ⟨piece, hpiece, hmem⟩ := List.mem_flatMap.mp hword
    obtain ⟨hsplit, hkept⟩ := List.mem_filter.mp hpiece
    rw [hapart piece hsplit word hmem hplaceholder, ← isPlaceholder_iff] at hplaceholder
    simp [hplaceholder] at hkept
  · intro hnone piece hpiece word hword hplaceholder
    by_cases hwhole : IsPlaceholder piece
    · rw [tokens_of_isPlaceholder hwhole] at hword
      exact List.mem_singleton.mp hword
    · have hkept : (!isPlaceholder piece) = true := by
        rwa [Bool.not_eq_true', ← Bool.not_eq_true, isPlaceholder_iff]
      refine absurd hplaceholder (hnone word ?_)
      exact List.mem_flatMap.mpr ⟨piece, List.mem_filter.mpr ⟨hpiece, hkept⟩, hword⟩

/-! ## Stripping again -/

/-- Of a text without elements only placeholders are removed. -/
theorem stripMentions_of_not_holdsElement {text : String} (hnone : ¬ HoldsElement text.toList) :
    stripMentions text = String.ofList (trim (dropPlaceholders text.toList)) := by
  rw [stripMentions, removeElements_of_none (removeElement?_eq_none_iff.mpr hnone)]

/-- A trimmed text stays as it is exactly if no piece between its spaces is a placeholder. -/
theorem trim_dropPlaceholders_eq_iff {text : List Char} (htrimmed : trim text = text) :
    trim (dropPlaceholders text) = text ↔ ∀ piece ∈ splitAt ' ' text, ¬ IsPlaceholder piece := by
  constructor
  · intro heq piece hpiece hplaceholder
    -- the tokens of the pieces that are dropped would be none, but a placeholder is a token
    have hall := ((List.filter_append_perm (fun piece => !isPlaceholder piece)
      (splitAt ' ' text)).flatMap_right tokens).length_eq
    have hkept := congrArg (fun some => (tokens some).length) heq
    simp only [tokens_dropPlaceholders] at hkept
    rw [List.flatMap_append, List.length_append, hkept, tokens_splitAt text, Nat.add_eq_left,
      List.length_eq_zero_iff, List.flatMap_eq_nil_iff] at hall
    have hdropped : piece ∈ (splitAt ' ' text).filter fun piece => !!isPlaceholder piece := by
      rw [List.mem_filter, isPlaceholder_iff.mpr hplaceholder]
      exact ⟨hpiece, rfl⟩
    have hnone := hall piece hdropped
    rw [tokens_of_isPlaceholder hplaceholder] at hnone
    cases hnone
  · intro hplain
    rw [dropPlaceholders_of_plain hplain, htrimmed]

/-- Stripping again changes nothing exactly if no piece between spaces is a placeholder. -/
theorem stripMentions_stripMentions_iff (text : String) :
    stripMentions (stripMentions text) = stripMentions text ↔
      ∀ piece ∈ splitAt ' ' (stripMentions text).toList, ¬ IsPlaceholder piece := by
  have hnone : ¬ HoldsElement (stripMentions text).toList := by
    rw [stripMentions, String.toList_ofList]
    exact fun hholds => not_holdsElement_removeElements _ hholds.of_trim_dropPlaceholders
  have htrimmed : trim (stripMentions text).toList = (stripMentions text).toList := by
    rw [stripMentions, String.toList_ofList, trim_trim]
  rw [stripMentions_of_not_holdsElement hnone, ← trim_dropPlaceholders_eq_iff htrimmed,
    ← String.toList_inj, String.toList_ofList]

/-! ## Mentions before a command -/

/-- A placeholder with a space behind it does not matter to what follows. -/
theorem stripMentions_placeholder_append {mention : List Char} (hmention : IsPlaceholder mention)
    (line : List Char) :
    stripMentions (String.ofList (mention ++ ' ' :: line)) =
      stripMentions (String.ofList line) := by
  have hunopened : ¬ opening <:+: mention := (Item.placeholder mention hmention).rest_unopened
  have hsolid : ' ' ∉ mention := by
    intro hspace
    cases (Item.placeholder mention hmention).rest_solid ' ' hspace
  have hdropped : dropPlaceholders (mention ++ ' ' :: removeElements line) =
      dropPlaceholders (removeElements line) := by
    rw [dropPlaceholders, dropPlaceholders, splitAt_append_cons hsolid, List.filter_cons_of_neg]
    simp [isPlaceholder_iff.mpr hmention]
  rw [stripMentions, stripMentions, String.toList_ofList, String.toList_ofList,
    removeElements_append_space hunopened, hdropped]

/-- An element does not matter to what follows, whatever stands behind it. -/
theorem stripMentions_element_append {mention : List Char} (hmention : IsElement mention)
    (line : List Char) :
    stripMentions (String.ofList (mention ++ line)) = stripMentions (String.ofList line) := by
  rw [stripMentions, stripMentions, String.toList_ofList, String.toList_ofList,
    removeElements_of_some (removeElement?_element hmention line)]

/-! ## What is left -/

/-- No token of what is left of a message is a placeholder exactly if every placeholder of the
message without its elements stands between spaces. Then stripping again changes nothing; in
general it does so exactly if no piece between the spaces is a placeholder. A command is what it is
alone when a placeholder and a space come before it, or an element and anything. -/
theorem placeholders_set_apart_vanish (text : String) :
    ((∀ word ∈ tokens (stripMentions text).toList, ¬ IsPlaceholder word) ↔
      SetApart (removeElements text.toList)) ∧
    (SetApart (removeElements text.toList) →
      stripMentions (stripMentions text) = stripMentions text) ∧
    (stripMentions (stripMentions text) = stripMentions text ↔
      ∀ piece ∈ splitAt ' ' (stripMentions text).toList, ¬ IsPlaceholder piece) ∧
    (∀ mention, IsPlaceholder mention →
      stripMentions (String.ofList (mention ++ ' ' :: text.toList)) = stripMentions text) ∧
    ∀ mention, IsElement mention →
      stripMentions (String.ofList (mention ++ text.toList)) = stripMentions text := by
  have hleft : (∀ word ∈ tokens (stripMentions text).toList, ¬ IsPlaceholder word) ↔
      SetApart (removeElements text.toList) := by
    rw [setApart_iff, stripMentions, String.toList_ofList]
  refine ⟨hleft, ?_, stripMentions_stripMentions_iff text, ?_, ?_⟩
  · intro hapart
    rw [stripMentions_stripMentions_iff]
    intro piece hpiece hplaceholder
    -- a placeholder between spaces would be a token
    refine hleft.mpr hapart piece ?_ hplaceholder
    rw [tokens_splitAt]
    refine List.mem_flatMap.mpr ⟨piece, hpiece, ?_⟩
    rw [tokens_of_isPlaceholder hplaceholder]
    exact List.mem_singleton_self piece
  · intro mention hmention
    rw [stripMentions_placeholder_append hmention, String.ofList_toList]
  · intro mention hmention
    rw [stripMentions_element_append hmention, String.ofList_toList]

/-- A message with a tab in its command and a placeholder that is set apart. -/
theorem placeholders_set_apart_vanish_grant :
    (∀ word ∈ tokens (stripMentions "grant\tou_7 @_user_1").toList, ¬ IsPlaceholder word) ∧
      stripMentions (stripMentions "grant\tou_7 @_user_1") = stripMentions "grant\tou_7 @_user_1" ∧
      stripMentions (String.ofList ("@_user_2".toList ++ ' ' :: "grant\tou_7 @_user_1".toList)) =
        stripMentions "grant\tou_7 @_user_1" ∧
      stripMentions (String.ofList ("<at>A</at>".toList ++ "grant\tou_7 @_user_1".toList)) =
        stripMentions "grant\tou_7 @_user_1" := by
  obtain ⟨hleft, hagain, -, hplaceholder, helement⟩ :=
    placeholders_set_apart_vanish "grant\tou_7 @_user_1"
  have hapart : SetApart (removeElements "grant\tou_7 @_user_1".toList) := by
    rw [removeElements_of_none rfl]
    unfold SetApart
    decide
  exact ⟨hleft.mpr hapart, hagain hapart, hplaceholder _ (by decide), helement _ (by decide)⟩

/-- A placeholder at the end of a line stays, though it is a token of its own. With one more
placeholder behind it stripping again removes it, and a command on the next line is not parsed. -/
theorem placeholder_stays_before_newline :
    (∃ word ∈ tokens (stripMentions "@_user_1\nhelp").toList, IsPlaceholder word) ∧
      stripMentions (stripMentions "@_user_1\n @_user_2") ≠ stripMentions "@_user_1\n @_user_2" ∧
      Expression.parse (stripMentions "@_user_1 help") = .ok ⟨"help", []⟩ ∧
      Expression.parse (stripMentions "@_user_1\nhelp") = .error .unknownExpression := by
  have hcommand : stripMentions "@_user_1\nhelp" = "@_user_1\nhelp" := by
    rw [stripMentions, removeElements_of_none rfl]
    decide
  have hspaced : stripMentions "@_user_1 help" = "help" := by
    rw [stripMentions, removeElements_of_none rfl]
    decide
  have honce : stripMentions "@_user_1\n @_user_2" = "@_user_1" := by
    rw [stripMentions, removeElements_of_none rfl]
    decide
  have htwice : stripMentions "@_user_1" = "" := by
    rw [stripMentions, removeElements_of_none rfl]
    decide
  rw [hcommand, hspaced, honce, htwice]
  refine ⟨⟨"@_user_1".toList, ?_, ?_⟩, ?_, ?_, ?_⟩
  · decide
  · decide
  · decide
  · decide +kernel
  · decide +kernel

end ChatSteward.Event
