import ChatSteward.Proofs.Event.Elements
import Mathlib.Data.List.Chain
import Mathlib.Logic.Relation

/-!
# The loop that removes elements

One removal takes the element at the first opening mark of a text, and what stood on its two sides
comes together. This can bring about a mark that was not there before, so the loop looks at the
whole text again. It ends because an element is at least as long as its two marks, and it stops
only where no closing mark follows an opening one.

Placeholders are removed afterwards as whole pieces between spaces, and a space stays between any
two pieces that are left. No mark holds a space, so this brings no mark about, and the order of the
marks stays as it is.

## Main definitions

* `Removes` — one removal
* `HoldsElement` — an opening mark with a closing mark somewhere behind it

## Main results

* `removes_iff`, `removeElement?_eq_none_iff` — what is removed, and when nothing is
* `length_chain_le` — removals one after the other are few
* `HoldsElement.of_sublist` — leaving out pieces between spaces brings no element about
* `no_element_survives` — the loop ends, and no element is left of a text without mentions
-/

namespace ChatSteward.Event

open Text (joinWith trim)

/-- One removal: the element at the first opening mark goes. The mark occurs at the end of what
stands up to and including it, and nowhere before. -/
inductive Removes : List Char → List Char → Prop where
  | first {before element after : List Char} (helement : IsElement element)
      (hfirst : ∀ front behind, before ++ opening = front ++ opening ++ behind → behind = []) :
      Removes (before ++ element ++ after) (before ++ after)

/-- Whether an opening mark of a text has a closing mark somewhere behind it. -/
def HoldsElement (text : List Char) : Prop :=
  ∃ before inner after, text = before ++ opening ++ inner ++ closing ++ after

/-! ## Marks in parts of a text -/

/-- A text holds an element if it falls into two parts with a mark in each. -/
theorem holdsElement_iff {text : List Char} :
    HoldsElement text ↔ ∃ front back, text = front ++ back ∧ opening <:+: front ∧
      closing <:+: back := by
  constructor
  · rintro ⟨before, inner, after, rfl⟩
    refine ⟨before ++ opening, inner ++ closing ++ after, ?_, ?_, ?_⟩
    · simp only [List.append_assoc]
    · exact (List.suffix_append before opening).isInfix
    · exact ⟨inner, after, rfl⟩
  · rintro ⟨_, _, rfl, ⟨before, first, rfl⟩, ⟨second, after, rfl⟩⟩
    refine ⟨before, first ++ second, after, ?_⟩
    simp only [List.append_assoc]

/-- A text holds the elements of its parts. -/
theorem HoldsElement.of_part {part text : List Char} (hholds : HoldsElement part)
    (hpart : part <:+: text) : HoldsElement text := by
  obtain ⟨before, inner, after, rfl⟩ := hholds
  obtain ⟨front, behind, rfl⟩ := hpart
  refine ⟨front ++ before, inner, after ++ behind, ?_⟩
  simp only [List.append_assoc]

/-- No closing mark starts within an opening one. -/
theorem closing_infix_of_append {rest : List Char} (hcloses : closing <:+: opening ++ rest) :
    closing <:+: rest := by
  have hstart (c : Char) (behind : List Char) (hc : c ≠ '<' ∨ behind.head? ≠ some '/')
      (hcontains : closing <:+: c :: behind) : closing <:+: behind := by
    rcases List.infix_cons_iff.mp hcontains with ⟨after, heq⟩ | hbehind
    · rw [closing, List.cons_append, List.cons_append] at heq
      obtain ⟨rfl, rfl⟩ := List.cons.inj heq
      simp at hc
    · exact hbehind
  rw [opening, List.cons_append, List.cons_append, List.cons_append, List.nil_append] at hcloses
  have hsecond := hstart _ _ (.inr (by simp)) hcloses
  have hthird := hstart _ _ (.inl (by decide)) hsecond
  exact hstart _ _ (.inl (by decide)) hthird

section

variable {mark first second : List Char} {separator : Char}

/-- A mark that holds no separator occurs on one side of it. -/
theorem infix_append_separator_iff (habsent : separator ∉ mark) :
    mark <:+: first ++ separator :: second ↔ mark <:+: first ∨ mark <:+: second := by
  by_cases hfirst : mark <:+: first
  · have hwhole : mark <:+: first ++ separator :: second :=
      hfirst.trans (List.prefix_append _ _).isInfix
    exact iff_of_true hwhole (.inl hfirst)
  · have hfound := breakAt_append_separator hfirst habsent second
    have hnone : breakAt mark (first ++ separator :: second) = none ↔
        breakAt mark second = none := by
      rw [hfound, Option.map_eq_none_iff]
    rw [breakAt_eq_none_iff, breakAt_eq_none_iff, not_iff_not] at hnone
    rw [hnone, or_iff_right hfirst]

theorem eq_nil_of_eq_append {before behind : List Char} (heq : mark = before ++ mark ++ behind) :
    behind = [] := by
  have hlength := congrArg List.length heq
  simp only [List.length_append] at hlength
  exact List.length_eq_zero_iff.mp (by omega)

/-- Where a mark is found it occurs for the first time. -/
theorem eq_nil_of_breakAt {text before found : List Char}
    (hbreak : breakAt mark text = some (before, found)) :
    ∀ front behind, before ++ mark = front ++ mark ++ behind → behind = [] := by
  intro front behind heq
  induction text generalizing before found front with
  | nil =>
    obtain ⟨rfl, rfl⟩ := List.append_eq_nil_iff.mp (breakAt_append hbreak)
    exact eq_nil_of_eq_append heq
  | cons c rest ih =>
    by_cases hstarts : mark <+: c :: rest
    · rw [breakAt_of_starts hstarts] at hbreak
      cases hbreak
      exact eq_nil_of_eq_append heq
    · rw [breakAt_cons_of_not_starts hstarts] at hbreak
      obtain ⟨⟨inner, found'⟩, hinner, hpair⟩ := Option.map_eq_some_iff.mp hbreak
      cases hpair
      cases front with
      | nil =>
        -- the mark would start the text
        refine absurd ?_ hstarts
        have hwhole : c :: (inner ++ mark) <+: c :: rest := by
          rw [← breakAt_append hinner]
          exact (List.prefix_append_right_inj (c :: inner)).mpr (breakAt_starts hinner)
        exact List.IsPrefix.trans ⟨behind, heq.symm⟩ hwhole
      | cons d front => exact ih hinner front (List.cons.inj heq).2

/-- The first occurrence of a mark stays the first when a text goes on. -/
theorem breakAt_append_right {text before found : List Char}
    (hbreak : breakAt mark text = some (before, found)) (behind : List Char) :
    breakAt mark (text ++ behind) = some (before, found ++ behind) := by
  obtain ⟨after, rfl⟩ := breakAt_starts hbreak
  have hfirst := breakAt_of_first (eq_nil_of_breakAt hbreak) (after ++ behind)
  rwa [List.append_assoc, ← List.append_assoc mark, ← List.append_assoc before,
    breakAt_append hbreak] at hfirst

end

/-! ## One removal -/

/-- An element is at least as long as its two marks. -/
theorem IsElement.length_le {element : List Char} (helement : IsElement element) :
    opening.length + closing.length ≤ element.length := by
  obtain ⟨rest, rfl⟩ := helement.starts
  have hcloses := (closing_infix_of_append helement.ends.isInfix).length_le
  rw [List.length_append]
  omega

/-- What is removed depends on what stands from the first opening mark on. -/
theorem removeElement?_of_opening {text before found : List Char}
    (hopen : breakAt opening text = some (before, found)) :
    removeElement? text = (removeElement? found).map (before ++ ·) := by
  have hfound := breakAt_of_starts (breakAt_starts hopen)
  cases hclose : breakAt closing found with
  | none => simp only [removeElement?, hopen, hfound, hclose, Option.map_none]
  | some pair => simp only [removeElement?, hopen, hfound, hclose, Option.map_some, List.nil_append]

/-- From an opening mark to the first closing mark a text is one element. -/
theorem isElement_of_breakAt {found inner tail : List Char} (hstarts : opening <+: found)
    (hclose : breakAt closing found = some (inner, tail)) : IsElement (inner ++ closing) := by
  have hprefix : inner ++ closing <+: found := by
    rw [← breakAt_append hclose]
    exact (List.prefix_append_right_inj inner).mpr (breakAt_starts hclose)
  refine ⟨?_, List.suffix_append _ _, eq_nil_of_breakAt hclose⟩
  apply List.prefix_of_prefix_length_le hstarts hprefix
  rw [List.length_append]
  exact Nat.le_add_left_of_le (by decide)

/-- The removal of an element is one that takes the first element and nothing else. -/
theorem removes_iff {text rest : List Char} :
    Removes text rest ↔ removeElement? text = some rest := by
  constructor
  · intro hremoves
    cases hremoves with
    | @first before element after helement hfirst =>
      obtain ⟨inner, hinner⟩ := helement.starts
      have hopen : breakAt opening (before ++ element ++ after) =
          some (before, element ++ after) := by
        have hfound := breakAt_of_first hfirst (inner ++ after)
        rwa [List.append_assoc, ← List.append_assoc opening, hinner, ← List.append_assoc] at hfound
      rw [removeElement?_of_opening hopen, removeElement?_element helement]
      rfl
  · intro hremove
    cases hopen : breakAt opening text with
    | none =>
      rw [removeElement?_of_absent (breakAt_eq_none_iff.mp hopen)] at hremove
      cases hremove
    | some pair =>
      obtain ⟨before, found⟩ := pair
      rw [removeElement?, hopen] at hremove
      obtain ⟨⟨inner, tail⟩, hclose, hrest⟩ := Option.map_eq_some_iff.mp hremove
      obtain ⟨after, rfl⟩ := breakAt_starts hclose
      have hremoves : Removes (before ++ (inner ++ closing) ++ after) (before ++ after) :=
        .first (isElement_of_breakAt (breakAt_starts hopen) hclose) (eq_nil_of_breakAt hopen)
      rw [List.append_assoc, List.append_assoc inner, breakAt_append hclose,
        breakAt_append hopen] at hremoves
      simp only [List.drop_left] at hrest
      rwa [← hrest]

/-- Nothing is removed exactly if no closing mark follows an opening one. -/
@[simp] theorem removeElement?_eq_none_iff {text : List Char} :
    removeElement? text = none ↔ ¬ HoldsElement text := by
  cases hopen : breakAt opening text with
  | none =>
    have habsent := breakAt_eq_none_iff.mp hopen
    refine iff_of_true (removeElement?_of_absent habsent) ?_
    rintro ⟨before, inner, after, rfl⟩
    refine habsent ⟨before, inner ++ closing ++ after, ?_⟩
    simp only [List.append_assoc]
  | some pair =>
    obtain ⟨before, found⟩ := pair
    have hcloses : HoldsElement text ↔ closing <:+: found := by
      rw [holdsElement_iff]
      constructor
      · rintro ⟨front, back, rfl, hfront, hback⟩
        -- the first opening mark of the text is the first one of its front
        obtain ⟨⟨before', found'⟩, hfirst⟩ : ∃ pair, breakAt opening front = some pair := by
          apply Option.ne_none_iff_exists'.mp
          exact fun hnone => breakAt_eq_none_iff.mp hnone hfront
        rw [breakAt_append_right hfirst] at hopen
        cases hopen
        exact hback.trans (List.suffix_append _ _).isInfix
      · intro hclosing
        obtain ⟨rest, rfl⟩ := breakAt_starts hopen
        refine ⟨before ++ opening, rest, ?_, ?_, closing_infix_of_append hclosing⟩
        · rw [List.append_assoc, breakAt_append hopen]
        · exact (List.suffix_append _ _).isInfix
    rw [hcloses, removeElement?, hopen, ← breakAt_eq_none_iff]
    exact Option.map_eq_none_iff

/-! ## The loop -/

/-- A removal takes at least as much as two marks. -/
theorem Removes.length_le {text rest : List Char} (hremoves : Removes text rest) :
    opening.length + closing.length + rest.length ≤ text.length := by
  cases hremoves with
  | first helement _ =>
    have hlength := helement.length_le
    simp only [List.length_append]
    omega

/-- Removals one after the other are few. -/
theorem length_chain_le {text : List Char} {rests : List (List Char)}
    (hchain : List.IsChain Removes (text :: rests)) :
    (opening.length + closing.length) * rests.length ≤ text.length := by
  induction rests generalizing text with
  | nil => exact Nat.zero_le _
  | cons rest rests ih =>
    obtain ⟨hremoves, hmore⟩ := List.isChain_cons_cons.mp hchain
    have hfirst := hremoves.length_le
    have hothers := ih hmore
    rw [List.length_cons, Nat.mul_succ]
    omega

/-- The loop makes removals one after the other. -/
theorem removeElements_reached (text : List Char) :
    Relation.ReflTransGen Removes text (removeElements text) := by
  induction text using removeElements.induct with
  | case1 text hnone =>
    rw [removeElements_of_none hnone]
  | case2 text rest hsome ih =>
    rw [removeElements_of_some hsome]
    exact .head (removes_iff.mpr hsome) ih

/-- Where the loop stops, no closing mark follows an opening one. -/
theorem not_holdsElement_removeElements (text : List Char) :
    ¬ HoldsElement (removeElements text) := by
  induction text using removeElements.induct with
  | case1 text hnone =>
    rw [removeElements_of_none hnone]
    exact removeElement?_eq_none_iff.mp hnone
  | case2 text rest hsome ih => rwa [removeElements_of_some hsome]

/-! ## The pieces between spaces -/

/-- An element begins and ends on the same side of a space, or reaches over it. -/
theorem holdsElement_append_space_iff {first second : List Char} :
    HoldsElement (first ++ ' ' :: second) ↔
      HoldsElement first ∨ HoldsElement second ∨ opening <:+: first ∧ closing <:+: second := by
  have hopening : ' ' ∉ opening := by decide
  have hclosing : ' ' ∉ closing := by decide
  constructor
  · rw [holdsElement_iff]
    rintro ⟨front, back, heq, hfront, hback⟩
    rcases List.append_eq_append_iff.mp heq with ⟨between, rfl, hrest⟩ | ⟨between, rfl, rfl⟩
    · rcases List.cons_eq_append_iff.mp hrest with ⟨rfl, rfl⟩ | ⟨between, rfl, rfl⟩
      · rw [List.append_nil] at hfront
        have hback' : closing <:+: [] ++ ' ' :: second := hback
        rcases (infix_append_separator_iff hclosing).mp hback' with hnone | hsecond
        · cases List.infix_nil.mp hnone
        · exact .inr (.inr ⟨hfront, hsecond⟩)
      · rcases (infix_append_separator_iff hopening).mp hfront with hfirst | hsecond
        · exact .inr (.inr ⟨hfirst, hback.trans (List.suffix_append _ _).isInfix⟩)
        · exact .inr (.inl (holdsElement_iff.mpr ⟨between, back, rfl, hsecond, hback⟩))
    · rcases (infix_append_separator_iff hclosing).mp hback with hfirst | hsecond
      · exact .inl (holdsElement_iff.mpr ⟨front, between, rfl, hfront, hfirst⟩)
      · exact .inr (.inr ⟨hfront.trans (List.prefix_append _ _).isInfix, hsecond⟩)
  · have hsuffix : second <:+ first ++ ' ' :: second :=
      (List.suffix_cons _ _).trans (List.suffix_append _ _)
    rintro (hfirst | hsecond | ⟨hfirst, hsecond⟩)
    · exact hfirst.of_part (List.prefix_append _ _).isInfix
    · exact hsecond.of_part hsuffix.isInfix
    · refine holdsElement_iff.mpr ⟨first, ' ' :: second, rfl, hfirst, ?_⟩
      exact hsecond.trans (List.suffix_cons _ _).isInfix

theorem joinWith_space_cons {pieces : List (List Char)} (hmore : pieces ≠ []) (piece : List Char) :
    joinWith [' '] (piece :: pieces) = piece ++ ' ' :: joinWith [' '] pieces := by
  rw [Text.joinWith_cons_of_ne_nil _ _ hmore, List.append_assoc, List.singleton_append]

theorem prefix_joinWith_cons (between piece : List Char) (pieces : List (List Char)) :
    piece <+: joinWith between (piece :: pieces) := by
  cases pieces with
  | nil => exact List.prefix_rfl
  | cons next rest => exact ⟨between ++ joinWith between (next :: rest), by simp [joinWith]⟩

theorem suffix_joinWith_cons (between piece : List Char) (pieces : List (List Char)) :
    joinWith between pieces <:+ joinWith between (piece :: pieces) := by
  cases pieces with
  | nil => exact List.nil_suffix
  | cons next rest => exact List.suffix_append _ _

/-- A mark occurs in one of the pieces between the spaces. -/
theorem infix_joinWith_iff {mark : List Char} (hsome : mark ≠ []) (habsent : ' ' ∉ mark)
    {pieces : List (List Char)} :
    mark <:+: joinWith [' '] pieces ↔ ∃ piece ∈ pieces, mark <:+: piece := by
  induction pieces with
  | nil => simp [joinWith, hsome]
  | cons piece pieces ih =>
    by_cases hmore : pieces = []
    · simp [hmore, joinWith]
    · rw [joinWith_space_cons hmore, infix_append_separator_iff habsent, ih]
      simp only [List.mem_cons, exists_eq_or_imp]

/-- Leaving out pieces between spaces brings no element about. -/
theorem HoldsElement.of_sublist {kept pieces : List (List Char)} (hkept : kept.Sublist pieces)
    (hholds : HoldsElement (joinWith [' '] kept)) : HoldsElement (joinWith [' '] pieces) := by
  induction hkept with
  | slnil => exact hholds
  | cons piece _ ih => exact (ih hholds).of_part (suffix_joinWith_cons _ piece _).isInfix
  | @cons_cons kept pieces piece hrest ih =>
    by_cases hnone : kept = []
    · rw [hnone] at hholds
      exact hholds.of_part (prefix_joinWith_cons _ piece _).isInfix
    · have hmore : pieces ≠ [] := by
        rintro rfl
        exact hnone (List.sublist_nil.mp hrest)
      rw [joinWith_space_cons hnone, holdsElement_append_space_iff] at hholds
      rw [joinWith_space_cons hmore, holdsElement_append_space_iff]
      rcases hholds with hpiece | hothers | ⟨hopening, hclosing⟩
      · exact .inl hpiece
      · exact .inr (.inl (ih hothers))
      · -- the closing mark is in a piece that is kept, and it stood behind the first piece before
        obtain ⟨last, hlast, hin⟩ := (infix_joinWith_iff (by decide) (by decide)).mp hclosing
        refine .inr (.inr ⟨hopening, (infix_joinWith_iff (by decide) (by decide)).mpr ?_⟩)
        exact ⟨last, hrest.subset hlast, hin⟩

/-- The removal of placeholders and of the blanks at the ends brings no element about. -/
theorem HoldsElement.of_trim_dropPlaceholders {text : List Char}
    (hholds : HoldsElement (trim (dropPlaceholders text))) : HoldsElement text := by
  obtain ⟨front, behind, -, -, htext⟩ := Text.exists_blanks_trim (dropPlaceholders text)
  have hdropped : HoldsElement (dropPlaceholders text) := by
    refine hholds.of_part ⟨front, behind, ?_⟩
    rw [List.append_assoc, ← htext]
  have hjoined := HoldsElement.of_sublist List.filter_sublist hdropped
  rwa [Text.joinWith_splitAt] at hjoined

/-! ## What is left -/

/-- The loop ends, as each removal takes at least the eight characters of two marks; its result
holds no opening mark with a closing mark behind it, and neither does the text that is left without
placeholders and blanks at its ends. -/
theorem no_element_survives (text : String) :
    (∀ rests, List.IsChain Removes (text.toList :: rests) →
      8 * rests.length ≤ text.toList.length) ∧
    Relation.ReflTransGen Removes text.toList (removeElements text.toList) ∧
    ¬ HoldsElement (removeElements text.toList) ∧
    ¬ HoldsElement (stripMentions text).toList := by
  have hloop := not_holdsElement_removeElements text.toList
  refine ⟨fun rests hchain => length_chain_le hchain, removeElements_reached _, hloop, ?_⟩
  rw [stripMentions, String.toList_ofList]
  exact fun hholds => hloop hholds.of_trim_dropPlaceholders

/-- A removal whose two sides make up a new element, which is removed in turn. -/
theorem no_element_survives_nested :
    List.IsChain Removes ["<a<at>x</at>t>y</at>!".toList, "<at>y</at>!".toList, "!".toList] ∧
      8 * 2 ≤ "<a<at>x</at>t>y</at>!".toList.length ∧
      ¬ HoldsElement (stripMentions "<a<at>x</at>t>y</at>!").toList := by
  have hchain : List.IsChain Removes
      ["<a<at>x</at>t>y</at>!".toList, "<at>y</at>!".toList, "!".toList] := by
    simp only [List.isChain_cons_cons, List.isChain_singleton, and_true, removes_iff]
    decide
  have hnone := no_element_survives "<a<at>x</at>t>y</at>!"
  exact ⟨hchain, hnone.1 _ hchain, hnone.2.2.2⟩

end ChatSteward.Event
