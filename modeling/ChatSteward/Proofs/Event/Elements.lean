import ChatSteward.Event.Mention

/-!
# The removal of elements

An element of a text starts with the opening mark and ends with the first closing mark that
follows it. No mark holds a space, so a piece of text without an opening mark that a space ends
stands apart: elements are found and removed behind it as if it were not there, and the removal
brings no new mark about. An element at the front of a text is removed as a whole, whatever it
holds and whatever follows it.

## Main definitions

* `IsElement` — a text that is one element

## Main results

* `breakAt_eq_none_iff`, `breakAt_append_separator`, `breakAt_of_first` — where a mark is found
* `removeElement?_element` — an element at the front is the one that is removed
* `removeElements_append_space` — a piece without an opening mark stands apart
-/

namespace ChatSteward.Event

/-- Whether a text is one element: it starts with the opening mark, and the closing mark occurs at
its end and nowhere before. -/
structure IsElement (text : List Char) : Prop where
  starts : opening <+: text
  ends : closing <:+ text
  only : ∀ before after, text = before ++ closing ++ after → after = []

/-- The closing mark occurs nowhere before the end: at none of the places where something would
stand behind it. -/
theorem isElement_iff {text : List Char} :
    IsElement text ↔
      opening <+: text ∧ closing <:+ text ∧
        ∀ n < text.length - closing.length, ¬ closing <+: text.drop n := by
  constructor
  · intro helement
    refine ⟨helement.starts, helement.ends, ?_⟩
    rintro n hn ⟨after, hafter⟩
    have htext : text = text.take n ++ closing ++ after := by
      rw [List.append_assoc, hafter, List.take_append_drop]
    have hlength := congrArg List.length hafter
    rw [helement.only _ _ htext, List.append_nil, List.length_drop] at hlength
    omega
  · rintro ⟨hstarts, hends, hnowhere⟩
    refine ⟨hstarts, hends, ?_⟩
    intro before after htext
    cases after with
    | nil => rfl
    | cons c after =>
      refine absurd ?_ (hnowhere before.length ?_)
      · rw [htext, List.append_assoc, List.drop_left]
        exact List.prefix_append _ _
      · rw [htext, List.length_append, List.length_append, List.length_cons]
        omega

instance (text : List Char) : Decidable (IsElement text) :=
  decidable_of_iff' _ isElement_iff

/-! ## Where a mark is found -/

section

variable {mark first second : List Char} {separator : Char}

/-- A mark that holds no separator and starts a text ends before the first separator. -/
theorem prefix_of_append_separator (habsent : separator ∉ mark)
    (hstarts : mark <+: first ++ separator :: second) : mark <+: first := by
  have hfront : first ++ [separator] <+: first ++ separator :: second :=
    ⟨second, by rw [List.append_assoc, List.singleton_append]⟩
  rcases List.prefix_or_prefix_of_prefix hstarts hfront with hshort | hlong
  · rcases List.prefix_concat_iff.mp hshort with heq | hwithin
    · rw [heq] at habsent
      exact absurd (List.mem_append_right _ List.mem_cons_self) habsent
    · exact hwithin
  · exact absurd (hlong.subset (List.mem_append_right _ List.mem_cons_self)) habsent

theorem breakAt_of_starts {text : List Char} (hstarts : mark <+: text) :
    breakAt mark text = some ([], text) := by
  cases text with
  | nil =>
    rw [breakAt, if_pos]
    rw [List.isEmpty_iff]
    exact List.prefix_nil.mp hstarts
  | cons c rest =>
    rw [breakAt, if_pos]
    exact List.isPrefixOf_iff_prefix.mpr hstarts

theorem breakAt_cons_of_not_starts {c : Char} {rest : List Char}
    (hstarts : ¬ mark <+: c :: rest) :
    breakAt mark (c :: rest) = (breakAt mark rest).map fun found => (c :: found.1, found.2) := by
  rw [breakAt, if_neg]
  rwa [List.isPrefixOf_iff_prefix]

/-- A mark is not found exactly if it does not occur. -/
@[simp] theorem breakAt_eq_none_iff {text : List Char} :
    breakAt mark text = none ↔ ¬ mark <:+: text := by
  induction text with
  | nil =>
    rw [List.infix_nil, breakAt]
    cases mark <;> simp
  | cons c rest ih =>
    rw [List.infix_cons_iff, not_or]
    by_cases hstarts : mark <+: c :: rest
    · rw [breakAt_of_starts hstarts]
      simp [hstarts]
    · rw [breakAt_cons_of_not_starts hstarts, Option.map_eq_none_iff, ih]
      simp [hstarts]

/-- A mark is found behind a piece where it does not occur as if the piece were not there. -/
theorem breakAt_append_separator (hfree : ¬ mark <:+: first) (habsent : separator ∉ mark)
    (second : List Char) :
    breakAt mark (first ++ separator :: second) =
      (breakAt mark second).map fun found => (first ++ separator :: found.1, found.2) := by
  -- the mark starts nowhere in the piece, as it would end there too
  induction first with
  | nil =>
    have hstarts : ¬ mark <+: [] ++ separator :: second := by
      intro hstarts
      exact hfree (prefix_of_append_separator habsent hstarts).isInfix
    exact breakAt_cons_of_not_starts hstarts
  | cons c first ih =>
    have hstarts : ¬ mark <+: c :: (first ++ separator :: second) := by
      intro hstarts
      rw [← List.cons_append] at hstarts
      exact hfree (prefix_of_append_separator habsent hstarts).isInfix
    rw [List.infix_cons_iff, not_or] at hfree
    rw [List.cons_append, breakAt_cons_of_not_starts hstarts, ih hfree.2, Option.map_map]
    rfl

/-- A mark that occurs at the end of a piece and nowhere before is found there. -/
theorem breakAt_of_first {before : List Char}
    (honly : ∀ front rest, before ++ mark = front ++ mark ++ rest → rest = [])
    (after : List Char) :
    breakAt mark (before ++ mark ++ after) = some (before, mark ++ after) := by
  induction before with
  | nil => exact breakAt_of_starts (List.prefix_append mark after)
  | cons c before ih =>
    have hstarts : ¬ mark <+: c :: (before ++ mark ++ after) := by
      intro hstarts
      -- the mark would fit into the piece and end before its end
      have hwithin : mark <+: c :: before ++ mark := by
        apply List.prefix_of_prefix_length_le hstarts ⟨after, rfl⟩
        rw [List.length_append]
        exact Nat.le_add_left _ _
      obtain ⟨rest, hrest⟩ := hwithin
      have hlength := congrArg List.length hrest
      rw [honly [] rest hrest.symm, List.length_append, List.length_append, List.length_cons]
        at hlength
      simp only [List.length_nil] at hlength
      omega
    have hnext : ∀ front rest, before ++ mark = front ++ mark ++ rest → rest = [] := by
      intro front rest heq
      apply honly (c :: front) rest
      rw [List.cons_append, heq]
      rfl
    rw [List.cons_append, List.cons_append, breakAt_cons_of_not_starts hstarts, ih hnext]
    rfl

end

/-! ## The removal of one element -/

theorem removeElement?_of_absent {text : List Char} (habsent : ¬ opening <:+: text) :
    removeElement? text = none := by
  rw [removeElement?, breakAt_eq_none_iff.mpr habsent]

/-- Behind a piece without an opening mark the same element is removed as without the piece. -/
theorem removeElement?_append_space {first : List Char} (hfree : ¬ opening <:+: first)
    (second : List Char) :
    removeElement? (first ++ ' ' :: second) =
      (removeElement? second).map fun rest => first ++ ' ' :: rest := by
  rw [removeElement?, removeElement?, breakAt_append_separator hfree (by decide)]
  cases breakAt opening second with
  | none => rfl
  | some found =>
    obtain ⟨before, found⟩ := found
    simp only [Option.map_some, Option.map_map]
    congr 1
    funext ⟨_, rest⟩
    exact List.append_assoc _ _ _

/-- An element at the front is the one that is removed. -/
theorem removeElement?_element {element : List Char} (helement : IsElement element)
    (after : List Char) : removeElement? (element ++ after) = some after := by
  have hopening : opening <+: element ++ after :=
    helement.starts.trans (List.prefix_append element after)
  obtain ⟨inner, hinner⟩ := helement.ends
  have hclosing : breakAt closing (element ++ after) = some (inner, closing ++ after) := by
    rw [← hinner]
    apply breakAt_of_first
    rw [hinner]
    exact helement.only
  rw [removeElement?, breakAt_of_starts hopening]
  simp only [hclosing, Option.map_some, List.drop_left, List.nil_append]

/-! ## The removal of all elements -/

theorem removeElements_of_none {text : List Char} (hnone : removeElement? text = none) :
    removeElements text = text := by
  rw [removeElements]
  split
  case h_1 => rfl
  case h_2 rest hrest => cases hnone.symm.trans hrest

theorem removeElements_of_some {text rest : List Char} (hremove : removeElement? text = some rest) :
    removeElements text = removeElements rest := by
  rw [removeElements]
  split
  case h_1 hnone => cases hnone.symm.trans hremove
  case h_2 rest' hrest => rw [Option.some.inj (hrest.symm.trans hremove)]

/-- A text without an opening mark stays as it is. -/
theorem removeElements_of_absent {text : List Char} (habsent : ¬ opening <:+: text) :
    removeElements text = text :=
  removeElements_of_none (removeElement?_of_absent habsent)

/-- A piece without an opening mark stands apart: the elements behind it are removed as if it were
not there. -/
theorem removeElements_append_space {first : List Char} (hfree : ¬ opening <:+: first)
    (second : List Char) :
    removeElements (first ++ ' ' :: second) = first ++ ' ' :: removeElements second := by
  -- induction on the removals that are left
  induction second using removeElements.induct with
  | case1 second hnone =>
    have hboth : removeElement? (first ++ ' ' :: second) = none := by
      rw [removeElement?_append_space hfree, hnone]
      rfl
    rw [removeElements_of_none hboth, removeElements_of_none hnone]
  | case2 second rest hsome ih =>
    have hboth : removeElement? (first ++ ' ' :: second) = some (first ++ ' ' :: rest) := by
      rw [removeElement?_append_space hfree, hsome]
      rfl
    rw [removeElements_of_some hboth, removeElements_of_some hsome, ih]

end ChatSteward.Event
