import ChatSteward.Proofs.Event.Elements
import ChatSteward.Proofs.Text.Words

/-!
# Commands among mentions

A message to the bot is a row of items with spaces between them: elements, placeholders and the
ordinary words of the command. The elements go first, each leaving nothing in its place, and the
placeholders go next, so what remains is the ordinary words in their order, with more spaces
between them than there were. A text that mentions nobody only loses the blanks at its ends.

## Main definitions

* `IsPlaceholder`, `IsOrdinary` — the two kinds of words
* `Item` — an element, a placeholder or an ordinary word

## Main results

* `removeElements_items` — the removal of elements takes each element and nothing else
* `stripMentions_items` — mentions are transparent: the words that are left are the ordinary ones
-/

namespace ChatSteward.Event

open ChatSteward.Text

/-- Whether a word is a placeholder: the stem and one or more digits after it. -/
def IsPlaceholder (word : List Char) : Prop :=
  ∃ number, number ≠ [] ∧ (∀ c ∈ number, c.isDigit = true) ∧ word = placeholderStem ++ number

@[simp] theorem isPlaceholder_iff {word : List Char} :
    isPlaceholder word = true ↔ IsPlaceholder word := by
  unfold isPlaceholder IsPlaceholder
  rw [Bool.and_eq_true, List.isPrefixOf_iff_prefix]
  constructor
  · rintro ⟨⟨number, rfl⟩, hnumber⟩
    rw [List.drop_left, Bool.and_eq_true, Bool.not_eq_true', List.isEmpty_eq_false_iff,
      List.all_eq_true] at hnumber
    exact ⟨number, hnumber.1, hnumber.2, rfl⟩
  · rintro ⟨number, hsome, hdigits, rfl⟩
    refine ⟨List.prefix_append _ _, ?_⟩
    rw [List.drop_left, Bool.and_eq_true, Bool.not_eq_true', List.isEmpty_eq_false_iff,
      List.all_eq_true]
    exact ⟨hsome, hdigits⟩

instance (word : List Char) : Decidable (IsPlaceholder word) :=
  decidable_of_iff _ isPlaceholder_iff

/-- Whether a word is an ordinary one: there is something of it, it holds no blank, it is no
placeholder, and no element starts in it. -/
structure IsOrdinary (word : List Char) : Prop where
  nonempty : word ≠ []
  solid : ∀ c ∈ word, isBlank c = false
  plain : ¬ IsPlaceholder word
  unopened : ¬ opening <:+: word

theorem isOrdinary_iff {word : List Char} :
    IsOrdinary word ↔
      (!word.isEmpty && word.all (fun c => !isBlank c) && !isPlaceholder word &&
        (breakAt opening word).isNone) = true := by
  rw [Bool.and_eq_true, Bool.and_eq_true, Bool.and_eq_true, Bool.not_eq_true',
    Bool.not_eq_true', List.isEmpty_eq_false_iff, List.all_eq_true, Option.isNone_iff_eq_none,
    breakAt_eq_none_iff, ← Bool.not_eq_true, isPlaceholder_iff]
  simp only [Bool.not_eq_true']
  constructor
  · intro hordinary
    exact ⟨⟨⟨hordinary.nonempty, hordinary.solid⟩, hordinary.plain⟩, hordinary.unopened⟩
  · rintro ⟨⟨⟨hnonempty, hsolid⟩, hplain⟩, hunopened⟩
    exact ⟨hnonempty, hsolid, hplain, hunopened⟩

instance (word : List Char) : Decidable (IsOrdinary word) :=
  decidable_of_iff' _ isOrdinary_iff

/-- One item of a message. -/
inductive Item where
  | element (text : List Char) (helement : IsElement text)
  | placeholder (text : List Char) (hplaceholder : IsPlaceholder text)
  | word (text : List Char) (hordinary : IsOrdinary text)

namespace Item

/-- How an item is written. -/
def text : Item → List Char
  | .element text _ => text
  | .placeholder text _ => text
  | .word text _ => text

/-- What is left of an item when elements are removed. -/
def rest : Item → List Char
  | .element _ _ => []
  | .placeholder text _ => text
  | .word text _ => text

/-- The ordinary word that an item is, if it is one. -/
def word? : Item → Option (List Char)
  | .element _ _ => none
  | .placeholder _ _ => none
  | .word text _ => some text

end Item

/-! ## The characters that are left -/

theorem isBlank_of_isDigit {c : Char} (hdigit : c.isDigit = true) : isBlank c = false := by
  have hrange : 48 ≤ c.toNat ∧ c.toNat ≤ 57 := by
    simpa [Char.isDigit, UInt32.le_iff_toNat_le] using hdigit
  simp only [isBlank, Bool.or_eq_false_iff, Bool.and_eq_false_iff, decide_eq_false_iff_not,
    beq_eq_false_iff_ne]
  omega

/-- A character of a placeholder belongs to the stem or is a digit. -/
theorem IsPlaceholder.mem {word : List Char} (hplaceholder : IsPlaceholder word) {c : Char}
    (hmem : c ∈ word) : c ∈ placeholderStem ∨ c.isDigit = true := by
  obtain ⟨number, -, hdigits, rfl⟩ := hplaceholder
  rcases List.mem_append.mp hmem with hstem | hnumber
  · exact .inl hstem
  · exact .inr (hdigits c hnumber)

namespace Item

/-- No blank is left of an item. -/
theorem rest_solid (item : Item) : ∀ c ∈ item.rest, isBlank c = false := by
  intro c hc
  cases item with
  | element text _ => cases hc
  | placeholder text hplaceholder =>
    rcases hplaceholder.mem hc with hstem | hdigit
    · have hsolid : (placeholderStem.all fun d => !isBlank d) = true := rfl
      exact Bool.not_eq_true' _ ▸ List.all_eq_true.mp hsolid c hstem
    · exact isBlank_of_isDigit hdigit
  | word text hordinary => exact hordinary.solid c hc

/-- No element starts in what is left of an item. -/
theorem rest_unopened (item : Item) : ¬ opening <:+: item.rest := by
  intro hopening
  have hmem : '<' ∈ item.rest := hopening.subset List.mem_cons_self
  cases item with
  | element text _ => cases hmem
  | placeholder text hplaceholder =>
    -- a placeholder does not hold the first character of the mark
    rcases hplaceholder.mem hmem with hstem | hdigit
    · revert hstem
      decide
    · cases hdigit
  | word text hordinary => exact hordinary.unopened hopening

end Item

/-! ## The removal of the elements -/

/-- An item with something behind it: it leaves its rest, and the removal goes on behind it. -/
theorem removeElements_item_append (item : Item) (after : List Char) :
    removeElements (item.text ++ ' ' :: after) = item.rest ++ ' ' :: removeElements after := by
  have hstands := removeElements_append_space item.rest_unopened after
  cases item with
  | element text helement =>
    have hremove := removeElement?_element helement (' ' :: after)
    exact (removeElements_of_some hremove).trans hstands
  | placeholder text _ => exact hstands
  | word text _ => exact hstands

/-- An item alone leaves its rest. -/
theorem removeElements_item (item : Item) : removeElements item.text = item.rest := by
  have hstays := removeElements_of_absent item.rest_unopened
  cases item with
  | element text helement =>
    have hremove := removeElement?_element helement []
    rw [List.append_nil] at hremove
    exact (removeElements_of_some hremove).trans hstays
  | placeholder text _ => exact hstays
  | word text _ => exact hstays

/-- The removal of elements takes every element and nothing else. -/
theorem removeElements_items (items : List Item) :
    removeElements (joinWith [' '] (items.map Item.text)) =
      joinWith [' '] (items.map Item.rest) := by
  -- induction on the items: what is left of the first one stands apart from the others
  induction items with
  | nil => exact removeElements_of_absent (by decide)
  | cons item items ih =>
    by_cases hlast : items = []
    · rw [hlast]
      exact removeElements_item item
    · have hmore {f : Item → List Char} : items.map f ≠ [] := by
        rwa [ne_eq, List.map_eq_nil_iff]
      rw [List.map_cons, List.map_cons, joinWith_cons_of_ne_nil _ _ hmore,
        joinWith_cons_of_ne_nil _ _ hmore, List.append_assoc, List.append_assoc,
        List.singleton_append, List.singleton_append, removeElements_item_append, ih]

/-! ## The removal of the placeholders -/

/-- Of joined pieces the placeholders are dropped. -/
theorem dropPlaceholders_joinWith {pieces : List (List Char)}
    (hsolid : ∀ piece ∈ pieces, ' ' ∉ piece) :
    dropPlaceholders (joinWith [' '] pieces) =
      joinWith [' '] (pieces.filter fun piece => !isPlaceholder piece) := by
  by_cases hnone : pieces = []
  · rw [hnone]
    rfl
  · rw [dropPlaceholders, splitAt_joinWith hnone hsolid]

/-- A text without placeholders between its spaces stays as it is. -/
theorem dropPlaceholders_of_plain {text : List Char}
    (hplain : ∀ word ∈ splitAt ' ' text, ¬ IsPlaceholder word) : dropPlaceholders text = text := by
  have hkept : ∀ word ∈ splitAt ' ' text, (!isPlaceholder word) = true := by
    intro word hword
    rw [Bool.not_eq_true', ← Bool.not_eq_true, isPlaceholder_iff]
    exact hplain word hword
  rw [dropPlaceholders, List.filter_eq_self.mpr hkept, joinWith_splitAt]

/-! ## What is left of a message -/

/-- Of what the items leave, the pieces that are neither placeholders nor empty are the ordinary
words. -/
theorem filter_rest_eq_words (items : List Item) :
    ((items.map Item.rest).filter fun piece => !isPlaceholder piece).filter
      (fun piece => !piece.isEmpty) = items.filterMap Item.word? := by
  induction items with
  | nil => rfl
  | cons item items ih =>
    cases item with
    | element text _ => exact ih
    | placeholder text hplaceholder =>
      have hdropped : isPlaceholder text = true := isPlaceholder_iff.mpr hplaceholder
      rw [List.map_cons, List.filter_cons_of_neg, ih]
      · rfl
      · simp [Item.rest, hdropped]
    | word text hordinary =>
      have hkept : isPlaceholder text = false := by
        rw [← Bool.not_eq_true, isPlaceholder_iff]
        exact hordinary.plain
      rw [List.map_cons, List.filter_cons_of_pos, List.filter_cons_of_pos, ih]
      · rfl
      · simp [Item.rest, hordinary.nonempty]
      · simp [Item.rest, hkept]

/-- No blank but spaces is left of the items, so trimming takes no more than spaces. -/
theorem eq_space_of_mem_rests (items : List Item) :
    ∀ c ∈ joinWith [' '] ((items.map Item.rest).filter fun piece => !isPlaceholder piece),
      isBlank c = true → c = ' ' := by
  intro c hc hblank
  rcases mem_of_mem_joinWith hc with hbetween | ⟨piece, hpiece, hmem⟩
  · exact List.mem_singleton.mp hbetween
  · obtain ⟨item, -, rfl⟩ := List.mem_map.mp (List.mem_filter.mp hpiece).1
    rw [item.rest_solid c hmem] at hblank
    cases hblank

/-- Mentions are transparent to commands. Of a row of items with a space between each two, in any
number and order, the words that are left are the ordinary words in order. A text in which no
element starts and no word between its spaces is a placeholder is only trimmed. -/
theorem stripMentions_items :
    (∀ items : List Item,
      words (stripMentions (String.ofList (joinWith [' '] (items.map Item.text)))).toList =
        items.filterMap Item.word?) ∧
    (∀ text : String, ¬ opening <:+: text.toList →
      (∀ word ∈ splitAt ' ' text.toList, ¬ IsPlaceholder word) →
      stripMentions text = trimmed text) := by
  constructor
  · intro items
    have hunspaced : ∀ piece ∈ items.map Item.rest, ' ' ∉ piece := by
      intro piece hpiece hspace
      obtain ⟨item, -, rfl⟩ := List.mem_map.mp hpiece
      cases item.rest_solid ' ' hspace
    rw [stripMentions, String.toList_ofList, String.toList_ofList, removeElements_items,
      dropPlaceholders_joinWith hunspaced, words_trim (eq_space_of_mem_rests items),
      words_joinWith, filter_rest_eq_words]
    intro piece hpiece
    exact hunspaced piece (List.mem_filter.mp hpiece).1
  · intro text hunopened hplain
    rw [stripMentions, removeElements_of_absent hunopened, dropPlaceholders_of_plain hplain]
    rfl

/-- A message that mentions two users, one before its words and one among them. -/
def grantItems : List Item :=
  [.placeholder ['@', '_', 'u', 's', 'e', 'r', '_', '1'] (by decide),
    .word ['g', 'r', 'a', 'n', 't'] (by decide),
    .element ['<', 'a', 't', '>', 'A', '<', '/', 'a', 't', '>'] (by decide),
    .word ['o', 'u', '_', '7'] (by decide)]

/-- The words of such a message, and a text whose last word is like a placeholder. -/
theorem stripMentions_items_grant :
    words (stripMentions "@_user_1 grant <at>A</at> ou_7").toList =
        ["grant".toList, "ou_7".toList] ∧
      stripMentions " grant  @_user_x" = "grant  @_user_x" := by
  have htext : "@_user_1 grant <at>A</at> ou_7" =
      String.ofList (joinWith [' '] (grantItems.map Item.text)) := rfl
  have hunopened : ¬ opening <:+: " grant  @_user_x".toList := by
    intro hopening
    have hmem : '<' ∈ " grant  @_user_x".toList := hopening.subset List.mem_cons_self
    revert hmem
    decide
  have htrimmed : trim " grant  @_user_x".toList = "grant  @_user_x".toList := by decide
  constructor
  · rw [htext, stripMentions_items.1 grantItems]
    rfl
  · rw [stripMentions_items.2 _ hunopened (by decide), trimmed, htrimmed]
    rfl

end ChatSteward.Event
