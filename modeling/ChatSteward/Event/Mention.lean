import ChatSteward.Text.Blank
import ChatSteward.Text.Split

/-!
# Mentions

The text of a message marks mentions in two ways: as an element from `<at` to `</at>`, and as a
placeholder word `@_user_1`. Neither is part of a command.

Elements are removed one at a time, the first one first; what stood before and after one may
make up a new element, which is removed in turn. Placeholders are words between spaces.

## Main definitions

* `removeElement?` — a text without its first element
* `removeElements` — a text without elements
* `isPlaceholder` — whether a word is a placeholder
* `stripMentions` — a text without mentions and trimmed

## Main results

* `removeElement?_shrinks` — the removal of an element leaves less text
-/

namespace ChatSteward.Event

/-- Where an element starts. -/
def opening : List Char := ['<', 'a', 't']

/-- Where an element ends. -/
def closing : List Char := ['<', '/', 'a', 't', '>']

/-- What stands before and from the first occurrence of a mark. -/
def breakAt (mark : List Char) : List Char → Option (List Char × List Char)
  | [] => if mark.isEmpty then some ([], []) else none
  | c :: rest =>
    if mark.isPrefixOf (c :: rest) then some ([], c :: rest)
    else (breakAt mark rest).map fun (before, found) => (c :: before, found)

theorem breakAt_append {mark text before found : List Char}
    (hbreak : breakAt mark text = some (before, found)) : before ++ found = text := by
  induction text generalizing before found with
  | nil =>
    rw [breakAt] at hbreak
    split at hbreak
    · cases hbreak; rfl
    · cases hbreak
  | cons c rest ih =>
    rw [breakAt] at hbreak
    split at hbreak
    · cases hbreak; rfl
    · obtain ⟨⟨inner, found'⟩, hinner, heq⟩ := Option.map_eq_some_iff.mp hbreak
      cases heq
      rw [List.cons_append, ih hinner]

theorem breakAt_starts {mark text before found : List Char}
    (hbreak : breakAt mark text = some (before, found)) : mark <+: found := by
  induction text generalizing before found with
  | nil =>
    rw [breakAt] at hbreak
    split at hbreak
    case isTrue hempty =>
      cases hbreak
      exact (List.isEmpty_iff.mp hempty) ▸ List.nil_prefix
    case isFalse => cases hbreak
  | cons c rest ih =>
    rw [breakAt] at hbreak
    split at hbreak
    case isTrue hmark =>
      cases hbreak
      exact List.isPrefixOf_iff_prefix.mp hmark
    case isFalse =>
      obtain ⟨⟨inner, found'⟩, hinner, heq⟩ := Option.map_eq_some_iff.mp hbreak
      cases heq
      exact ih hinner

/-- A text without its first element, if the first opening mark has a closing mark after it. -/
def removeElement? (text : List Char) : Option (List Char) :=
  match breakAt opening text with
  | none => none
  | some (before, found) =>
    (breakAt closing found).map fun (_, rest) => before ++ rest.drop closing.length

/-- The removal of an element leaves less text. -/
theorem removeElement?_shrinks {text rest : List Char} (hremove : removeElement? text = some rest) :
    rest.length < text.length := by
  unfold removeElement? at hremove
  split at hremove
  · cases hremove
  case h_2 before found hopen =>
    obtain ⟨⟨inner, tail⟩, hclose, heq⟩ := Option.map_eq_some_iff.mp hremove
    have htext := congrArg List.length (breakAt_append hopen)
    have hfound := congrArg List.length (breakAt_append hclose)
    have hmark := (breakAt_starts hclose).length_le
    have hclosing : closing.length = 5 := rfl
    simp only [List.length_append] at htext hfound
    cases heq
    simp only [List.length_append, List.length_drop]
    omega

/-- A text without elements. -/
def removeElements (text : List Char) : List Char :=
  match _hremove : removeElement? text with
  | none => text
  | some rest => removeElements rest
termination_by text.length
decreasing_by exact removeElement?_shrinks _hremove

/-- What a placeholder starts with. -/
def placeholderStem : List Char := ['@', '_', 'u', 's', 'e', 'r', '_']

/-- Whether a word is a placeholder: the stem and one or more digits. -/
def isPlaceholder (word : List Char) : Bool :=
  placeholderStem.isPrefixOf word &&
    (let number := word.drop placeholderStem.length
     !number.isEmpty && number.all Char.isDigit)

/-- The words of a text between single spaces without the placeholders. -/
def dropPlaceholders (text : List Char) : List Char :=
  Text.joinWith [' '] ((Text.splitAt ' ' text).filter fun word => !isPlaceholder word)

/-- A text without mentions and without blanks at its ends. -/
def stripMentions (text : String) : String :=
  String.ofList (Text.trim (dropPlaceholders (removeElements text.toList)))

end ChatSteward.Event
