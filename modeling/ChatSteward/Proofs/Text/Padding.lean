import ChatSteward.Text.Blank
import Mathlib.Data.List.Forall2

/-!
# Texts between blanks

A text that neither starts nor ends with a blank is its own trimmed form, and it is found again when
it is trimmed out of the blanks that were put around it. What trimming leaves is always such a text.

## Main definitions

* `HasSolidEnds` — a text without blanks at its ends
* `Pads` — a text between blanks

## Main results

* `trim_eq_self_iff` — the texts that trimming leaves as they are
* `trim_of_pads` — a text is trimmed out of its blanks
-/

namespace ChatSteward.Text

/-- Whether a text neither starts nor ends with a blank. -/
def HasSolidEnds (text : List Char) : Prop :=
  (∀ c ∈ text.head?, isBlank c = false) ∧ ∀ c ∈ text.getLast?, isBlank c = false

/-- Whether a padded text is a text between blanks. -/
def Pads (text padded : List Char) : Prop :=
  ∃ before after, (∀ c ∈ before, isBlank c = true) ∧ (∀ c ∈ after, isBlank c = true) ∧
    padded = before ++ (text ++ after)

/-! ## Ends -/

/-- What is blank nowhere has no blanks at its ends. -/
theorem HasSolidEnds.of_solid {text : List Char} (hsolid : ∀ c ∈ text, isBlank c = false) :
    HasSolidEnds text :=
  ⟨fun c hfirst => hsolid c (List.mem_of_mem_head? hfirst),
    fun c hlast => hsolid c (List.mem_of_getLast? hlast)⟩

/-- A text that is more than one character has solid ends if its first and its last one are. -/
theorem hasSolidEnds_cons_concat {first last : Char} (hfirst : isBlank first = false)
    (hlast : isBlank last = false) (middle : List Char) :
    HasSolidEnds (first :: (middle ++ [last])) := by
  refine ⟨fun c hc => ?_, fun c hc => ?_⟩
  · obtain rfl := Option.some.inj hc
    exact hfirst
  · rw [← List.cons_append, List.getLast?_concat] at hc
    obtain rfl := Option.some.inj hc
    exact hlast

theorem trimStart_of_head {text : List Char} (hfirst : ∀ c ∈ text.head?, isBlank c = false) :
    trimStart text = text := by
  cases text with
  | nil => rfl
  | cons c rest => exact trimStart_cons_of_not_blank rest (hfirst c rfl)

theorem trimEnd_of_getLast {text : List Char} (hlast : ∀ c ∈ text.getLast?, isBlank c = false) :
    trimEnd text = text := by
  rw [trimEnd_eq_reverse, trimStart_of_head, List.reverse_reverse]
  rwa [List.head?_reverse]

/-- What trimming leaves does not start with a blank. -/
theorem head_trim {text : List Char} {c : Char} (hfirst : c ∈ (trim text).head?) :
    isBlank c = false := by
  -- the blanks that are trimmed behind the first character leave it in front
  obtain ⟨after, -, hstart⟩ := exists_blanks_trimEnd (trimStart text)
  obtain ⟨rest, hrest⟩ := List.head?_eq_some_iff.mp hfirst
  rw [trim] at hrest
  rw [hrest, List.cons_append] at hstart
  exact trimStart_head hstart

/-- What trimming leaves does not end with a blank. -/
theorem getLast_trim {text : List Char} {c : Char} (hlast : c ∈ (trim text).getLast?) :
    isBlank c = false := by
  rw [trim, trimEnd_eq_reverse, List.getLast?_reverse] at hlast
  obtain ⟨rest, hrest⟩ := List.head?_eq_some_iff.mp hlast
  exact trimStart_head hrest

@[simp] theorem hasSolidEnds_trim (text : List Char) : HasSolidEnds (trim text) :=
  ⟨fun _ => head_trim, fun _ => getLast_trim⟩

/-- Trimming leaves exactly the texts without blanks at their ends as they are. -/
@[simp] theorem trim_eq_self_iff {text : List Char} : trim text = text ↔ HasSolidEnds text := by
  constructor
  · intro hself
    rw [← hself]
    exact hasSolidEnds_trim text
  · rintro ⟨hfirst, hlast⟩
    rw [trim, trimStart_of_head hfirst, trimEnd_of_getLast hlast]

/-- A trimmed text is trimmed already. -/
@[simp] theorem trim_trim (text : List Char) : trim (trim text) = trim text :=
  trim_eq_self_iff.mpr (hasSolidEnds_trim text)

/-! ## Padding -/

/-- A text is itself between no blanks at all. -/
theorem Pads.refl (text : List Char) : Pads text text :=
  ⟨[], [], by simp, by simp, by simp⟩

/-- Every text is its trimmed form between blanks. -/
theorem pads_trim (text : List Char) : Pads (trim text) text := exists_blanks_trim text

/-- What is between blanks is blank, or in the text. -/
theorem Pads.mem_or_blank {text padded : List Char} (hpads : Pads text padded) {c : Char}
    (hmem : c ∈ padded) : c ∈ text ∨ isBlank c = true := by
  obtain ⟨before, after, hbefore, hafter, rfl⟩ := hpads
  rw [List.mem_append, List.mem_append] at hmem
  rcases hmem with hmem | hmem | hmem
  · exact .inr (hbefore c hmem)
  · exact .inl hmem
  · exact .inr (hafter c hmem)

theorem Pads.mem {text padded : List Char} (hpads : Pads text padded) {c : Char} (hmem : c ∈ text) :
    c ∈ padded := by
  obtain ⟨before, after, -, -, rfl⟩ := hpads
  exact List.mem_append_right _ (List.mem_append_left _ hmem)

/-- A text without blanks at its ends is trimmed out of the blanks around it. -/
theorem trim_of_pads {text padded : List Char} (hpads : Pads text padded)
    (hsolid : HasSolidEnds text) : trim padded = text := by
  obtain ⟨before, after, hbefore, hafter, rfl⟩ := hpads
  rw [trim, trimStart_blanks_append hbefore]
  cases text with
  | nil => exact trim_eq_nil_iff.mpr hafter
  | cons c rest =>
    -- the first character of the text stops the trimming in front
    rw [List.cons_append, trimStart_cons_of_not_blank _ (hsolid.1 c rfl), ← List.cons_append,
      trimEnd_append_blanks hafter, trimEnd_of_getLast hsolid.2]

theorem map_trim_of_pads {texts padded : List (List Char)} (hpads : List.Forall₂ Pads texts padded)
    (hsolid : ∀ text ∈ texts, HasSolidEnds text) : padded.map trim = texts := by
  induction hpads with
  | nil => rfl
  | cons hpad _ ih =>
    obtain ⟨hfirst, hrest⟩ := List.forall_mem_cons.mp hsolid
    rw [List.map_cons, trim_of_pads hpad hfirst, ih hrest]

end ChatSteward.Text
