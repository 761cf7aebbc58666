/-!
# Blanks

The characters with the White_Space property of the Unicode character database, and the
removal of blanks from the ends of a text. Blanks are judged one character at a time, so a
trimmed text neither starts nor ends with one.

## Main definitions

* `isBlank` — membership in White_Space
* `trimStart`, `trimEnd`, `trim` — removal at the front, at the back and at both ends
* `trimmed` — `trim` on strings

## Main results

* `trimStart_head` — a trimmed front does not start with a blank
* `trim_eq_nil_iff` — a text trims to nothing exactly when it holds only blanks
* `exists_blanks_trim` — a text is its trimmed form between blanks
* `trimEnd_append_blanks` — blanks at the end do not matter
-/

namespace ChatSteward.Text

/-- The White_Space property: 25 code points. -/
def isBlank (c : Char) : Bool :=
  let n := c.toNat
  (9 ≤ n && n ≤ 13) || n == 0x20 || n == 0x85 || n == 0xA0 || n == 0x1680 ||
    (0x2000 ≤ n && n ≤ 0x200A) || n == 0x2028 || n == 0x2029 || n == 0x202F ||
    n == 0x205F || n == 0x3000

/-- The text without the blanks it starts with. -/
def trimStart (text : List Char) : List Char :=
  text.dropWhile isBlank

/-- The text without the blanks it ends with. -/
def trimEnd (text : List Char) : List Char :=
  (text.reverse.dropWhile isBlank).reverse

/-- The text without the blanks at its two ends. -/
def trim (text : List Char) : List Char :=
  trimEnd (trimStart text)

/-- A string without the blanks at its two ends. -/
def trimmed (text : String) : String :=
  String.ofList (trim text.toList)

/-! ## What remains at the ends -/

theorem trimStart_cons_of_not_blank {c : Char} (rest : List Char) (hsolid : isBlank c = false) :
    trimStart (c :: rest) = c :: rest := by
  simp [trimStart, hsolid]

theorem trimStart_cons_of_blank {c : Char} (rest : List Char) (hblank : isBlank c = true) :
    trimStart (c :: rest) = trimStart rest := by
  simp [trimStart, hblank]

@[simp] theorem trimStart_eq_nil_iff {text : List Char} :
    trimStart text = [] ↔ ∀ c ∈ text, isBlank c = true := by
  induction text with
  | nil => simp [trimStart]
  | cons c rest ih =>
    cases hc : isBlank c with
    | true => simp [trimStart_cons_of_blank rest hc, hc, ih]
    | false => simp [trimStart_cons_of_not_blank rest hc, hc]

theorem trimEnd_eq_reverse (text : List Char) :
    trimEnd text = (trimStart text.reverse).reverse := rfl

@[simp] theorem trimEnd_eq_nil_iff {text : List Char} :
    trimEnd text = [] ↔ ∀ c ∈ text, isBlank c = true := by
  simp [trimEnd_eq_reverse]

/-- A trimmed front is empty or starts with a character that is not blank. -/
theorem trimStart_head {text : List Char} {c : Char} {rest : List Char}
    (hstart : trimStart text = c :: rest) : isBlank c = false := by
  induction text with
  | nil => simp [trimStart] at hstart
  | cons d text ih =>
    cases hd : isBlank d with
    | true => exact ih (by rwa [trimStart_cons_of_blank text hd] at hstart)
    | false =>
      rw [trimStart_cons_of_not_blank text hd] at hstart
      cases hstart
      exact hd

/-- A text trims to nothing exactly when it holds only blanks. -/
@[simp] theorem trim_eq_nil_iff {text : List Char} :
    trim text = [] ↔ ∀ c ∈ text, isBlank c = true := by
  rw [trim, trimEnd_eq_nil_iff]
  refine Iff.trans ?_ trimStart_eq_nil_iff
  constructor
  · intro hall
    cases hstart : trimStart text with
    | nil => rfl
    | cons c rest =>
      have hblank := hall c (by simp [hstart])
      simp [trimStart_head hstart] at hblank
  · intro hnil
    simp [hnil]

/-! ## What is removed -/

/-- A text is blanks followed by its trimmed front. -/
theorem exists_blanks_trimStart (text : List Char) :
    ∃ blanks, (∀ c ∈ blanks, isBlank c = true) ∧ text = blanks ++ trimStart text := by
  refine ⟨text.takeWhile isBlank, fun c hc => ?_, List.takeWhile_append_dropWhile.symm⟩
  exact List.all_eq_true.mp List.all_takeWhile c hc

/-- A text is its trimmed back followed by blanks. -/
theorem exists_blanks_trimEnd (text : List Char) :
    ∃ blanks, (∀ c ∈ blanks, isBlank c = true) ∧ text = trimEnd text ++ blanks := by
  obtain ⟨blanks, hblanks, htext⟩ := exists_blanks_trimStart text.reverse
  refine ⟨blanks.reverse, fun c hc => hblanks c (List.mem_reverse.mp hc), ?_⟩
  rw [trimEnd_eq_reverse, ← List.reverse_append, ← htext, List.reverse_reverse]

/-- A text is its trimmed form between blanks. -/
theorem exists_blanks_trim (text : List Char) :
    ∃ before after, (∀ c ∈ before, isBlank c = true) ∧ (∀ c ∈ after, isBlank c = true) ∧
      text = before ++ (trim text ++ after) := by
  obtain ⟨before, hbefore, hstart⟩ := exists_blanks_trimStart text
  obtain ⟨after, hafter, hend⟩ := exists_blanks_trimEnd (trimStart text)
  exact ⟨before, after, hbefore, hafter, by rw [trim, ← hend, ← hstart]⟩

theorem trimStart_blanks_append {blanks : List Char} (hblanks : ∀ c ∈ blanks, isBlank c = true)
    (text : List Char) : trimStart (blanks ++ text) = trimStart text := by
  induction blanks with
  | nil => rfl
  | cons c rest ih =>
    rw [List.cons_append, trimStart_cons_of_blank _ (hblanks c (by simp))]
    exact ih fun d hd => hblanks d (by simp [hd])

/-- Blanks at the end do not matter. -/
theorem trimEnd_append_blanks {blanks : List Char} (hblanks : ∀ c ∈ blanks, isBlank c = true)
    (text : List Char) : trimEnd (text ++ blanks) = trimEnd text := by
  rw [trimEnd_eq_reverse, trimEnd_eq_reverse, List.reverse_append,
    trimStart_blanks_append fun c hc => hblanks c (List.mem_reverse.mp hc)]

/-- A text without blanks is trimmed. -/
theorem trimEnd_of_solid {text : List Char} (hsolid : ∀ c ∈ text, isBlank c = false) :
    trimEnd text = text := by
  rw [trimEnd_eq_reverse]
  cases hreverse : text.reverse with
  | nil => rw [List.reverse_eq_nil_iff.mp hreverse]; rfl
  | cons c rest =>
    have hlast : c ∈ text := List.mem_reverse.mp (hreverse ▸ List.mem_cons_self)
    rw [trimStart_cons_of_not_blank rest (hsolid c hlast), ← hreverse, List.reverse_reverse]

end ChatSteward.Text
