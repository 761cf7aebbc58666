/-!
# Splitting and joining

A text is cut at every occurrence of one character, keeping the empty pieces, and pieces are
joined with a text between them. Cutting at a character and joining with it gives the text back.

## Main definitions

* `splitAt` — the pieces between the occurrences of a character; there is always one
* `joinWith` — the pieces with a text between each two

## Main results

* `joinWith_splitAt` — joining undoes cutting
* `splitAt_joinWith` — cutting undoes joining when no piece holds the character
-/

namespace ChatSteward.Text

/-- The pieces of a text between the occurrences of a separator. -/
def splitAt (separator : Char) : List Char → List (List Char)
  | [] => [[]]
  | c :: rest =>
    if c = separator then [] :: splitAt separator rest
    else
      match splitAt separator rest with
      | [] => [[c]]
      | piece :: pieces => (c :: piece) :: pieces

/-- The pieces one after the other with a text between each two. -/
def joinWith (between : List Char) : List (List Char) → List Char
  | [] => []
  | [piece] => piece
  | piece :: next :: pieces => piece ++ between ++ joinWith between (next :: pieces)

@[simp] theorem splitAt_ne_nil (separator : Char) (text : List Char) :
    splitAt separator text ≠ [] := by
  cases text with
  | nil => simp [splitAt]
  | cons c rest =>
    rw [splitAt]
    split
    · simp
    · split <;> simp

theorem joinWith_cons_of_ne_nil (between piece : List Char) {pieces : List (List Char)}
    (hmore : pieces ≠ []) :
    joinWith between (piece :: pieces) = piece ++ between ++ joinWith between pieces := by
  cases pieces with
  | nil => exact absurd rfl hmore
  | cons next rest => rfl

/-- Joining the pieces of a text with its separator gives the text back. -/
@[simp] theorem joinWith_splitAt (separator : Char) (text : List Char) :
    joinWith [separator] (splitAt separator text) = text := by
  induction text with
  | nil => rfl
  | cons c rest ih =>
    have hpieces := splitAt_ne_nil separator rest
    rw [splitAt]
    split
    case isTrue heq => rw [joinWith_cons_of_ne_nil _ _ hpieces, ih, heq]; rfl
    case isFalse =>
      cases hsplit : splitAt separator rest with
      | nil => exact absurd hsplit hpieces
      | cons piece pieces =>
        rw [hsplit] at ih
        cases pieces with
        | nil => simpa [joinWith] using ih
        | cons next more => simpa [joinWith] using ih

/-- A text without the separator is one piece. -/
theorem splitAt_of_not_mem {separator : Char} {text : List Char} (habsent : separator ∉ text) :
    splitAt separator text = [text] := by
  induction text with
  | nil => rfl
  | cons c rest ih =>
    have hc : c ≠ separator := fun h => habsent (by simp [h])
    have hrest : separator ∉ rest := fun h => habsent (by simp [h])
    simp [splitAt, hc, ih hrest]

theorem splitAt_append_cons {separator : Char} {piece : List Char} (habsent : separator ∉ piece)
    (rest : List Char) :
    splitAt separator (piece ++ separator :: rest) = piece :: splitAt separator rest := by
  induction piece with
  | nil => simp [splitAt]
  | cons c piece ih =>
    have hc : c ≠ separator := fun h => habsent (by simp [h])
    have hpiece : separator ∉ piece := fun h => habsent (by simp [h])
    simp [splitAt, hc, ih hpiece]

/-- What stands before the first separator and behind it can be told from the text. -/
theorem append_separator_inj {separator : Char} {first first' rest rest' : List Char}
    (hfirst : separator ∉ first) (hfirst' : separator ∉ first')
    (heq : first ++ separator :: rest = first' ++ separator :: rest') :
    first = first' ∧ rest = rest' := by
  have hsplit := congrArg (splitAt separator) heq
  rw [splitAt_append_cons hfirst, splitAt_append_cons hfirst'] at hsplit
  obtain rfl := (List.cons.inj hsplit).1
  exact ⟨rfl, (List.cons.inj (List.append_cancel_left heq)).2⟩

/-- Pieces without the separator are found again after joining. -/
theorem splitAt_joinWith {separator : Char} {pieces : List (List Char)} (hsome : pieces ≠ [])
    (habsent : ∀ piece ∈ pieces, separator ∉ piece) :
    splitAt separator (joinWith [separator] pieces) = pieces := by
  induction pieces with
  | nil => exact absurd rfl hsome
  | cons piece rest ih =>
    have hpiece := habsent piece (by simp)
    cases rest with
    | nil => exact splitAt_of_not_mem hpiece
    | cons next more =>
      have hrest := ih (by simp) (fun p hp => habsent p (by simp [hp]))
      rw [joinWith_cons_of_ne_nil _ _ (by simp), List.append_assoc, List.singleton_append,
        splitAt_append_cons hpiece, hrest]

end ChatSteward.Text
