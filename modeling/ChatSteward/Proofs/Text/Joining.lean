import ChatSteward.Proofs.Text.Words

/-!
# Joined pieces

Pieces that hold no separator can be told from their joined text, even where the text between them
goes on behind the separator: cutting at the separator finds every piece, all but the first one
behind the rest of the text between. The lines of a text are such pieces.

## Main definitions

* `lines` — the lines of a text

## Main results

* `splitAt_joinWith_cons` — what cutting finds of joined pieces
* `joinWith_inj` — joined pieces can be told from the text
* `lines_joinWith` — lines are found again after joining
-/

namespace ChatSteward.Text

/-- No piece of a cut holds the separator. -/
theorem not_mem_of_mem_splitAt {separator : Char} {text piece : List Char}
    (hpiece : piece ∈ splitAt separator text) : separator ∉ piece := by
  induction text generalizing piece with
  | nil =>
    rw [splitAt, List.mem_singleton] at hpiece
    rw [hpiece]
    exact List.not_mem_nil
  | cons c rest ih =>
    rw [splitAt] at hpiece
    split at hpiece
    case isTrue =>
      rcases List.mem_cons.mp hpiece with rfl | hrest
      · exact List.not_mem_nil
      · exact ih hrest
    case isFalse hc =>
      -- the first piece grows by a character that is not the separator
      cases hsplit : splitAt separator rest with
      | nil => exact absurd hsplit (splitAt_ne_nil separator rest)
      | cons first pieces =>
        rw [hsplit] at hpiece ih
        rcases List.mem_cons.mp hpiece with rfl | hmore
        · exact List.not_mem_cons_of_ne_of_not_mem (Ne.symm hc) (ih List.mem_cons_self)
        · exact ih (List.mem_cons_of_mem _ hmore)

/-- Joining with a text between is the library's intercalation. -/
theorem joinWith_eq_intercalate (between : List Char) (pieces : List (List Char)) :
    joinWith between pieces = between.intercalate pieces := by
  induction pieces with
  | nil => rfl
  | cons piece rest ih =>
    cases rest with
    | nil => simp [joinWith, List.intercalate]
    | cons next more =>
      rw [joinWith, ih]
      simp [List.intercalate]

theorem toList_intercalate_eq_joinWith (between : String) (pieces : List String) :
    (String.intercalate between pieces).toList =
      joinWith between.toList (pieces.map String.toList) := by
  rw [String.toList_intercalate, joinWith_eq_intercalate]

theorem joinWith_eq_nil_iff {between : List Char} {pieces : List (List Char)}
    (hsome : ∀ piece ∈ pieces, piece ≠ []) : joinWith between pieces = [] ↔ pieces = [] := by
  refine ⟨fun hnil => ?_, fun hnil => by rw [hnil]; rfl⟩
  cases pieces with
  | nil => rfl
  | cons piece rest =>
    have hpiece := hsome piece List.mem_cons_self
    cases rest with
    | nil => exact absurd hnil hpiece
    | cons next more =>
      rw [joinWith, List.append_assoc] at hnil
      exact absurd (List.append_eq_nil_iff.mp hnil).1 hpiece

/-- Cutting joined pieces at the separator finds all of them, each but the first one behind what
else stands between two pieces. -/
theorem splitAt_joinWith_cons {separator : Char} {more piece : List Char}
    {pieces : List (List Char)} (hmore : separator ∉ more)
    (habsent : ∀ other ∈ piece :: pieces, separator ∉ other) :
    splitAt separator (joinWith (separator :: more) (piece :: pieces)) =
      piece :: pieces.map (more ++ ·) := by
  induction pieces generalizing piece with
  | nil => exact splitAt_of_not_mem (habsent piece List.mem_cons_self)
  | cons next rest ih =>
    obtain ⟨hpiece, hrest⟩ := List.forall_mem_cons.mp habsent
    obtain ⟨hnext, hrest⟩ := List.forall_mem_cons.mp hrest
    -- what is left of the text between goes to the piece behind it
    have hbehind : more ++ joinWith (separator :: more) (next :: rest) =
        joinWith (separator :: more) ((more ++ next) :: rest) := by
      cases rest <;> simp [joinWith]
    have hgrown : separator ∉ more ++ next := by
      rw [List.mem_append]
      exact not_or.mpr ⟨hmore, hnext⟩
    rw [joinWith, List.append_assoc, List.cons_append, splitAt_append_cons hpiece, hbehind,
      ih (List.forall_mem_cons.mpr ⟨hgrown, hrest⟩), List.map_cons]

/-- Pieces without the separator, none of them empty, can be told from their joined text. -/
theorem joinWith_inj {separator : Char} {more : List Char} {first second : List (List Char)}
    (hmore : separator ∉ more) (hfirst : ∀ piece ∈ first, piece ≠ [] ∧ separator ∉ piece)
    (hsecond : ∀ piece ∈ second, piece ≠ [] ∧ separator ∉ piece)
    (heq : joinWith (separator :: more) first = joinWith (separator :: more) second) :
    first = second := by
  cases first with
  | nil =>
    exact ((joinWith_eq_nil_iff fun piece hpiece => (hsecond piece hpiece).1).mp heq.symm).symm
  | cons piece pieces =>
    cases second with
    | nil => exact (joinWith_eq_nil_iff fun piece hpiece => (hfirst piece hpiece).1).mp heq
    | cons piece' pieces' =>
      -- both texts are cut at the separator, which shows the pieces behind the rest between them
      have hcut := congrArg (splitAt separator) heq
      rw [splitAt_joinWith_cons hmore fun piece hpiece => (hfirst piece hpiece).2,
        splitAt_joinWith_cons hmore fun piece hpiece => (hsecond piece hpiece).2] at hcut
      obtain ⟨rfl, hrest⟩ := List.cons.inj hcut
      rw [(List.map_inj_right fun _ _ => List.append_cancel_left).mp hrest]

/-! ## Lines -/

/-- The lines of a text, of which the empty text has none. -/
def lines (text : List Char) : List (List Char) :=
  if text.isEmpty then [] else splitAt '\n' text

/-- Lines are found again after joining, if none of them is empty. -/
theorem lines_joinWith {pieces : List (List Char)}
    (hpieces : ∀ piece ∈ pieces, piece ≠ [] ∧ '\n' ∉ piece) :
    lines (joinWith ['\n'] pieces) = pieces := by
  have hempty : joinWith ['\n'] pieces = [] ↔ pieces = [] :=
    joinWith_eq_nil_iff fun piece hpiece => (hpieces piece hpiece).1
  rw [lines]
  split
  case isTrue hnil => exact (hempty.mp (List.isEmpty_iff.mp hnil)).symm
  case isFalse hsome =>
    refine splitAt_joinWith (fun hnil => hsome ?_) fun piece hpiece => (hpieces piece hpiece).2
    exact List.isEmpty_iff.mpr (hempty.mpr hnil)

end ChatSteward.Text
