import ChatSteward.Text.Dictionary

/-!
# The pairs of a dictionary

The map of a list of pairs holds nothing but these pairs, and holds all of them if their keys
differ: it is the list in another order then.

## Main results

* `Dictionary.mem_of_mem_ofPairs` — what a map holds comes from the list that it was made of
* `Dictionary.perm_ofPairs` — the map of pairs with different keys holds exactly the pairs
* `Dictionary.ofPairs_eq_of_perm` — so it is the list of them whose keys rise
-/

namespace ChatSteward.Dictionary

variable {α : Type}

theorem mem_of_mem_ofPairs {pairs : List (String × α)} {pair : String × α}
    (hmem : pair ∈ ofPairs pairs) : pair ∈ pairs := by
  have hfold (more map : List (String × α))
      (hmem : pair ∈ more.foldl (fun map pair => insert pair.1 pair.2 map) map) :
      pair ∈ map ∨ pair ∈ more := by
    -- the map grows from empty, so the statement is about what it holds so far and what is left
    induction more generalizing map with
    | nil => exact .inl hmem
    | cons next more ih =>
      rcases ih _ hmem with hmap | hmore
      · rcases mem_insert hmap with rfl | hmap
        · exact .inr List.mem_cons_self
        · exact .inl hmap
      · exact .inr (List.mem_cons_of_mem _ hmore)
  rcases hfold pairs [] hmem with hnil | hmem
  · cases hnil
  · exact hmem

/-- A pair with a new key is put between the others. -/
theorem perm_insert {key : String} {value : α} {pairs : List (String × α)}
    (hnew : key ∉ pairs.map (·.1)) : (insert key value pairs).Perm ((key, value) :: pairs) := by
  induction pairs with
  | nil => exact List.Perm.refl _
  | cons head rest ih =>
    obtain ⟨other, held⟩ := head
    rw [List.map_cons, List.mem_cons, not_or] at hnew
    rw [insert]
    split
    · exact List.Perm.refl _
    · rw [if_neg hnew.1]
      exact ((ih hnew.2).cons _).trans (List.Perm.swap _ _ _)

/-- The map of pairs with different keys holds exactly the pairs. -/
theorem perm_ofPairs {pairs : List (String × α)} (hnodup : (pairs.map (·.1)).Nodup) :
    (ofPairs pairs).Perm pairs := by
  have hfold (more map : List (String × α)) (hnodup : ((map ++ more).map (·.1)).Nodup) :
      (more.foldl (fun map pair => insert pair.1 pair.2 map) map).Perm (map ++ more) := by
    induction more generalizing map with
    | nil =>
      rw [List.append_nil]
      exact List.Perm.refl _
    | cons pair more ih =>
      have hmiddle : (map ++ pair :: more).Perm (pair :: (map ++ more)) := List.perm_middle
      have hfront := (hmiddle.map (·.1)).nodup_iff.mp hnodup
      rw [List.map_cons, List.nodup_cons, List.map_append, List.mem_append, not_or] at hfront
      have hinsert : (insert pair.1 pair.2 map ++ more).Perm (pair :: (map ++ more)) :=
        (perm_insert hfront.1.1).append_right more
      have hthen := ih _ ((hinsert.trans hmiddle.symm).map (·.1) |>.nodup_iff.mpr hnodup)
      exact hthen.trans (hinsert.trans hmiddle.symm)
  exact hfold pairs [] hnodup

/-- A list whose keys rise is the only one in its order. -/
theorem ofPairs_eq_of_perm {pairs ordered : List (String × α)} (hperm : pairs.Perm ordered)
    (hrising : (ordered.map (·.1)).Pairwise (· < ·)) : ofPairs pairs = ordered := by
  have hordered : Rising ordered := List.pairwise_map.mp hrising
  have hnodup : (ordered.map (·.1)).Nodup := hrising.imp @fun first second hless => by
    rintro rfl
    exact String.lt_irrefl _ hless
  -- both lists hold the same pairs, and both are in the one order that there is
  have hsame := (perm_ofPairs ((hperm.map (·.1)).nodup_iff.mpr hnodup)).trans hperm
  refine List.Perm.eq_of_pairwise (fun first second _ _ hless hmore => ?_)
    (rising_ofPairs pairs) hordered hsame
  exact absurd (String.lt_trans hless hmore) (String.lt_irrefl _)

end ChatSteward.Dictionary
