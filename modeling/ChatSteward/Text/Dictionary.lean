/-!
# Dictionaries

Finite maps from strings as lists of pairs whose keys rise. Each map has one such list, so two
maps are equal exactly when their lists are. Keys are compared code point by code point, which
is also the order of their UTF-8 bytes.

## Main definitions

* `Dictionary.insert` — adds a pair, or replaces the value of its key
* `Dictionary.lookup?` — the value of a key
* `Dictionary.ofPairs` — the map of a list of pairs, the last pair of a key winning
* `Dictionary.Rising` — the keys rise

## Main results

* `Dictionary.rising_insert` — insertion keeps the keys rising
* `Dictionary.ofPairs_of_rising` — a list with rising keys is its own map
-/

namespace ChatSteward.Dictionary

variable {α : Type}

/-- The pairs with one more, or with another value for a key that is there. -/
def insert (key : String) (value : α) : List (String × α) → List (String × α)
  | [] => [(key, value)]
  | (other, held) :: rest =>
    if key < other then (key, value) :: (other, held) :: rest
    else if key = other then (key, value) :: rest
    else (other, held) :: insert key value rest

/-- The value of a key. -/
def lookup? (key : String) : List (String × α) → Option α
  | [] => none
  | (other, held) :: rest => if key = other then some held else lookup? key rest

/-- The map of a list of pairs in any order. -/
def ofPairs (pairs : List (String × α)) : List (String × α) :=
  pairs.foldl (fun map pair => insert pair.1 pair.2 map) []

/-- Each key is less than all that follow it. -/
def Rising (pairs : List (String × α)) : Prop :=
  pairs.Pairwise (fun first second => first.1 < second.1)

/-! ## Order -/

theorem mem_insert {key : String} {value : α} {pairs : List (String × α)} {pair : String × α}
    (hmem : pair ∈ insert key value pairs) : pair = (key, value) ∨ pair ∈ pairs := by
  induction pairs with
  | nil => simpa [insert] using hmem
  | cons head rest ih =>
    obtain ⟨other, held⟩ := head
    rw [insert] at hmem
    split at hmem
    · simpa using hmem
    · split at hmem
      · rcases List.mem_cons.mp hmem with h | h <;> simp [h]
      · rcases List.mem_cons.mp hmem with h | h
        · simp [h]
        · rcases ih h with h | h <;> simp [h]

theorem rising_insert {key : String} {value : α} {pairs : List (String × α)}
    (hrising : Rising pairs) : Rising (insert key value pairs) := by
  induction pairs with
  | nil => simp [insert, Rising]
  | cons head rest ih =>
    obtain ⟨other, held⟩ := head
    obtain ⟨hhead, htail⟩ := List.pairwise_cons.mp hrising
    rw [insert]
    split
    case isTrue hless =>
      refine List.pairwise_cons.mpr ⟨fun pair hpair => ?_, hrising⟩
      rcases List.mem_cons.mp hpair with h | h
      · simpa [h] using hless
      · exact String.lt_trans hless (hhead pair h)
    case isFalse hnotless =>
      split
      case isTrue heq =>
        subst heq
        exact List.pairwise_cons.mpr ⟨hhead, htail⟩
      case isFalse hne =>
        refine List.pairwise_cons.mpr ⟨fun pair hpair => ?_, ih htail⟩
        rcases mem_insert hpair with h | h
        · subst h
          exact Classical.byContradiction fun hother =>
            hne (String.le_antisymm (String.not_lt.mp hother) (String.not_lt.mp hnotless))
        · exact hhead pair h

theorem rising_ofPairs (pairs : List (String × α)) : Rising (ofPairs pairs) := by
  have hfold : ∀ (more map : List (String × α)), Rising map →
      Rising (more.foldl (fun map pair => insert pair.1 pair.2 map) map) := by
    intro more
    induction more with
    | nil => intro map hmap; exact hmap
    | cons pair more ih => intro map hmap; exact ih _ (rising_insert hmap)
  exact hfold pairs [] List.Pairwise.nil

/-- A pair beyond all others goes to the end. -/
theorem insert_of_forall_lt {key : String} {value : α} {pairs : List (String × α)}
    (hlast : ∀ pair ∈ pairs, pair.1 < key) : insert key value pairs = pairs ++ [(key, value)] := by
  induction pairs with
  | nil => rfl
  | cons head rest ih =>
    obtain ⟨other, held⟩ := head
    have hother : other < key := hlast (other, held) (by simp)
    have hnotless : ¬ key < other := fun h => String.lt_irrefl _ (String.lt_trans h hother)
    have hne : key ≠ other := fun h => String.lt_irrefl _ (h ▸ hother)
    simp [insert, hnotless, hne, ih (fun pair hpair => hlast pair (by simp [hpair]))]

/-- A list with rising keys is its own map. -/
theorem ofPairs_of_rising {pairs : List (String × α)} (hrising : Rising pairs) :
    ofPairs pairs = pairs := by
  have hfold : ∀ (more map : List (String × α)), Rising (map ++ more) →
      more.foldl (fun map pair => insert pair.1 pair.2 map) map = map ++ more := by
    intro more
    induction more with
    | nil => intro map _; simp
    | cons pair more ih =>
      intro map hmap
      have hlast : ∀ p ∈ map, p.1 < pair.1 := fun p hp =>
        (List.pairwise_append.mp hmap).2.2 p hp pair (by simp)
      have happ : map ++ pair :: more = (map ++ [pair]) ++ more := by simp
      rw [List.foldl_cons, insert_of_forall_lt hlast, happ]
      exact ih _ (happ ▸ hmap)
  exact hfold pairs [] hrising

end ChatSteward.Dictionary
