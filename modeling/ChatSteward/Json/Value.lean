import ChatSteward.Number.Binary64
import ChatSteward.Text.Dictionary

/-!
# JSON values

The generic JSON value. The members of an object are a list of pairs: a value that was read
keeps them sorted by key, each key once, and a value that is built to be written keeps them in
the order in which they are to be written.

## Main definitions

* `Json.Number`, `Json.Value` — the values
* `Json.Value.sorted` — the same value with the members of every object sorted
* `Json.Value.same` — a test of equality

## Main results

* `Json.Value.eq_of_same`, `Json.Value.same_self` — the test finds exactly the equal values
-/

namespace ChatSteward.Json

/-- A number: an integer within the bounds of 64 bits, or a binary fraction. -/
inductive Number where
  | integer (value : Int)
  | fraction (value : Binary64)
deriving DecidableEq, Repr

/-- A JSON value. -/
inductive Value where
  | null
  | boolean (value : Bool)
  | number (value : Number)
  | text (value : String)
  | array (items : List Value)
  | object (members : List (String × Value))
deriving Repr

namespace Value

/-- Stands for an absent value. -/
instance : Inhabited Value := ⟨.null⟩

mutual

/-- The value with the members of every object sorted by key, the last of a key winning. -/
def sorted : Value → Value
  | .null => .null
  | .boolean b => .boolean b
  | .number n => .number n
  | .text s => .text s
  | .array items => .array (sortedItems items)
  | .object members => .object (Dictionary.ofPairs (sortedMembers members))

/-- The items of an array, each sorted within. -/
def sortedItems : List Value → List Value
  | [] => []
  | item :: rest => item.sorted :: sortedItems rest

/-- The members of an object, each sorted within. -/
def sortedMembers : List (String × Value) → List (String × Value)
  | [] => []
  | (key, value) :: rest => (key, value.sorted) :: sortedMembers rest

end

/-! ## Equality -/

mutual

/-- Whether two values are the same. -/
def same : Value → Value → Bool
  | .null, .null => true
  | .boolean a, .boolean b => a == b
  | .number a, .number b => a == b
  | .text a, .text b => a == b
  | .array a, .array b => sameItems a b
  | .object a, .object b => sameMembers a b
  | _, _ => false

/-- Whether two lists of items are the same. -/
def sameItems : List Value → List Value → Bool
  | [], [] => true
  | first :: rest, second :: others => first.same second && sameItems rest others
  | _, _ => false

/-- Whether two lists of members are the same. -/
def sameMembers : List (String × Value) → List (String × Value) → Bool
  | [], [] => true
  | (key, first) :: rest, (other, second) :: others =>
    key == other && first.same second && sameMembers rest others
  | _, _ => false

end

mutual

theorem eq_of_same : (first second : Value) → first.same second = true → first = second
  | .null, second, hsame => by cases second <;> simp_all [same]
  | .boolean _, second, hsame => by cases second <;> simp_all [same]
  | .number _, second, hsame => by cases second <;> simp_all [same]
  | .text _, second, hsame => by cases second <;> simp_all [same]
  | .array items, second, hsame => by
    cases second with
    | array others => rw [eq_of_sameItems items others (by simpa [same] using hsame)]
    | _ => simp [same] at hsame
  | .object members, second, hsame => by
    cases second with
    | object others => rw [eq_of_sameMembers members others (by simpa [same] using hsame)]
    | _ => simp [same] at hsame

theorem eq_of_sameItems :
    (items others : List Value) → sameItems items others = true → items = others
  | [], [], _ => rfl
  | [], _ :: _, hsame => by simp [sameItems] at hsame
  | _ :: _, [], hsame => by simp [sameItems] at hsame
  | first :: rest, second :: others, hsame => by
    simp only [sameItems, Bool.and_eq_true] at hsame
    rw [eq_of_same first second hsame.1, eq_of_sameItems rest others hsame.2]

theorem eq_of_sameMembers :
    (members others : List (String × Value)) → sameMembers members others = true →
      members = others
  | [], [], _ => rfl
  | [], _ :: _, hsame => by simp [sameMembers] at hsame
  | _ :: _, [], hsame => by simp [sameMembers] at hsame
  | (key, first) :: rest, (other, second) :: others, hsame => by
    simp only [sameMembers, Bool.and_eq_true, beq_iff_eq] at hsame
    rw [hsame.1.1, eq_of_same first second hsame.1.2, eq_of_sameMembers rest others hsame.2]

end

mutual

theorem same_self : (value : Value) → value.same value = true
  | .null => rfl
  | .boolean b => by simp [same]
  | .number n => by simp [same]
  | .text s => by simp [same]
  | .array items => by rw [same]; exact sameItems_self items
  | .object members => by rw [same]; exact sameMembers_self members

theorem sameItems_self : (items : List Value) → sameItems items items = true
  | [] => rfl
  | first :: rest => by rw [sameItems, same_self first, sameItems_self rest]; rfl

theorem sameMembers_self : (members : List (String × Value)) → sameMembers members members = true
  | [] => rfl
  | (key, value) :: rest => by
    rw [sameMembers, same_self value, sameMembers_self rest]
    simp

end

/-- Two values can be compared. -/
instance : DecidableEq Value := fun first second =>
  decidable_of_iff (first.same second = true)
    ⟨eq_of_same first second, fun h => h ▸ same_self first⟩

end Value

end ChatSteward.Json
