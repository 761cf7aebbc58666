import ChatSteward.Json.Scalar

/-!
# Arrays and objects in JSON text

The brackets, commas, keys and colons of arrays and objects. What stands between the brackets
is read by a reader of items or of members; this module finds the next of them, ends the
enclosure, and gives a place to faults that were found without one: such a fault stands where
the end of the enclosure was looked for.

## Main definitions

* `Json.firstItem`, `Json.nextItem` — whether another item follows
* `Json.firstKey`, `Json.nextKey` — whether another member follows, and its key
* `Json.closeArray`, `Json.closeObject` — the end of an enclosure
* `Json.readItems` — all items of an array
* `Json.readMembers` — all members of an object, each taken by a step
-/

namespace ChatSteward.Json

/-! ## Items -/

/-- Whether an item follows an opening bracket, and the unread bytes from it or from the closing
bracket on. -/
def firstItem (bytes : List UInt8) : Reading Bool :=
  match dropBlanks bytes with
  | [] => stopAhead .endInArray []
  | Byte.closeBracket :: rest => .ok (false, Byte.closeBracket :: rest)
  | rest => .ok (true, rest)

/-- Whether an item follows another one, and the unread bytes as for the first. -/
def nextItem (bytes : List UInt8) : Reading Bool :=
  match dropBlanks bytes with
  | [] => stopAhead .endInArray []
  | Byte.closeBracket :: rest => .ok (false, Byte.closeBracket :: rest)
  | Byte.comma :: rest =>
    match dropBlanks rest with
    | [] => stopAhead .endInValue []
    | Byte.closeBracket :: rest => stopAhead .trailingComma (Byte.closeBracket :: rest)
    | rest => .ok (true, rest)
  | rest => stopAhead .expectedArrayEnd rest

/-- What follows the closing bracket of an array. -/
def endArray (bytes : List UInt8) : Except Stop (List UInt8) :=
  match dropBlanks bytes with
  | [] => stopAhead .endInArray []
  | Byte.closeBracket :: rest => .ok rest
  | Byte.comma :: rest =>
    match dropBlanks rest with
    | Byte.closeBracket :: rest => stopAhead .trailingComma (Byte.closeBracket :: rest)
    | rest => stopAhead .trailingCharacters rest
  | rest => stopAhead .trailingCharacters rest

/-- How far the end of an array is looked for after a fault. -/
def passArrayEnd (bytes : List UInt8) : List UInt8 :=
  match dropBlanks bytes with
  | Byte.closeBracket :: rest => rest
  | Byte.comma :: rest => dropBlanks rest
  | rest => rest

/-- The reading of an array whose items have been read. -/
def closeArray {α : Type} : Reading α → Reading α
  | .ok (value, rest) =>
    match endArray rest with
    | .ok rest => .ok (value, rest)
    | .error stop => .error stop
  | .error (.loose cause rest) => stopHere cause (passArrayEnd rest)
  | .error stop => .error stop

/-! ## Members -/

/-- The key whose opening quote has been read. -/
def readKey (bytes : List UInt8) : Reading (Option String) :=
  match readText bytes with
  | .ok (key, rest) => .ok (some key, rest)
  | .error stop => .error stop

/-- The key of the member that follows an opening brace, if there is one. -/
def firstKey (bytes : List UInt8) : Reading (Option String) :=
  match dropBlanks bytes with
  | [] => stopAhead .endInObject []
  | Byte.closeBrace :: rest => .ok (none, Byte.closeBrace :: rest)
  | Byte.quote :: rest => readKey rest
  | rest => stopAhead .keyNotText rest

/-- The key of the member that follows another one, if there is one. -/
def nextKey (bytes : List UInt8) : Reading (Option String) :=
  match dropBlanks bytes with
  | [] => stopAhead .endInObject []
  | Byte.closeBrace :: rest => .ok (none, Byte.closeBrace :: rest)
  | Byte.comma :: rest =>
    match dropBlanks rest with
    | [] => stopAhead .endInValue []
    | Byte.closeBrace :: rest => stopAhead .trailingComma (Byte.closeBrace :: rest)
    | Byte.quote :: rest => readKey rest
    | rest => stopAhead .keyNotText rest
  | rest => stopAhead .expectedObjectEnd rest

/-- What follows the colon after a key. -/
def readColon (bytes : List UInt8) : Except Stop (List UInt8) :=
  match dropBlanks bytes with
  | [] => stopAhead .endInObject []
  | Byte.colon :: rest => .ok rest
  | rest => stopAhead .expectedColon rest

/-- What follows the closing brace of an object. -/
def endObject (bytes : List UInt8) : Except Stop (List UInt8) :=
  match dropBlanks bytes with
  | [] => stopAhead .endInObject []
  | Byte.closeBrace :: rest => .ok rest
  | Byte.comma :: rest => stopAhead .trailingComma (Byte.comma :: rest)
  | rest => stopAhead .trailingCharacters rest

/-- How far the end of an object is looked for after a fault. -/
def passObjectEnd (bytes : List UInt8) : List UInt8 :=
  match dropBlanks bytes with
  | Byte.closeBrace :: rest => rest
  | rest => rest

/-- The reading of an object whose members have been read. -/
def closeObject {α : Type} : Reading α → Reading α
  | .ok (value, rest) =>
    match endObject rest with
    | .ok rest => .ok (value, rest)
    | .error stop => .error stop
  | .error (.loose cause rest) => stopHere cause (passObjectEnd rest)
  | .error stop => .error stop

/-! ## Lengths -/

theorem firstItem_shrinks {bytes rest : List UInt8} {more : Bool}
    (hread : firstItem bytes = .ok (more, rest)) : rest.length ≤ bytes.length := by
  have := length_dropBlanks_le bytes
  unfold firstItem at hread
  split at hread
  · simp [stopAhead] at hread
  case h_2 hfront => cases hread; rwa [hfront] at this
  case h_3 => cases hread; assumption

theorem nextItem_shrinks {bytes rest : List UInt8} {more : Bool}
    (hread : nextItem bytes = .ok (more, rest)) : rest.length ≤ bytes.length := by
  have := length_dropBlanks_le bytes
  unfold nextItem at hread
  split at hread
  · simp [stopAhead] at hread
  case h_2 hfront => cases hread; rwa [hfront] at this
  case h_3 tail hfront =>
    have := length_lt_of_dropBlanks hfront
    have := length_dropBlanks_le tail
    split at hread
    · simp [stopAhead] at hread
    · simp [stopAhead] at hread
    · cases hread
      omega
  case h_4 => simp [stopAhead] at hread

theorem endArray_shrinks {bytes rest : List UInt8} (hread : endArray bytes = .ok rest) :
    rest.length < bytes.length := by
  unfold endArray at hread
  split at hread
  · simp [stopAhead] at hread
  case h_2 hfront => cases hread; exact length_lt_of_dropBlanks hfront
  case h_3 => split at hread <;> simp [stopAhead] at hread
  case h_4 => simp [stopAhead] at hread

theorem closeArray_shrinks {α : Type} {visited : Reading α} {value : α} {rest : List UInt8}
    (hread : closeArray visited = .ok (value, rest)) :
    ∃ inside, visited = .ok (value, inside) ∧ rest.length < inside.length := by
  unfold closeArray at hread
  split at hread
  case h_1 value' inside =>
    split at hread
    case h_1 hend => cases hread; exact ⟨inside, rfl, endArray_shrinks hend⟩
    case h_2 => cases hread
  case h_2 => simp [stopHere] at hread
  case h_3 => cases hread

theorem readKey_shrinks {bytes rest : List UInt8} {key : Option String}
    (hread : readKey bytes = .ok (key, rest)) : rest.length < bytes.length := by
  unfold readKey at hread
  split at hread
  case h_1 htext => cases hread; exact readText_shrinks htext
  case h_2 => cases hread

theorem firstKey_shrinks {bytes rest : List UInt8} {key : Option String}
    (hread : firstKey bytes = .ok (key, rest)) : rest.length ≤ bytes.length := by
  have := length_dropBlanks_le bytes
  unfold firstKey at hread
  split at hread
  · simp [stopAhead] at hread
  case h_2 hfront => cases hread; rwa [hfront] at this
  case h_3 hfront =>
    have := readKey_shrinks hread
    have := length_lt_of_dropBlanks hfront
    omega
  case h_4 => simp [stopAhead] at hread

theorem nextKey_shrinks {bytes rest : List UInt8} {key : Option String}
    (hread : nextKey bytes = .ok (key, rest)) : rest.length ≤ bytes.length := by
  have := length_dropBlanks_le bytes
  unfold nextKey at hread
  split at hread
  · simp [stopAhead] at hread
  case h_2 hfront => cases hread; rwa [hfront] at this
  case h_3 tail hfront =>
    have := length_lt_of_dropBlanks hfront
    split at hread
    · simp [stopAhead] at hread
    · simp [stopAhead] at hread
    case h_3 hfront' =>
      have := length_lt_of_dropBlanks hfront'
      have := readKey_shrinks hread
      omega
    · simp [stopAhead] at hread
  case h_4 => simp [stopAhead] at hread

theorem nextKey_some_shrinks {bytes rest : List UInt8} {key : String}
    (hread : nextKey bytes = .ok (some key, rest)) : rest.length < bytes.length := by
  unfold nextKey at hread
  split at hread
  · simp [stopAhead] at hread
  · cases hread
  case h_3 tail hfront =>
    have := length_lt_of_dropBlanks hfront
    split at hread
    · simp [stopAhead] at hread
    · simp [stopAhead] at hread
    case h_3 hfront' =>
      have := length_lt_of_dropBlanks hfront'
      have := readKey_shrinks hread
      omega
    · simp [stopAhead] at hread
  case h_4 => simp [stopAhead] at hread

theorem readColon_shrinks {bytes rest : List UInt8} (hread : readColon bytes = .ok rest) :
    rest.length < bytes.length := by
  unfold readColon at hread
  split at hread
  · simp [stopAhead] at hread
  case h_2 hfront => cases hread; exact length_lt_of_dropBlanks hfront
  case h_3 => simp [stopAhead] at hread

theorem endObject_shrinks {bytes rest : List UInt8} (hread : endObject bytes = .ok rest) :
    rest.length < bytes.length := by
  unfold endObject at hread
  split at hread
  · simp [stopAhead] at hread
  case h_2 hfront => cases hread; exact length_lt_of_dropBlanks hfront
  · simp [stopAhead] at hread
  · simp [stopAhead] at hread

theorem closeObject_shrinks {α : Type} {visited : Reading α} {value : α} {rest : List UInt8}
    (hread : closeObject visited = .ok (value, rest)) :
    ∃ inside, visited = .ok (value, inside) ∧ rest.length < inside.length := by
  unfold closeObject at hread
  split at hread
  case h_1 value' inside =>
    split at hread
    case h_1 hend => cases hread; exact ⟨inside, rfl, endObject_shrinks hend⟩
    case h_2 => cases hread
  case h_2 => simp [stopHere] at hread
  case h_3 => cases hread

/-! ## All items -/

/-- The items from the one at the front on, up to the closing bracket. -/
def readItemsFrom {α : Type} (item : Reader α) (bytes : List UInt8) : Reading (List α) :=
  match _hitem : item.read bytes with
  | .error stop => .error stop
  | .ok (value, rest) =>
    match _hnext : nextItem rest with
    | .error stop => .error stop
    | .ok (false, rest) => .ok ([value], rest)
    | .ok (true, rest) =>
      match readItemsFrom item rest with
      | .error stop => .error stop
      | .ok (values, rest) => .ok (value :: values, rest)
termination_by bytes.length
decreasing_by
  have := item.shrinks _hitem
  have := nextItem_shrinks _hnext
  omega

/-- The items after an opening bracket, up to the closing one. -/
def readItems {α : Type} (item : Reader α) (bytes : List UInt8) : Reading (List α) :=
  match firstItem bytes with
  | .error stop => .error stop
  | .ok (false, rest) => .ok ([], rest)
  | .ok (true, rest) => readItemsFrom item rest

theorem readItemsFrom_shrinks {α : Type} {item : Reader α} {bytes rest : List UInt8}
    {values : List α} (hread : readItemsFrom item bytes = .ok (values, rest)) :
    rest.length ≤ bytes.length := by
  fun_induction readItemsFrom item bytes generalizing values rest with
  | case1 => cases hread
  | case2 => cases hread
  | case3 bytes value rest₁ hitem rest₂ hnext =>
    cases hread
    have := item.shrinks hitem
    have := nextItem_shrinks hnext
    omega
  | case4 => cases hread
  | case5 bytes value rest₁ hitem rest₂ hnext values' rest₃ hrec ih =>
    cases hread
    have := item.shrinks hitem
    have := nextItem_shrinks hnext
    have := ih hrec
    omega

theorem readItems_shrinks {α : Type} {item : Reader α} {bytes rest : List UInt8}
    {values : List α} (hread : readItems item bytes = .ok (values, rest)) :
    rest.length ≤ bytes.length := by
  unfold readItems at hread
  split at hread
  · cases hread
  case h_2 hfirst => cases hread; exact firstItem_shrinks hfirst
  case h_3 hfirst => exact Nat.le_trans (readItemsFrom_shrinks hread) (firstItem_shrinks hfirst)

/-! ## All members -/

/-- What a reader of members does with the key it has just read: it takes the colon and the
value, or refuses the key before them. -/
structure MemberStep (σ : Type) where
  take : σ → String → List UInt8 → Reading σ
  shrinks : ∀ {state key bytes state' rest},
    take state key bytes = .ok (state', rest) → rest.length ≤ bytes.length

/-- The members from the value of the given key on, up to the closing brace. -/
def readMembersFrom {σ : Type} (step : MemberStep σ) (state : σ) (key : String)
    (bytes : List UInt8) : Reading σ :=
  match _htake : step.take state key bytes with
  | .error stop => .error stop
  | .ok (state, rest) =>
    match _hnext : nextKey rest with
    | .error stop => .error stop
    | .ok (none, rest) => .ok (state, rest)
    | .ok (some key, rest) => readMembersFrom step state key rest
termination_by bytes.length
decreasing_by
  have := step.shrinks _htake
  have := nextKey_some_shrinks _hnext
  omega

/-- The members after an opening brace, up to the closing one. -/
def readMembers {σ : Type} (step : MemberStep σ) (state : σ) (bytes : List UInt8) : Reading σ :=
  match firstKey bytes with
  | .error stop => .error stop
  | .ok (none, rest) => .ok (state, rest)
  | .ok (some key, rest) => readMembersFrom step state key rest

theorem readMembersFrom_shrinks {σ : Type} {step : MemberStep σ} {state state' : σ} {key : String}
    {bytes rest : List UInt8}
    (hread : readMembersFrom step state key bytes = .ok (state', rest)) :
    rest.length ≤ bytes.length := by
  fun_induction readMembersFrom step state key bytes generalizing state' rest with
  | case1 => cases hread
  | case2 => cases hread
  | case3 state key bytes state₁ rest₁ htake rest₂ hnext =>
    cases hread
    have := step.shrinks htake
    have := nextKey_shrinks hnext
    omega
  | case4 state key bytes state₁ rest₁ htake key₂ rest₂ hnext ih =>
    have := step.shrinks htake
    have := nextKey_shrinks hnext
    have := ih hread
    omega

theorem readMembers_shrinks {σ : Type} {step : MemberStep σ} {state state' : σ}
    {bytes rest : List UInt8} (hread : readMembers step state bytes = .ok (state', rest)) :
    rest.length ≤ bytes.length := by
  unfold readMembers at hread
  split at hread
  · cases hread
  case h_2 hfirst => cases hread; exact firstKey_shrinks hfirst
  case h_3 hfirst => exact Nat.le_trans (readMembersFrom_shrinks hread) (firstKey_shrinks hfirst)

end ChatSteward.Json
