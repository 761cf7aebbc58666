import ChatSteward.Json.Decoder

/-!
# Records

A record type is decoded from an object, in which unknown members are passed over and no known
one may come twice, or from an array that lists the fields in their order. Decoding starts from
a record of default values and sets the fields one by one, so a field that may be absent keeps
its default.

## Main definitions

* `Json.Absence` — what it means that a field is absent
* `Json.Field` — one field of a record
* `Json.Record` — a record type
* `Json.Record.decoder` — its decoder
-/

namespace ChatSteward.Json

/-- What it means that a field is absent. -/
inductive Absence where
  /-- The field keeps its default. -/
  | allowed
  /-- The field keeps its default in an object; an array must list it. -/
  | allowedInObject
  /-- The record cannot be decoded. -/
  | refused
deriving DecidableEq, Repr

/-- A field of a record: its value is decoded into a change of the record. -/
structure Field (σ : Type) where
  name : String
  absence : Absence
  decoder : Decoder (σ → σ)

/-- A field that may be absent. -/
def Field.defaulted {σ α : Type} (name : String) (decoder : Decoder α) (set : α → σ → σ) :
    Field σ :=
  ⟨name, .allowed, decoder.map set⟩

/-- A field that must be there. -/
def Field.required {σ α : Type} (name : String) (decoder : Decoder α) (set : α → σ → σ) :
    Field σ :=
  ⟨name, .refused, decoder.map set⟩

/-- A field that an object may leave out and an array may not. -/
def Field.elective {σ α : Type} (name : String) (decoder : Decoder α) (set : α → σ → σ) :
    Field σ :=
  ⟨name, .allowedInObject, decoder.map set⟩

/-- A record type: how faults call it, its fields in order, and its default. -/
structure Record (σ : Type) where
  title : String
  fields : List (Field σ)
  start : σ

namespace Record

variable {σ : Type}

/-- The field of a name. -/
def field? (record : Record σ) (name : String) : Option (Field σ) :=
  record.fields.find? (·.name == name)

/-- What a fault of length expects. -/
def expectedLength (record : Record σ) : String :=
  record.title ++ " with " ++ Nat.repr record.fields.length ++
    (if record.fields.length = 1 then " element" else " elements")

/-- The fault of an array that ends before the field of an index. -/
def tooShort (record : Record σ) (index : Nat) : Cause :=
  .wrongLength index record.expectedLength

/-- The first field that an object must have and that is not among some keys. -/
def missing? (record : Record σ) (seen : List String) : Option String :=
  (record.fields.find? fun f => f.absence = .refused && !seen.contains f.name).map (·.name)

/-! ## From text -/

/-- The fields listed in an array; `next` looks for the next item. -/
def readListed (record : Record σ) (depth : Nat) :
    (fields : List (Field σ)) → (index : Nat) → (state : σ) →
      (next : List UInt8 → Reading Bool) → List UInt8 → Reading σ
  | [], _, state, _, bytes => .ok (state, bytes)
  | field :: fields, index, state, next, bytes =>
    match next bytes with
    | .error stop => .error stop
    | .ok (false, rest) =>
      if field.absence = .allowed then readListed record depth fields (index + 1) state next rest
      else .error (.loose (record.tooShort index) rest)
    | .ok (true, rest) =>
      match (field.decoder.reader depth).read rest with
      | .error stop => .error stop
      | .ok (set, rest) => readListed record depth fields (index + 1) (set state) nextItem rest

theorem readListed_shrinks {record : Record σ} {depth : Nat} {fields : List (Field σ)}
    {index : Nat} {state state' : σ} {next : List UInt8 → Reading Bool} {bytes rest : List UInt8}
    (hnext : ∀ {bytes more rest}, next bytes = .ok (more, rest) → rest.length ≤ bytes.length)
    (hread : readListed record depth fields index state next bytes = .ok (state', rest)) :
    rest.length ≤ bytes.length := by
  induction fields generalizing index state next bytes with
  | nil =>
    cases hread
    exact Nat.le_refl _
  | cons field fields ih =>
    rw [readListed] at hread
    split at hread
    · cases hread
    case h_2 hmore =>
      have := hnext hmore
      split at hread
      · have := ih hnext hread
        omega
      · cases hread
    case h_3 hmore =>
      have := hnext hmore
      split at hread
      · cases hread
      case h_2 hfield =>
        have := (field.decoder.reader depth).shrinks hfield
        have := ih nextItem_shrinks hread
        omega

/-- The step that sets a field, or passes over a member that is none. -/
def setStep (record : Record σ) (depth : Nat) : MemberStep (σ × List String) where
  take state key bytes :=
    match record.field? key with
    | some field =>
      if state.2.contains key then .error (.loose (.duplicateField key) bytes)
      else
        match readColon bytes with
        | .error stop => .error stop
        | .ok rest =>
          match (field.decoder.reader depth).read rest with
          | .error stop => .error stop
          | .ok (set, rest) => .ok ((set state.1, key :: state.2), rest)
    | none =>
      match readColon bytes with
      | .error stop => .error stop
      | .ok rest =>
        match skipped.read rest with
        | .error stop => .error stop
        | .ok (_, rest) => .ok (state, rest)
  shrinks := by
    intro state key bytes state' rest hread
    split at hread
    case h_1 field _ =>
      split at hread
      · cases hread
      · split at hread
        · cases hread
        case h_2 hcolon =>
          have := readColon_shrinks hcolon
          split at hread
          · cases hread
          case h_2 hfield =>
            have := (field.decoder.reader depth).shrinks hfield
            cases hread
            omega
    case h_2 =>
      split at hread
      · cases hread
      case h_2 hcolon =>
        have := readColon_shrinks hcolon
        split at hread
        · cases hread
        case h_2 hskip =>
          have := skipped.shrinks hskip
          cases hread
          omega

/-- The record of the members of an object, up to the closing brace. -/
def readNamed (record : Record σ) (depth : Nat) (bytes : List UInt8) : Reading σ :=
  match readMembers (record.setStep depth) (record.start, []) bytes with
  | .error stop => .error stop
  | .ok ((state, seen), rest) =>
    match record.missing? seen with
    | some name => .error (.loose (.missingField name) rest)
    | none => .ok (state, rest)

theorem readNamed_shrinks {record : Record σ} {depth : Nat} {bytes rest : List UInt8} {state : σ}
    (hread : record.readNamed depth bytes = .ok (state, rest)) : rest.length ≤ bytes.length := by
  unfold readNamed at hread
  split at hread
  · cases hread
  case h_2 hmembers =>
    have := readMembers_shrinks hmembers
    split at hread
    · cases hread
    · cases hread
      exact this

/-! ## From generic values -/

/-- The record of a list of members, with the keys seen before them. -/
def ofMembersFrom (record : Record σ) (state : σ) (seen : List String) :
    List (String × Value) → Except Cause σ
  | [] =>
    match record.missing? seen with
    | some name => .error (.missingField name)
    | none => .ok state
  | (key, value) :: rest =>
    match record.field? key with
    | none => ofMembersFrom record state seen rest
    | some field =>
      if seen.contains key then .error (.duplicateField key)
      else
        match field.decoder.ofValue value with
        | .error cause => .error cause
        | .ok set => ofMembersFrom record (set state) (key :: seen) rest

/-- The record of a list of members. -/
def ofMembers (record : Record σ) (members : List (String × Value)) : Except Cause σ :=
  record.ofMembersFrom record.start [] members

/-- The record of a list of items for the given fields, and the items that are left over. -/
def ofItemsFrom (record : Record σ) :
    List (Field σ) → Nat → σ → List Value → Except Cause (σ × List Value)
  | [], _, state, items => .ok (state, items)
  | field :: fields, index, state, [] =>
    if field.absence = .allowed then ofItemsFrom record fields (index + 1) state []
    else .error (record.tooShort index)
  | field :: fields, index, state, item :: items =>
    match field.decoder.ofValue item with
    | .error cause => .error cause
    | .ok set => ofItemsFrom record fields (index + 1) (set state) items

/-- The record of a list of items, and the items that are left over. -/
def ofItems (record : Record σ) (items : List Value) : Except Cause (σ × List Value) :=
  record.ofItemsFrom record.fields 0 record.start items

/-- The decoder of a record type. -/
def decoder (record : Record σ) : Decoder σ where
  reader depth :=
    Decoder.arrayOr
      (Decoder.arrayReader record.title depth
        (readListed record (depth - 1) record.fields 0 record.start firstItem)
        (readListed_shrinks firstItem_shrinks))
      (Decoder.objectReader record.title depth (record.readNamed (depth - 1)) readNamed_shrinks)
  ofValue
    | .array items =>
      match record.ofItems items with
      | .error cause => .error cause
      | .ok (state, []) => .ok state
      | .ok (_, _ :: _) => .error (.wrongLength items.length "fewer elements in array")
    | .object members => record.ofMembers members
    | other => .error (.mismatch other.finding record.title)

end Record

end ChatSteward.Json
