import ChatSteward.Json.Record

/-!
# Tagged variants

A value of one of several record types, told apart by a tag: an object with the tag as one of
its members, in any place, or an array with the tag in front. The other members are kept as
they come until the tag is known and decoded then, so a fault in one of them is placed by the
enclosing array, after the whole value.

## Main definitions

* `Json.Tagged` — the variants and their tags
* `Json.Tagged.decoder` — the decoder
-/

namespace ChatSteward.Json

/-- What is known of a tagged value before it is decoded: the fields by place or by name. -/
inductive Content where
  | items (values : List Value)
  | members (pairs : List (String × Value))

/-- Variants told apart by a tag. -/
structure Tagged (σ : Type) where
  /-- What faults call a value of the type. -/
  title : String
  /-- The member that holds the tag. -/
  tag : String
  /-- The variants with their tags. -/
  variants : List (String × Record σ)

namespace Tagged

variable {σ : Type}

/-- The decoder of a tag. -/
def tagDecoder (tagged : Tagged σ) : Decoder (Record σ) :=
  Decoder.scalar "variant identifier" fun
    | .text s =>
      match Dictionary.lookup? s tagged.variants with
      | some record => .ok record
      | none => .error (.unknownVariant s (tagged.variants.map (·.1)))
    | other => .error (.mismatch other.finding "variant identifier")

/-- The value of a variant with its content. -/
def ofContent (record : Record σ) : Content → Except Cause σ
  | .members pairs => record.ofMembers pairs
  | .items values =>
    match record.ofItems values with
    | .error cause => .error cause
    | .ok (state, []) => .ok state
    | .ok (_, _ :: _) =>
      .error (.wrongLength values.length
        (Nat.repr record.fields.length ++
          (if record.fields.length = 1 then " element in sequence" else " elements in sequence")))

/-! ## From text -/

/-- The tag and the items that follow it in an array. -/
def readListed (tagged : Tagged σ) (depth : Nat) (bytes : List UInt8) :
    Reading (Record σ × Content) :=
  match firstItem bytes with
  | .error stop => .error stop
  | .ok (false, rest) => .error (.loose (.missingField tagged.tag) rest)
  | .ok (true, rest) =>
    match (tagged.tagDecoder.reader depth).read rest with
    | .error stop => .error stop
    | .ok (record, rest) =>
      match nextItem rest with
      | .error stop => .error stop
      | .ok (false, rest) => .ok ((record, .items []), rest)
      | .ok (true, rest) =>
        match readItemsFrom (Decoder.valueReader depth) rest with
        | .error stop => .error stop
        | .ok (values, rest) => .ok ((record, .items values), rest)

theorem readListed_shrinks {tagged : Tagged σ} {depth : Nat} {bytes rest : List UInt8}
    {found : Record σ × Content}
    (hread : tagged.readListed depth bytes = .ok (found, rest)) : rest.length ≤ bytes.length := by
  unfold readListed at hread
  split at hread
  · cases hread
  · cases hread
  case h_3 hfirst =>
    have := firstItem_shrinks hfirst
    split at hread
    · cases hread
    case h_2 htag =>
      have := (tagged.tagDecoder.reader depth).shrinks htag
      split at hread
      · cases hread
      case h_2 hnext =>
        have := nextItem_shrinks hnext
        cases hread
        omega
      case h_3 hnext =>
        have := nextItem_shrinks hnext
        split at hread
        · cases hread
        case h_2 hitems =>
          have := readItemsFrom_shrinks hitems
          cases hread
          omega

/-- The step that takes the tag or keeps another member. -/
def keepStep (tagged : Tagged σ) (depth : Nat) :
    MemberStep (Option (Record σ) × List (String × Value)) where
  take state key bytes :=
    if key = tagged.tag ∧ state.1.isSome then .error (.loose (.duplicateField key) bytes)
    else
      match readColon bytes with
      | .error stop => .error stop
      | .ok rest =>
        if key = tagged.tag then
          match (tagged.tagDecoder.reader depth).read rest with
          | .error stop => .error stop
          | .ok (record, rest) => .ok ((some record, state.2), rest)
        else
          match (Decoder.valueReader depth).read rest with
          | .error stop => .error stop
          | .ok (value, rest) => .ok ((state.1, state.2 ++ [(key, value)]), rest)
  shrinks := by
    intro state key bytes state' rest hread
    split at hread
    · cases hread
    · split at hread
      · cases hread
      case h_2 hcolon =>
        have := readColon_shrinks hcolon
        split at hread
        · split at hread
          · cases hread
          case h_2 htag =>
            have := (tagged.tagDecoder.reader depth).shrinks htag
            cases hread
            omega
        · split at hread
          · cases hread
          case h_2 hvalue =>
            have := (Decoder.valueReader depth).shrinks hvalue
            cases hread
            omega

/-- The tag and the other members of an object. -/
def readNamed (tagged : Tagged σ) (depth : Nat) (bytes : List UInt8) :
    Reading (Record σ × Content) :=
  match readMembers (tagged.keepStep depth) (none, []) bytes with
  | .error stop => .error stop
  | .ok ((some record, members), rest) => .ok ((record, .members members), rest)
  | .ok ((none, _), rest) => .error (.loose (.missingField tagged.tag) rest)

theorem readNamed_shrinks {tagged : Tagged σ} {depth : Nat} {bytes rest : List UInt8}
    {found : Record σ × Content}
    (hread : tagged.readNamed depth bytes = .ok (found, rest)) : rest.length ≤ bytes.length := by
  unfold readNamed at hread
  split at hread
  · cases hread
  case h_2 hmembers =>
    cases hread
    exact readMembers_shrinks hmembers
  · cases hread

/-- The reader of a tag with its content. -/
def contentReader (tagged : Tagged σ) (depth : Nat) : Reader (Record σ × Content) :=
  Decoder.arrayOr
    (Decoder.arrayReader tagged.title depth (tagged.readListed (depth - 1)) readListed_shrinks)
    (Decoder.objectReader tagged.title depth (tagged.readNamed (depth - 1)) readNamed_shrinks)

/-! ## From generic values -/

/-- The value of a list of members, with the tag and the other members found before them. -/
def ofMembersFrom (tagged : Tagged σ) (found : Option (Record σ)) (kept : List (String × Value)) :
    List (String × Value) → Except Cause σ
  | [] =>
    match found with
    | some record => ofContent record (.members kept)
    | none => .error (.missingField tagged.tag)
  | (key, value) :: rest =>
    if key = tagged.tag then
      if found.isSome then .error (.duplicateField key)
      else
        match tagged.tagDecoder.ofValue value with
        | .error cause => .error cause
        | .ok record => ofMembersFrom tagged (some record) kept rest
    else ofMembersFrom tagged found (kept ++ [(key, value)]) rest

/-- The value of an array with its tag in front. -/
def ofItems (tagged : Tagged σ) : List Value → Except Cause σ
  | [] => .error (.missingField tagged.tag)
  | tag :: values =>
    match tagged.tagDecoder.ofValue tag with
    | .error cause => .error cause
    | .ok record => ofContent record (.items values)

/-- The decoder of tagged variants. -/
def decoder (tagged : Tagged σ) : Decoder σ where
  reader depth :=
    { read := fun bytes =>
        match (tagged.contentReader depth).read bytes with
        | .error stop => .error stop
        | .ok ((record, content), rest) =>
          match ofContent record content with
          | .ok value => .ok (value, rest)
          | .error cause => .error (.loose cause rest)
      shrinks := by
        intro bytes value rest hread
        split at hread
        · cases hread
        case h_2 hcontent =>
          have := (tagged.contentReader depth).shrinks hcontent
          split at hread
          · cases hread
            exact this
          · cases hread }
  ofValue
    | .array items => tagged.ofItems items
    | .object members => tagged.ofMembersFrom none [] members
    | other => .error (.mismatch other.finding tagged.title)

end Tagged

end ChatSteward.Json
