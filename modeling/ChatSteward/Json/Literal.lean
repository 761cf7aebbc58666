import ChatSteward.Json.Reading
import ChatSteward.Text.Utf8

/-!
# Strings in JSON text

The rest of a string after its opening quote. A string that is kept must be well-formed UTF-8
once its escapes are resolved, and a surrogate must come in a pair; a string that is only
passed over is checked for the form of its escapes and for bare controls alone.

## Main definitions

* `Json.readText` — the string that starts after an opening quote
* `Json.skipText` — what follows such a string
-/

namespace ChatSteward.Json

/-! ## Escapes -/

/-- The value of a hexadecimal digit in either case. -/
def hexDigit? (b : UInt8) : Option Nat :=
  if 0x30 ≤ b ∧ b ≤ 0x39 then some (b.toNat - 0x30)
  else if 0x61 ≤ b ∧ b ≤ 0x66 then some (b.toNat - 0x61 + 10)
  else if 0x41 ≤ b ∧ b ≤ 0x46 then some (b.toNat - 0x41 + 10)
  else none

/-- The value of four hexadecimal digits. -/
def hexValue? (a b c d : UInt8) : Option Nat := do
  return (((← hexDigit? a) * 16 + (← hexDigit? b)) * 16 + (← hexDigit? c)) * 16 + (← hexDigit? d)

/-- The four hexadecimal digits at the front. -/
def readHex : List UInt8 → Reading Nat
  | a :: b :: c :: d :: rest =>
    match hexValue? a b c d with
    | some value => .ok (value, rest)
    | none => stopHere .invalidEscape rest
  | _ => stopHere .endInText []

/-- Whether a unit of sixteen bits is the first of a pair. -/
def isLeadingSurrogate (unit : Nat) : Bool := 0xD800 ≤ unit && unit ≤ 0xDBFF

/-- Whether a unit of sixteen bits is the second of a pair. -/
def isTrailingSurrogate (unit : Nat) : Bool := 0xDC00 ≤ unit && unit ≤ 0xDFFF

/-- The code point of a pair of units. -/
def pairedCodePoint (leading trailing : Nat) : Nat :=
  0x10000 + (leading - 0xD800) * 0x400 + (trailing - 0xDC00)

/-- The bytes of a code point. -/
def codePointBytes (n : Nat) : List UInt8 := String.utf8EncodeChar (Char.ofNat n)

/-- The second unit of a pair, whose escape follows. -/
def readTrailing : List UInt8 → Reading Nat
  | [] => stopHere .endInText []
  | Byte.backslash :: [] => stopHere .endInText []
  | Byte.backslash :: Byte.letterU :: rest =>
    match readHex rest with
    | .error stop => .error stop
    | .ok (unit, rest) =>
      if isTrailingSurrogate unit then .ok (unit, rest) else stopHere .loneSurrogate rest
  | Byte.backslash :: _ :: rest => stopHere .missingSurrogate rest
  | _ :: rest => stopHere .missingSurrogate rest

/-- The bytes of an escape by number, whose digits follow. -/
def readNumericEscape (bytes : List UInt8) : Reading (List UInt8) :=
  match readHex bytes with
  | .error stop => .error stop
  | .ok (unit, rest) =>
    if isTrailingSurrogate unit then stopHere .loneSurrogate rest
    else if isLeadingSurrogate unit then
      match readTrailing rest with
      | .error stop => .error stop
      | .ok (trailing, rest) => .ok (codePointBytes (pairedCodePoint unit trailing), rest)
    else .ok (codePointBytes unit, rest)

/-- The byte that an escape by letter stands for. -/
def letterEscape? (b : UInt8) : Option UInt8 :=
  if b = Byte.quote ∨ b = Byte.backslash ∨ b = Byte.of '/' then some b
  else if b = Byte.of 'b' then some 0x08
  else if b = Byte.of 'f' then some 0x0C
  else if b = Byte.of 'n' then some 0x0A
  else if b = Byte.of 'r' then some 0x0D
  else if b = Byte.of 't' then some 0x09
  else none

/-- The bytes of the escape that starts after its backslash. -/
def readEscape : List UInt8 → Reading (List UInt8)
  | [] => stopHere .endInText []
  | b :: rest =>
    match letterEscape? b with
    | some byte => .ok ([byte], rest)
    | none => if b = Byte.letterU then readNumericEscape rest else stopHere .invalidEscape rest

/-- What follows the escape that starts after its backslash. -/
def skipEscape : List UInt8 → Except Stop (List UInt8)
  | [] => stopHere .endInText []
  | b :: rest =>
    match letterEscape? b with
    | some _ => .ok rest
    | none =>
      if b = Byte.letterU then
        match readHex rest with
        | .ok (_, rest) => .ok rest
        | .error stop => .error stop
      else stopHere .invalidEscape rest

theorem readHex_shrinks {bytes rest : List UInt8} {value : Nat}
    (hread : readHex bytes = .ok (value, rest)) : rest.length < bytes.length := by
  unfold readHex at hread
  split at hread
  · split at hread
    · cases hread
      simp only [List.length_cons]
      omega
    · simp [stopHere] at hread
  · simp [stopHere] at hread

theorem readTrailing_shrinks {bytes rest : List UInt8} {value : Nat}
    (hread : readTrailing bytes = .ok (value, rest)) : rest.length < bytes.length := by
  unfold readTrailing at hread
  split at hread
  case h_3 tail =>
    split at hread
    · cases hread
    case h_2 hhex =>
      have := readHex_shrinks hhex
      split at hread
      · cases hread
        simp only [List.length_cons]
        omega
      · simp [stopHere] at hread
  all_goals simp [stopHere] at hread

theorem readNumericEscape_shrinks {bytes rest value : List UInt8}
    (hread : readNumericEscape bytes = .ok (value, rest)) : rest.length < bytes.length := by
  unfold readNumericEscape at hread
  split at hread
  · cases hread
  case h_2 hhex =>
    have := readHex_shrinks hhex
    split at hread
    · simp [stopHere] at hread
    · split at hread
      · split at hread
        · cases hread
        case h_2 htrailing =>
          have := readTrailing_shrinks htrailing
          obtain ⟨-, rfl⟩ := Prod.mk.inj (Except.ok.inj hread)
          omega
      · obtain ⟨-, rfl⟩ := Prod.mk.inj (Except.ok.inj hread)
        assumption

theorem readEscape_shrinks {bytes rest value : List UInt8}
    (hread : readEscape bytes = .ok (value, rest)) : rest.length < bytes.length := by
  unfold readEscape at hread
  split at hread
  · simp [stopHere] at hread
  · split at hread
    · cases hread
      simp
    · split at hread
      · exact Nat.lt_succ_of_lt (readNumericEscape_shrinks hread)
      · simp [stopHere] at hread

theorem skipEscape_shrinks {bytes rest : List UInt8} (hskip : skipEscape bytes = .ok rest) :
    rest.length < bytes.length := by
  unfold skipEscape at hskip
  split at hskip
  · simp [stopHere] at hskip
  · split at hskip
    · cases hskip
      simp
    · split at hskip
      · split at hskip
        case h_1 hhex =>
          cases hskip
          exact Nat.lt_succ_of_lt (readHex_shrinks hhex)
        case h_2 => cases hskip
      · simp [stopHere] at hskip

/-! ## Whole strings -/

/-- The bytes of a string with its escapes resolved, and the unread bytes from its closing
quote on. -/
def readContent (bytes : List UInt8) : Reading (List UInt8) :=
  match bytes with
  | [] => stopHere .endInText []
  | Byte.quote :: rest => .ok ([], Byte.quote :: rest)
  | Byte.backslash :: rest =>
    match _hescape : readEscape rest with
    | .error stop => .error stop
    | .ok (escaped, rest') =>
      match readContent rest' with
      | .error stop => .error stop
      | .ok (content, atQuote) => .ok (escaped ++ content, atQuote)
  | b :: rest =>
    if b < 0x20 then stopHere .controlCharacter rest
    else
      match readContent rest with
      | .error stop => .error stop
      | .ok (content, atQuote) => .ok (b :: content, atQuote)
termination_by bytes.length
decreasing_by
  · exact Nat.lt_succ_of_lt (readEscape_shrinks _hescape)
  · simp

/-- The string that starts after its opening quote. It is decoded when its escapes are resolved,
and bytes that are ill formed are placed by counting back from the closing quote: as many bytes
as the content has from the first ill-formed one on. -/
def readText (bytes : List UInt8) : Reading String :=
  match readContent bytes with
  | .error stop => .error stop
  | .ok (content, atQuote) =>
    let rest := atQuote.drop 1
    match Text.decodeUtf8? content with
    | some text => .ok (text, rest)
    | none =>
      .error (.placed .invalidCodePoint (rest.length + (Text.fromIllFormed content).length))

/-- What follows a string that starts after its opening quote. -/
def skipText (bytes : List UInt8) : Except Stop (List UInt8) :=
  match bytes with
  | [] => stopHere .endInText []
  | Byte.quote :: rest => .ok rest
  | Byte.backslash :: rest =>
    match _hescape : skipEscape rest with
    | .error stop => .error stop
    | .ok rest' => skipText rest'
  | b :: rest => if b < 0x20 then stopHere .controlCharacter (b :: rest) else skipText rest
termination_by bytes.length
decreasing_by
  · exact Nat.lt_succ_of_lt (skipEscape_shrinks _hescape)
  · simp

theorem readContent_shrinks {bytes rest content : List UInt8}
    (hread : readContent bytes = .ok (content, rest)) :
    0 < rest.length ∧ rest.length ≤ bytes.length := by
  fun_induction readContent bytes generalizing content rest with
  | case1 => simp [stopHere] at hread
  | case2 => cases hread; simp
  | case3 => cases hread
  | case4 => cases hread
  | case5 tail escaped rest' hescape content' atQuote hcontent ih =>
    cases hread
    have := ih hcontent
    have := readEscape_shrinks hescape
    simp only [List.length_cons]
    omega
  | case6 => simp [stopHere] at hread
  | case7 => cases hread
  | case8 b tail _ _ _ content' atQuote hcontent ih =>
    cases hread
    have := ih hcontent
    simp only [List.length_cons]
    omega

theorem readText_shrinks {bytes rest : List UInt8} {text : String}
    (hread : readText bytes = .ok (text, rest)) : rest.length < bytes.length := by
  unfold readText at hread
  split at hread
  · cases hread
  case h_2 hcontent =>
    have := readContent_shrinks hcontent
    split at hread
    · cases hread
      simp only [List.length_drop]
      omega
    · cases hread

theorem skipText_shrinks {bytes rest : List UInt8} (hskip : skipText bytes = .ok rest) :
    rest.length < bytes.length := by
  fun_induction skipText bytes generalizing rest with
  | case1 => simp [stopHere] at hskip
  | case2 => cases hskip; simp
  | case3 => cases hskip
  | case4 tail rest' hescape ih =>
    have := ih hskip
    have := skipEscape_shrinks hescape
    simp only [List.length_cons]
    omega
  | case5 => simp [stopHere] at hskip
  | case6 b tail _ _ _ ih =>
    have := ih hskip
    simp only [List.length_cons]
    omega

end ChatSteward.Json
