/-!
# UTF-8

Texts travel as bytes. Encoding always succeeds; decoding is either strict, when a single bad
byte refuses the whole, or lossy, when every maximal ill-formed part becomes one replacement
character.

## Main definitions

* `encodeUtf8` — the bytes of a string
* `decodeUtf8?` — strict decoding
* `fromIllFormed` — where strict decoding fails
* `decodeLossy` — lossy decoding

## Main results

* `decodeUtf8?_encodeUtf8` — strict decoding undoes encoding
-/

namespace ChatSteward.Text

/-- The UTF-8 bytes of a string. -/
def encodeUtf8 (text : String) : List UInt8 :=
  text.toUTF8.data.toList

/-- The string with the given UTF-8 bytes, if they are well formed. -/
def decodeUtf8? (bytes : List UInt8) : Option String :=
  String.fromUTF8? ⟨bytes.toArray⟩

theorem decodeUtf8?_encodeUtf8 (text : String) : decodeUtf8? (encodeUtf8 text) = some text := by
  have hbytes : (⟨(encodeUtf8 text).toArray⟩ : ByteArray) = text.toByteArray := by
    simp [encodeUtf8]
  have hvalid : (⟨(encodeUtf8 text).toArray⟩ : ByteArray).IsValidUTF8 :=
    hbytes ▸ text.isValidUTF8
  rw [decodeUtf8?, String.fromUTF8?, dif_pos hvalid, Option.some.injEq]
  exact String.toByteArray_inj.mp hbytes

@[simp] theorem encodeUtf8_append (first second : String) :
    encodeUtf8 (first ++ second) = encodeUtf8 first ++ encodeUtf8 second := by
  simp [encodeUtf8]

/-! ## Where bytes are ill formed -/

/-- The bytes after the character that they start with, if they start with one. -/
def dropCharacter? (bytes : List UInt8) : Option (List UInt8) :=
  [1, 2, 3, 4].findSome? fun n =>
    if n ≤ bytes.length ∧ (decodeUtf8? (bytes.take n)).isSome then some (bytes.drop n) else none

theorem dropCharacter?_shrinks {bytes rest : List UInt8}
    (hdrop : dropCharacter? bytes = some rest) : rest.length < bytes.length := by
  obtain ⟨n, hn, hrest⟩ := List.exists_of_findSome?_eq_some hdrop
  split at hrest
  case isTrue hlong =>
    cases hrest
    have hpositive : 0 < n := by
      simp only [List.mem_cons, List.not_mem_nil, or_false] at hn
      omega
    rw [List.length_drop]
    omega
  case isFalse => cases hrest

/-- The bytes from the first on with which no character starts. -/
def fromIllFormed (bytes : List UInt8) : List UInt8 :=
  match _hdrop : dropCharacter? bytes with
  | none => bytes
  | some rest => fromIllFormed rest
termination_by bytes.length
decreasing_by exact dropCharacter?_shrinks _hdrop

/-! ## Lossy decoding -/

/-- A sequence under way: how many bytes it still needs, the bounds of the next of them, and
the bits read so far. -/
structure Unfinished where
  needed : Nat
  low : Nat
  high : Nat
  bits : Nat

/-- Stands for an ill-formed part. -/
def replacement : Char := '\uFFFD'

/-- What a byte that starts a sequence yields at once, and what it leaves to be finished. -/
def beginSequence (byte : UInt8) : List Char × Option Unfinished :=
  let n := byte.toNat
  if n < 0x80 then ([Char.ofNat n], none)
  else if 0xC2 ≤ n ∧ n ≤ 0xDF then ([], some ⟨1, 0x80, 0xBF, n - 0xC0⟩)
  else if n = 0xE0 then ([], some ⟨2, 0xA0, 0xBF, 0⟩)
  else if n = 0xED then ([], some ⟨2, 0x80, 0x9F, 0xD⟩)
  else if 0xE1 ≤ n ∧ n ≤ 0xEF then ([], some ⟨2, 0x80, 0xBF, n - 0xE0⟩)
  else if n = 0xF0 then ([], some ⟨3, 0x90, 0xBF, 0⟩)
  else if n = 0xF4 then ([], some ⟨3, 0x80, 0x8F, 4⟩)
  else if 0xF1 ≤ n ∧ n ≤ 0xF3 then ([], some ⟨3, 0x80, 0xBF, n - 0xF0⟩)
  else ([replacement], none)

/-- What one more byte yields: a sequence that it cannot continue is given up, and the byte
starts anew. -/
def continueSequence (pending : Option Unfinished) (byte : UInt8) :
    List Char × Option Unfinished :=
  match pending with
  | none => beginSequence byte
  | some part =>
    let n := byte.toNat
    if part.low ≤ n ∧ n ≤ part.high then
      let bits := part.bits * 64 + (n - 0x80)
      if part.needed = 1 then ([Char.ofNat bits], none)
      else ([], some ⟨part.needed - 1, 0x80, 0xBF, bits⟩)
    else
      let (chars, next) := beginSequence byte
      (replacement :: chars, next)

/-- Lossy decoding of the bytes that follow a sequence under way. -/
def decodeLossyFrom : Option Unfinished → List UInt8 → List Char
  | none, [] => []
  | some _, [] => [replacement]
  | pending, byte :: rest =>
    let (chars, next) := continueSequence pending byte
    chars ++ decodeLossyFrom next rest

/-- The text of some bytes, with a replacement character for every ill-formed part. -/
def decodeLossy (bytes : List UInt8) : String :=
  String.ofList (decodeLossyFrom none bytes)

end ChatSteward.Text
