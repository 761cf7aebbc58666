import ChatSteward.Text.Lowercase
import Mathlib.Logic.Basic

/-!
# Lower case and ASCII

Lower-casing takes every character beyond ASCII to something beyond ASCII, but for one: the Kelvin
sign becomes a plain k. So a text lower-cases to ASCII exactly if nothing but Kelvin signs keeps it
from being ASCII, and no ASCII capital is ever left.

## Main definitions

* `IsAscii` — a text of ASCII characters
* `kelvin`, `readKelvin` — the Kelvin sign, and a character with the Kelvin sign read as a k
* `imageBetween` — what a character becomes between two texts

## Main results

* `image_beyond` — the one character beyond ASCII whose image is not
* `imageBetween_beyond` — what a character beyond ASCII becomes
* `map_toLower_lowercase` — a lower-cased text holds no ASCII capital
* `isAscii_lowercase_iff` — what lower-cases to ASCII
* `lowercase_of_readKelvin` — how it does
-/

namespace ChatSteward.Text

/-- Whether a text holds nothing but ASCII characters. -/
def IsAscii (text : List Char) : Prop := ∀ c ∈ text, c.toNat < 0x80

/-- The Kelvin sign. -/
def kelvin : Char := '\u212A'

/-- A character, with the Kelvin sign read as a k. -/
def readKelvin (c : Char) : Char := if c = kelvin then 'k' else c

theorem readKelvin_of_ne {c : Char} (hother : c ≠ kelvin) : readKelvin c = c := if_neg hother

theorem ne_kelvin_of_ascii {c : Char} (hascii : c.toNat < 0x80) : c ≠ kelvin := by
  rintro rfl
  exact absurd hascii (by decide)

/-! ## The case of ASCII letters -/

/-- Lower-casing of ASCII letters leaves the other characters alone. -/
theorem toLower_of_not_ascii {c : Char} (hbeyond : ¬ c.toNat < 0x80) : c.toLower = c := by
  have hcapital : ¬ (c.val ≥ 'A'.val ∧ c.val ≤ 'Z'.val) := by
    rintro ⟨-, hlast⟩
    exact hbeyond (Nat.lt_of_le_of_lt (UInt32.le_iff_toNat_le.mp hlast) (by decide))
  exact dif_neg hcapital

theorem toLower_of_ascii :
    ∀ n < 0x80, (Char.ofNat n).toLower.toNat < 0x80 ∧
      (Char.ofNat n).toLower.toLower = (Char.ofNat n).toLower := by
  decide

@[simp] theorem toLower_toLower (c : Char) : c.toLower.toLower = c.toLower := by
  by_cases hascii : c.toNat < 0x80
  · have hfixed := (toLower_of_ascii _ hascii).2
    rwa [Char.ofNat_toNat] at hfixed
  · rw [toLower_of_not_ascii hascii, toLower_of_not_ascii hascii]

@[simp] theorem toLower_ascii_iff {c : Char} : c.toLower.toNat < 0x80 ↔ c.toNat < 0x80 := by
  by_cases hascii : c.toNat < 0x80
  · have hlower := (toLower_of_ascii _ hascii).1
    rw [Char.ofNat_toNat] at hlower
    exact iff_of_true hlower hascii
  · rw [toLower_of_not_ascii hascii]

@[simp] theorem isAscii_map_toLower_iff {text : List Char} :
    IsAscii (text.map Char.toLower) ↔ IsAscii text := by
  simp only [IsAscii, List.forall_mem_map, toLower_ascii_iff]

/-! ## Images -/

/-- Whether the images of a run lie beyond ASCII and are characters. -/
def LowercaseRun.LeadsBeyond (run : LowercaseRun) : Prop :=
  0x80 ≤ run.image ∧
    (run.image + (run.last - run.first) < 0xD800 ∨
      0xDFFF < run.image ∧ run.image + (run.last - run.first) < 0x110000)

instance (run : LowercaseRun) : Decidable run.LeadsBeyond :=
  inferInstanceAs (Decidable (_ ∧ _))

theorem leadsBeyond_of_mem :
    ∀ run ∈ lowercaseRuns,
      run.first = kelvin.toNat ∧ run.last = kelvin.toNat ∨ run.LeadsBeyond := by
  decide +kernel

/-- The image of a character beyond ASCII is beyond ASCII, but for the Kelvin sign. -/
theorem image_beyond {c : Char} (hbeyond : ¬ c.toNat < 0x80) (hother : c ≠ kelvin) :
    ¬ (Char.ofNat (lowercaseIn lowercaseRuns c.toNat)).toNat < 0x80 := by
  rw [lowercaseIn]
  cases hfind : lowercaseRuns.findSome? (·.image? c.toNat) with
  | none => rwa [Option.getD_none, Char.ofNat_toNat]
  | some m =>
    obtain ⟨run, hrun, himage⟩ := List.exists_of_findSome?_eq_some hfind
    rw [LowercaseRun.image?] at himage
    split at himage
    case isFalse => cases himage
    case isTrue hwithin =>
      obtain ⟨hfirst, hlast, -⟩ := hwithin
      have hm := Option.some.inj himage
      rcases leadsBeyond_of_mem run hrun with ⟨hkelvin, hkelvin'⟩ | ⟨hlow, hvalid⟩
      · have hcode : c.toNat = kelvin.toNat := by omega
        exact absurd (by rw [← Char.ofNat_toNat c, hcode, Char.ofNat_toNat]) hother
      · have hchar : m.isValidChar := by
          unfold Nat.isValidChar
          omega
        have hcode : (Char.ofNat m).toNat = m := by
          rw [Char.ofNat, dif_pos hchar]
          rfl
        rw [Option.getD_some, hcode]
        omega

@[simp] theorem lowercaseOf_kelvin : lowercaseOf kelvin = ['k'] := by
  decide +kernel

/-- What a character becomes between two texts. -/
def imageBetween (before : List Char) (c : Char) (after : List Char) : List Char :=
  if c = 'Σ' then [if endsWord before after then 'ς' else 'σ'] else lowercaseOf c

theorem lowercaseAfter_cons (before : List Char) (c : Char) (rest : List Char) :
    lowercaseAfter before (c :: rest) =
      imageBetween before c rest ++ lowercaseAfter (c :: before) rest := rfl

theorem imageBetween_of_ascii {c : Char} (hascii : c.toNat < 0x80) (before after : List Char) :
    imageBetween before c after = [c.toLower] := by
  have hsigma : c ≠ 'Σ' := by
    rintro rfl
    exact absurd hascii (by decide)
  rw [imageBetween, if_neg hsigma, lowercaseOf_ascii hascii]

theorem imageBetween_kelvin (before after : List Char) :
    imageBetween before kelvin after = ['k'] := by
  rw [imageBetween, if_neg (by decide), lowercaseOf_kelvin]

/-- A character beyond ASCII other than the Kelvin sign leaves one beyond ASCII, and perhaps an i
before it. -/
theorem imageBetween_beyond {c : Char} (hbeyond : ¬ c.toNat < 0x80) (hother : c ≠ kelvin)
    (before after : List Char) :
    ∃ d, ¬ d.toNat < 0x80 ∧
      (imageBetween before c after = [d] ∨ imageBetween before c after = ['i', d]) := by
  by_cases hsigma : c = 'Σ'
  · refine ⟨if endsWord before after then 'ς' else 'σ', ?_, .inl (if_pos hsigma)⟩
    split <;> decide
  · rw [imageBetween, if_neg hsigma, lowercaseOf, if_neg hbeyond]
    by_cases hdotted : c = 'İ'
    · exact ⟨'\u0307', by decide, .inr (if_pos hdotted)⟩
    · exact ⟨_, image_beyond hbeyond hother, .inl (if_neg hdotted)⟩

/-! ## Texts -/

/-- A lower-cased text holds no ASCII capital. -/
theorem map_toLower_lowercase (text : List Char) :
    (lowercase text).map Char.toLower = lowercase text := by
  have himage (before : List Char) (c : Char) (after : List Char) :
      (imageBetween before c after).map Char.toLower = imageBetween before c after := by
    by_cases hascii : c.toNat < 0x80
    · rw [imageBetween_of_ascii hascii, List.map_singleton, toLower_toLower]
    · by_cases hkelvin : c = kelvin
      · rw [hkelvin, imageBetween_kelvin]
        rfl
      · obtain ⟨d, hd, heq | heq⟩ := imageBetween_beyond hascii hkelvin before after
        · rw [heq, List.map_singleton, toLower_of_not_ascii hd]
        · rw [heq, List.map_cons, List.map_singleton, toLower_of_not_ascii hd]
          rfl
  have hafter (before : List Char) : (lowercaseAfter before text).map Char.toLower =
      lowercaseAfter before text := by
    induction text generalizing before with
    | nil => rfl
    | cons c rest ih => rw [lowercaseAfter_cons, List.map_append, himage, ih]
  exact hafter []

@[simp] theorem isAscii_map_readKelvin_iff {text : List Char} :
    IsAscii (text.map readKelvin) ↔ ∀ c ∈ text, c.toNat < 0x80 ∨ c = kelvin := by
  rw [IsAscii, List.forall_mem_map]
  refine forall₂_congr fun c _ => ?_
  by_cases hkelvin : c = kelvin
  · exact iff_of_true (by rw [hkelvin]; decide) (.inr hkelvin)
  · rw [readKelvin_of_ne hkelvin, or_iff_left hkelvin]

/-- Where nothing but Kelvin signs is beyond ASCII, only ASCII letters change their case. -/
theorem lowercase_of_readKelvin {text : List Char} (hascii : IsAscii (text.map readKelvin)) :
    lowercase text = (text.map readKelvin).map Char.toLower := by
  rw [isAscii_map_readKelvin_iff] at hascii
  have hafter (before : List Char) :
      lowercaseAfter before text = (text.map readKelvin).map Char.toLower := by
    induction text generalizing before with
    | nil => rfl
    | cons c rest ih =>
      rw [lowercaseAfter_cons, ih fun d hd => hascii d (List.mem_cons_of_mem _ hd)]
      rcases hascii c List.mem_cons_self with hc | rfl
      · rw [imageBetween_of_ascii hc, List.map_cons, readKelvin_of_ne (ne_kelvin_of_ascii hc)]
        rfl
      · rw [imageBetween_kelvin]
        rfl
  exact hafter []

/-- What lower-cases to ASCII holds nothing beyond ASCII but Kelvin signs. -/
theorem ascii_or_kelvin_of_lowercaseAfter {before text : List Char}
    (hlower : IsAscii (lowercaseAfter before text)) : ∀ c ∈ text, c.toNat < 0x80 ∨ c = kelvin := by
  induction text generalizing before with
  | nil => exact List.forall_mem_nil _
  | cons c rest ih =>
    rw [lowercaseAfter_cons, IsAscii, List.forall_mem_append] at hlower
    refine List.forall_mem_cons.mpr ⟨?_, ih hlower.2⟩
    by_cases hascii : c.toNat < 0x80
    · exact .inl hascii
    · by_cases hkelvin : c = kelvin
      · exact .inr hkelvin
      · obtain ⟨d, hd, heq | heq⟩ := imageBetween_beyond hascii hkelvin before rest
        · exact absurd (hlower.1 d (by simp [heq])) hd
        · exact absurd (hlower.1 d (by simp [heq])) hd

/-- A text lower-cases to ASCII exactly if nothing but Kelvin signs in it is beyond ASCII. -/
@[simp] theorem isAscii_lowercase_iff {text : List Char} :
    IsAscii (lowercase text) ↔ IsAscii (text.map readKelvin) := by
  constructor
  · intro hlower
    exact isAscii_map_readKelvin_iff.mpr (ascii_or_kelvin_of_lowercaseAfter hlower)
  · intro hascii
    rwa [lowercase_of_readKelvin hascii, isAscii_map_toLower_iff]

end ChatSteward.Text
