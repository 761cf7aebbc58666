import ChatSteward.Proofs.Command.Lookup
import ChatSteward.Proofs.Text.Lowercase

/-!
# Names as they are typed

Parsing lower-cases the name of a line in full before it is looked up, while names are compared up
to the case of ASCII letters alone. The two rules agree on a name in which nothing but ASCII letters
changes its case, such as every name in ASCII. On other names they part: an operation whose name
holds a capital beyond ASCII is not found under this very name, and the Kelvin sign, which
lower-cases to a plain k, finds an operation that is spelled with a k.

## Main definitions

* `Reading.name` — the name of a line as it is typed
* `Table.prepareCall` — a name and arguments as a prepared call

## Main results

* `Table.prepare_of_reading` — a line is prepared under its lower-cased name
* `Table.find?_lowercase` — what a lower-cased name finds among names in ASCII
* `lower_casing_harmless_iff` — when lower-casing makes no difference
* `case_rules_part` — names on which the two rules part
-/

namespace ChatSteward.Command

open Text (IsAscii kelvin lowercase readKelvin trim)

/-- The name of a reading, as it is typed. -/
def Reading.name : Reading → List Char
  | .bare name => name
  | .empty name _ _ => name
  | .call name _ _ => name

theorem Reading.name_expression (reading : Reading) :
    reading.expression.name = String.ofList (lowercase reading.name) := by
  cases reading <;> rfl

/-- A line is parsed as its reading says. -/
theorem Reading.parse_eq {line : String} (reading : Reading) (hwell : reading.WellFormed)
    (htext : reading.text = trim line.toList) :
    Expression.parse line = .ok reading.expression := by
  rw [Expression.parse, ← htext]
  exact Expression.ofTrimmed_text hwell

theorem sameName_ofList_iff {name : String} {typed : List Char} :
    sameName name (String.ofList typed) = true ↔
      name.toList.map Char.toLower = typed.map Char.toLower := by
  rw [sameName_iff, String.toList_ofList]

/-- A name in ASCII is the lower-cased form of a typed one exactly if it is the typed one with its
Kelvin signs read as k. -/
theorem sameName_lowercase_iff {name : String} (hname : IsAscii name.toList) (typed : List Char) :
    sameName name (String.ofList (lowercase typed)) = true ↔
      sameName name (String.ofList (typed.map readKelvin)) = true := by
  rw [sameName_ofList_iff, sameName_ofList_iff, Text.map_toLower_lowercase]
  by_cases hascii : IsAscii (typed.map readKelvin)
  · rw [Text.lowercase_of_readKelvin hascii]
  · -- what is beyond ASCII on either side is no name in ASCII
    rw [← Text.isAscii_map_toLower_iff] at hname
    refine iff_of_false (fun heq => hascii ?_) (fun heq => hascii ?_)
    · rwa [heq, Text.isAscii_lowercase_iff] at hname
    · rwa [heq, Text.isAscii_map_toLower_iff] at hname

namespace Table

variable {R : Type}

/-- The operation of a name with arguments bound to its parameters. -/
def prepareCall (table : Table R) (name : String) (arguments : List String) :
    Except Refusal (Prepared R) :=
  (table.resolve name).bind fun operation =>
    (bind arguments operation.signature).map fun values => ⟨operation, values⟩

theorem prepareCall_congr {table : Table R} {first second : String}
    (hfind : table.find? first = table.find? second) (arguments : List String) :
    table.prepareCall first arguments = table.prepareCall second arguments := by
  rw [prepareCall, prepareCall, resolve, resolve, hfind]

/-- A call is refused for its name exactly if the name is not found. -/
@[simp] theorem prepareCall_unknownFunction_iff {table : Table R} {name : String}
    {arguments : List String} :
    table.prepareCall name arguments = .error .unknownFunction ↔ table.find? name = none := by
  rw [prepareCall, resolve]
  cases hfind : table.find? name with
  | none => exact iff_of_true rfl rfl
  | some operation =>
    refine iff_of_false (fun hrefused => ?_) (Option.some_ne_none _)
    have hne := bind_ne_unknownFunction arguments operation.signature
    change (bind arguments operation.signature).map _ = _ at hrefused
    cases hbind : bind arguments operation.signature with
    | error refusal =>
      rw [hbind] at hrefused hne
      exact hne (congrArg Except.error (Except.error.inj hrefused))
    | ok values =>
      rw [hbind] at hrefused
      cases hrefused

/-- A line is prepared under its lower-cased name. -/
theorem prepare_of_reading (table : Table R) {line : String} {reading : Reading}
    (hwell : reading.WellFormed) (htext : reading.text = trim line.toList) :
    table.prepare line =
      table.prepareCall (String.ofList (lowercase reading.name)) reading.expression.arguments := by
  rw [prepare_of_ok (reading.parse_eq hwell htext), reading.name_expression]
  rfl

/-- Among names in ASCII a lower-cased name finds what the typed one does with its Kelvin signs read
as k. -/
theorem find?_lowercase {table : Table R} (hascii : ∀ name ∈ table.names, IsAscii name.toList)
    (typed : List Char) :
    table.find? (String.ofList (lowercase typed)) =
      table.find? (String.ofList (typed.map readKelvin)) := by
  rw [find?, find?, ← List.head?_filter, ← List.head?_filter]
  congr 1
  apply List.filter_congr
  intro operation hmem
  rw [Bool.eq_iff_iff]
  exact sameName_lowercase_iff (hascii _ (List.mem_map_of_mem hmem)) typed

end Table

/-- The table of one operation without parameters. -/
def only (name : String) : Table Unit := [⟨.fixed name [], .finished ()⟩]

theorem find?_only (name other : String) :
    (only name).find? other =
      if sameName name other = true then some ⟨.fixed name [], .finished ()⟩ else none := by
  rw [only, Table.find?, List.find?_singleton]
  rfl

/-- Lower-casing the name of a line makes no difference to any table exactly if it changes nothing
but ASCII letters. Among names in ASCII a line calls what its name does as it is typed, with Kelvin
signs read as k; so without a Kelvin sign it makes no difference there. -/
theorem lower_casing_harmless_iff (line : String) (reading : Reading)
    (hwell : reading.WellFormed) (htext : reading.text = trim line.toList) :
    ((∀ (R : Type) (table : Table R), table.prepare line =
        table.prepareCall (String.ofList reading.name) reading.expression.arguments) ↔
      lowercase reading.name = reading.name.map Char.toLower) ∧
    ∀ (R : Type) (table : Table R), (∀ name ∈ table.names, IsAscii name.toList) →
      table.prepare line =
        table.prepareCall (String.ofList (reading.name.map readKelvin))
          reading.expression.arguments := by
  refine ⟨⟨fun hall => ?_, fun hsame R table => ?_⟩, fun R table hascii => ?_⟩
  · by_contra hdiffer
    -- a table whose one operation has the name as it is typed: it is not found lower-cased
    have hlacks : (only (String.ofList reading.name)).find?
        (String.ofList (lowercase reading.name)) = none := by
      rw [find?_only, if_neg]
      rw [sameName_ofList_iff, String.toList_ofList, Text.map_toLower_lowercase]
      exact fun heq => hdiffer heq.symm
    have hrefused : (only (String.ofList reading.name)).prepareCall (String.ofList reading.name)
        reading.expression.arguments = .error .unknownFunction := by
      rw [← hall, Table.prepare_of_reading _ hwell htext]
      exact Table.prepareCall_unknownFunction_iff.mpr hlacks
    have hnone := Table.prepareCall_unknownFunction_iff.mp hrefused
    rw [find?_only, if_pos (sameName_iff.mpr rfl)] at hnone
    cases hnone
  · rw [Table.prepare_of_reading table hwell htext]
    apply Table.prepareCall_congr
    apply Table.find?_congr
    rw [sameName_ofList_iff, String.toList_ofList, hsame, List.map_map]
    refine List.map_congr_left fun c _ => ?_
    exact Text.toLower_toLower c
  · rw [Table.prepare_of_reading table hwell htext]
    exact Table.prepareCall_congr (Table.find?_lowercase hascii _) _

/-- A line that spells a name with a Kelvin sign calls what the name with a k does, though it does
not find it as it is typed. -/
theorem lower_casing_harmless_iff_kelvin :
    (only "Link").prepare "LIN\u212A" = (only "Link").prepareCall "LINk" [] ∧
      ¬ ∀ (R : Type) (table : Table R),
        table.prepare "LIN\u212A" = table.prepareCall "LIN\u212A" [] := by
  have hwell : (Reading.bare "LIN\u212A".toList).WellFormed :=
    Expression.isIdentifier_iff.mp (by decide +kernel)
  have htext : (Reading.bare "LIN\u212A".toList).text = trim "LIN\u212A".toList := by decide +kernel
  have hascii : ∀ name ∈ (only "Link").names, IsAscii name.toList := by
    simp [IsAscii, only, Table.names, Signature.fixed]
  obtain ⟨hharmless, hread⟩ := lower_casing_harmless_iff "LIN\u212A" _ hwell htext
  refine ⟨hread Unit (only "Link") hascii, fun hall => ?_⟩
  have hchanges : lowercase "LIN\u212A".toList ≠ "LIN\u212A".toList.map Char.toLower := by
    decide +kernel
  exact hchanges (hharmless.mp hall)

/-- An operation whose name starts with a capital beyond ASCII is found under this name, but a line
with the name is refused; and a line with a Kelvin sign alone is prepared as a call of `K`, which is
not found under the Kelvin sign. -/
theorem case_rules_part :
    IsIdentifier "\u00C4".toList ∧ IsIdentifier "\u212A".toList ∧
      (only "\u00C4").find? "\u00C4" ≠ none ∧
      (only "\u00C4").prepare "\u00C4" = .error .unknownFunction ∧
      (only "K").find? "\u212A" = none ∧
      ∃ prepared, (only "K").prepare "\u212A" = .ok prepared := by
  have humlaut : Expression.parse "\u00C4" = .ok ⟨"\u00E4", []⟩ := by decide +kernel
  have hkelvin : Expression.parse "\u212A" = .ok ⟨"k", []⟩ := by decide +kernel
  refine ⟨Expression.isIdentifier_iff.mp (by decide +kernel),
    Expression.isIdentifier_iff.mp (by decide +kernel), ?_, ?_, ?_, ?_⟩
  · rw [find?_only, if_pos (sameName_iff.mpr rfl)]
    exact Option.some_ne_none _
  · rw [Table.prepare_of_ok humlaut]
    rfl
  · rw [find?_only, if_neg (by decide)]
  · rw [Table.prepare_of_ok hkelvin]
    exact ⟨_, rfl⟩

end ChatSteward.Command
