import ChatSteward.Platform.Settings
import ChatSteward.Proofs.Text.Joining
import ChatSteward.Proofs.Text.Padding

/-!
# The list of masters

The masters are written as one text with commas. What is parsed of it are clean user ids: they are
not empty, and they hold no commas and no blanks at their ends. Clean ids are found again whatever
blanks are written around them and however many blank entries stand between them. So it is known of
every text who the masters are: the users whose ids are its entries, or everyone if all entries are
blank.

## Main definitions

* `IsClean` — the user ids that can be listed
* `Lists` — how user ids are written as entries
* `IsEntries` — the entries of a text

## Main results

* `parseMasters_of_lists` — listed ids are found again
* `isMaster_withMasters_iff` — who is a master where a master is listed
* `masters_parsed_exactly` — lists of masters as a whole
-/

namespace ChatSteward.Platform

open Text (HasSolidEnds Pads isBlank joinWith splitAt trim)

/-- Whether a user id is clean: it is not empty, and it holds no comma and no blank at its ends. -/
def IsClean (id : String) : Prop := id ≠ "" ∧ ',' ∉ id.toList ∧ HasSolidEnds id.toList

/-- How user ids are written as entries: one for each of them, with blanks around it, and blank
entries anywhere. -/
inductive Lists : List String → List (List Char) → Prop where
  | nil : Lists [] []
  | id {id : String} {entry : List Char} {ids : List String} {entries : List (List Char)}
      (hpads : Pads id.toList entry) (hrest : Lists ids entries) :
      Lists (id :: ids) (entry :: entries)
  | blank {entry : List Char} {ids : List String} {entries : List (List Char)}
      (hblank : ∀ c ∈ entry, isBlank c = true) (hrest : Lists ids entries) :
      Lists ids (entry :: entries)

/-- The entries of a text: what stands between its commas. -/
structure IsEntries (text : String) (entries : List (List Char)) : Prop where
  some : entries ≠ []
  commaless : ∀ entry ∈ entries, ',' ∉ entry
  joined : joinWith [','] entries = text.toList

/-- Every text has entries. -/
theorem isEntries_splitAt (text : String) : IsEntries text (splitAt ',' text.toList) where
  some := Text.splitAt_ne_nil ',' text.toList
  commaless _ := Text.not_mem_of_mem_splitAt
  joined := Text.joinWith_splitAt ',' text.toList

/-- A text has its entries only. -/
theorem IsEntries.eq_splitAt {text : String} {entries : List (List Char)}
    (hentries : IsEntries text entries) : splitAt ',' text.toList = entries := by
  rw [← hentries.joined]
  exact Text.splitAt_joinWith hentries.some hentries.commaless

/-! ## Single entries -/

/-- The user id of an entry, if it is not blank. -/
def idOf? (entry : List Char) : Option String :=
  if (trim entry).isEmpty then none else some (String.ofList (trim entry))

@[simp] theorem idOf?_eq_some_iff {entry : List Char} {id : String} :
    idOf? entry = some id ↔ trim entry ≠ [] ∧ id.toList = trim entry := by
  rw [idOf?]
  split
  case isTrue hempty =>
    exact iff_of_false (Option.some_ne_none _).symm fun h => h.1 (List.isEmpty_iff.mp hempty)
  case isFalse hsome =>
    rw [List.isEmpty_iff] at hsome
    rw [Option.some_inj, and_iff_right hsome, eq_comm, ← String.toList_inj, String.toList_ofList]

theorem idOf?_of_blank {entry : List Char} (hblank : ∀ c ∈ entry, isBlank c = true) :
    idOf? entry = none := by
  rw [idOf?, if_pos (List.isEmpty_iff.mpr (Text.trim_eq_nil_iff.mpr hblank))]

theorem idOf?_of_pads {entry : List Char} {id : String} (hclean : IsClean id)
    (hpads : Pads id.toList entry) : idOf? entry = some id := by
  have htrim := Text.trim_of_pads hpads hclean.2.2
  refine idOf?_eq_some_iff.mpr ⟨?_, htrim.symm⟩
  rw [htrim]
  exact fun hnil => hclean.1 (String.toList_eq_nil_iff.mp hnil)

/-- The id of an entry without commas is clean. -/
theorem isClean_of_idOf? {entry : List Char} {id : String} (hcommaless : ',' ∉ entry)
    (hid : idOf? entry = some id) : IsClean id := by
  obtain ⟨hsome, htrim⟩ := idOf?_eq_some_iff.mp hid
  refine ⟨?_, ?_, ?_⟩
  · rintro rfl
    exact hsome htrim.symm
  · rw [htrim]
    exact fun hcomma => hcommaless ((Text.pads_trim entry).mem hcomma)
  · rw [htrim]
    exact Text.hasSolidEnds_trim entry

/-! ## Parsing -/

/-- What is parsed are the ids of the entries. -/
theorem parseMasters_of_isEntries {text : String} {entries : List (List Char)}
    (hentries : IsEntries text entries) : parseMasters text = entries.filterMap idOf? := by
  rw [parseMasters, hentries.eq_splitAt, List.filterMap_map]
  rfl

theorem isClean_of_mem_parseMasters {text id : String} (hmem : id ∈ parseMasters text) :
    IsClean id := by
  have hentries := isEntries_splitAt text
  rw [parseMasters_of_isEntries hentries] at hmem
  obtain ⟨entry, hentry, hid⟩ := List.mem_filterMap.mp hmem
  exact isClean_of_idOf? (hentries.commaless entry hentry) hid

/-! ## Listing -/

section

variable {ids : List String} {entries : List (List Char)}

/-- The entries that list clean ids hold no commas. -/
theorem Lists.commaless (hlists : Lists ids entries) (hclean : ∀ id ∈ ids, IsClean id) :
    ∀ entry ∈ entries, ',' ∉ entry := by
  have hcomma : isBlank ',' ≠ true := by decide
  induction hlists with
  | nil => exact List.forall_mem_nil _
  | id hpads _ ih =>
    obtain ⟨hid, hids⟩ := List.forall_mem_cons.mp hclean
    refine List.forall_mem_cons.mpr ⟨fun hmem => ?_, ih hids⟩
    exact (hpads.mem_or_blank hmem).elim hid.2.1 hcomma
  | blank hblank _ ih =>
    exact List.forall_mem_cons.mpr ⟨fun hmem => hcomma (hblank _ hmem), ih hclean⟩

/-- The ids of the entries are the ids that they list. -/
theorem Lists.filterMap_eq (hlists : Lists ids entries) (hclean : ∀ id ∈ ids, IsClean id) :
    entries.filterMap idOf? = ids := by
  induction hlists with
  | nil => rfl
  | id hpads _ ih =>
    obtain ⟨hid, hids⟩ := List.forall_mem_cons.mp hclean
    rw [List.filterMap_cons_some (idOf?_of_pads hid hpads), ih hids]
  | blank hblank _ ih => rw [List.filterMap_cons_none (idOf?_of_blank hblank), ih hclean]

/-- Ids are listed by themselves. -/
theorem lists_toList (ids : List String) : Lists ids (ids.map String.toList) := by
  induction ids with
  | nil => exact .nil
  | cons id ids ih => exact .id (Pads.refl id.toList) ih

/-- Listed ids are found again. -/
theorem parseMasters_of_lists (hclean : ∀ id ∈ ids, IsClean id) (hlists : Lists ids entries) :
    parseMasters (String.ofList (joinWith [','] entries)) = ids := by
  by_cases hnone : entries = []
  · -- no entries at all make the empty text, whose one entry is blank
    subst hnone
    cases hlists
    rfl
  · have hentries : IsEntries (String.ofList (joinWith [','] entries)) entries :=
      ⟨hnone, hlists.commaless hclean, String.toList_ofList.symm⟩
    rw [parseMasters_of_isEntries hentries, hlists.filterMap_eq hclean]

end

/-- Joined ids are found again. -/
theorem parseMasters_intercalate {ids : List String} (hclean : ∀ id ∈ ids, IsClean id) :
    parseMasters (String.intercalate "," ids) = ids := by
  have hjoined : String.intercalate "," ids =
      String.ofList (joinWith [','] (ids.map String.toList)) := by
    rw [← String.toList_inj]
    exact (Text.toList_intercalate_eq_joinWith "," ids).trans String.toList_ofList.symm
  rw [hjoined]
  exact parseMasters_of_lists hclean (lists_toList ids)

/-! ## Masters -/

section

variable {text : String} {entries : List (List Char)} (settings : Settings)

/-- If a master is listed, the masters are those whose ids are entries. -/
theorem isMaster_withMasters_iff (hentries : IsEntries text entries)
    (hlisted : ∃ entry ∈ entries, trim entry ≠ []) (user : String) :
    (settings.withMasters text).isMaster user = true ↔
      ∃ entry ∈ entries, trim entry ≠ [] ∧ user.toList = trim entry := by
  have hsome : ¬ (parseMasters text).isEmpty = true := by
    obtain ⟨entry, hentry, htrim⟩ := hlisted
    have hid : idOf? entry = some (String.ofList (trim entry)) :=
      idOf?_eq_some_iff.mpr ⟨htrim, String.toList_ofList⟩
    rw [parseMasters_of_isEntries hentries]
    exact fun hempty => List.ne_nil_of_mem (List.mem_filterMap.mpr ⟨entry, hentry, hid⟩)
      (List.isEmpty_iff.mp hempty)
  rw [Settings.isMaster, Bool.or_eq_true, List.contains_iff_mem]
  refine (or_iff_right hsome).trans ?_
  simp only [Settings.withMasters, parseMasters_of_isEntries hentries, List.mem_filterMap,
    idOf?_eq_some_iff]

/-- If all entries are blank, everyone is a master. -/
theorem isMaster_of_blank (hentries : IsEntries text entries)
    (hblank : ∀ entry ∈ entries, trim entry = []) (user : String) :
    (settings.withMasters text).isMaster user = true := by
  have hnone : parseMasters text = [] := by
    rw [parseMasters_of_isEntries hentries, List.filterMap_eq_nil_iff]
    exact fun entry hentry => idOf?_of_blank (Text.trim_eq_nil_iff.mp (hblank entry hentry))
  rw [Settings.isMaster, Settings.withMasters, hnone]
  rfl

end

/-- What is parsed of a list of masters is clean, and clean ids are found again in their order,
repeated ones included, whatever blanks and blank entries are written with them; so parsing what was
parsed and joined changes nothing. With the masters of a text, a user is a master exactly if the id
is an entry of the text without the blanks around it, if any entry is not blank, and an id that is
empty or has blanks at its ends is not one; if all entries are blank, everyone is a master. -/
theorem masters_parsed_exactly (text : String) :
    (∀ id ∈ parseMasters text, IsClean id) ∧
    (∀ ids entries, (∀ id ∈ ids, IsClean id) → Lists ids entries →
      parseMasters (String.ofList (joinWith [','] entries)) = ids) ∧
    parseMasters (String.intercalate "," (parseMasters text)) = parseMasters text ∧
    ∃ entries, IsEntries text entries ∧ ∀ settings : Settings,
      ((∃ entry ∈ entries, trim entry ≠ []) →
        (∀ user, (settings.withMasters text).isMaster user = true ↔
          ∃ entry ∈ entries, trim entry ≠ [] ∧ user.toList = trim entry) ∧
        ∀ user, user = "" ∨ ¬ HasSolidEnds user.toList →
          (settings.withMasters text).isMaster user = false) ∧
      ((∀ entry ∈ entries, trim entry = []) →
        ∀ user, (settings.withMasters text).isMaster user = true) := by
  have hentries := isEntries_splitAt text
  refine ⟨fun _ => isClean_of_mem_parseMasters, fun _ _ => parseMasters_of_lists, ?_, _, hentries,
    fun settings => ⟨fun hlisted => ?_, isMaster_of_blank settings hentries⟩⟩
  · exact parseMasters_intercalate fun _ => isClean_of_mem_parseMasters
  · have hmasters := isMaster_withMasters_iff settings hentries hlisted
    refine ⟨hmasters, fun user hunclean => Bool.eq_false_iff.mpr fun hmaster => ?_⟩
    obtain ⟨entry, -, hsome, huser⟩ := (hmasters user).mp hmaster
    -- the id of a master is a trimmed text that is not empty
    rcases hunclean with rfl | hends
    · exact hsome huser.symm
    · exact hends (huser ▸ Text.hasSolidEnds_trim entry)

example : parseMasters " ou_a, ,ou_b,,ou_a " = ["ou_a", "ou_b", "ou_a"] := by decide +kernel

end ChatSteward.Platform
