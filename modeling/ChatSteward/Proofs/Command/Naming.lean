import ChatSteward.Proofs.Command.Spelling
import ChatSteward.Proofs.Text.Padding

/-!
# Calling listed operations

Names in ASCII that differ in more than their case name one operation each, so the order of a table
does not matter to what they find. Such an operation is called under every variant of its name, by
the name alone or with arguments and with whatever blanks the call is written, and it always gets
the same values.

## Main definitions

* `IsVariant` — a name with some of its letters in the other case
* `IsCall` — how a call is written
* `Table.IsDistinct` — tables whose names differ in more than their case

## Main results

* `IsCall.exists_reading` — a call is read as it is written
* `Table.find?_eq_some_iff_mem` — what a name finds in a table of distinct names
* `Table.find?_perm` — the order of such a table does not matter
* `listed_operations_callable` — the calls of listed operations
-/

namespace ChatSteward.Command

open Text (HasSolidEnds IsAscii Pads isBlank isLetter isWordChar joinWith lowercase trim)

/-! ## Variants of a name -/

/-- Whether a text is a name with some of its letters in the other case. -/
def IsVariant (name variant : List Char) : Prop :=
  List.Forall₂ (fun c d => d = c ∨ d = c.toUpper ∨ d = c.toLower) name variant

/-- Whether two characters are the same up to their case and of the same class in names. -/
def AreAlike (c d : Char) : Prop :=
  d.toLower = c.toLower ∧ isWordChar d = isWordChar c ∧
    (isLetter d || d == '_') = (isLetter c || c == '_')

/-- An ASCII character in another case is one like it. -/
theorem areAlike_of_ascii :
    ∀ n < 0x80, ((Char.ofNat n).toUpper.toNat < 0x80 ∧
        AreAlike (Char.ofNat n) (Char.ofNat n).toUpper) ∧
      (Char.ofNat n).toLower.toNat < 0x80 ∧ AreAlike (Char.ofNat n) (Char.ofNat n).toLower := by
  unfold AreAlike
  decide +kernel

theorem areAlike_of_variant {c d : Char} (hascii : c.toNat < 0x80)
    (hvariant : d = c ∨ d = c.toUpper ∨ d = c.toLower) : d.toNat < 0x80 ∧ AreAlike c d := by
  have hcases := areAlike_of_ascii c.toNat hascii
  rw [Char.ofNat_toNat] at hcases
  rcases hvariant with rfl | rfl | rfl
  · exact ⟨hascii, rfl, rfl, rfl⟩
  · exact hcases.1
  · exact hcases.2

namespace IsVariant

variable {name variant : List Char}

theorem isAscii (hvariant : IsVariant name variant) (hascii : IsAscii name) : IsAscii variant := by
  induction hvariant with
  | nil => exact List.forall_mem_nil _
  | cons hc _ ih =>
    obtain ⟨hfirst, hrest⟩ := List.forall_mem_cons.mp hascii
    exact List.forall_mem_cons.mpr ⟨(areAlike_of_variant hfirst hc).1, ih hrest⟩

theorem map_toLower (hvariant : IsVariant name variant) (hascii : IsAscii name) :
    variant.map Char.toLower = name.map Char.toLower := by
  induction hvariant with
  | nil => rfl
  | cons hc _ ih =>
    obtain ⟨hfirst, hrest⟩ := List.forall_mem_cons.mp hascii
    rw [List.map_cons, List.map_cons, (areAlike_of_variant hfirst hc).2.1, ih hrest]

theorem forall_isWordChar (hvariant : IsVariant name variant) (hascii : IsAscii name)
    (hword : ∀ c ∈ name, isWordChar c = true) : ∀ d ∈ variant, isWordChar d = true := by
  induction hvariant with
  | nil => exact List.forall_mem_nil _
  | cons hc _ ih =>
    obtain ⟨hfirst, hrest⟩ := List.forall_mem_cons.mp hascii
    obtain ⟨hhead, htail⟩ := List.forall_mem_cons.mp hword
    refine List.forall_mem_cons.mpr ⟨?_, ih hrest htail⟩
    rw [(areAlike_of_variant hfirst hc).2.2.1, hhead]

/-- A variant of an identifier is an identifier. -/
theorem isIdentifier (hvariant : IsVariant name variant) (hascii : IsAscii name)
    (hname : IsIdentifier name) : IsIdentifier variant := by
  obtain ⟨c, rest, rfl, hfirst, hrest⟩ := hname
  obtain ⟨d, variant, hd, hmore, rfl⟩ := List.forall₂_cons_left_iff.mp hvariant
  obtain ⟨hc, hascii⟩ := List.forall_mem_cons.mp hascii
  refine ⟨d, variant, rfl, ?_, IsVariant.forall_isWordChar hmore hascii hrest⟩
  have hclass := (areAlike_of_variant hc hd).2.2.2
  -- the two classes of first characters make one test
  rw [← beq_iff_eq (a := d), ← Bool.or_eq_true, hclass, Bool.or_eq_true, beq_iff_eq]
  exact hfirst

/-- A variant of a name in ASCII finds what the name does, although it is lower-cased before. -/
theorem sameName_lowercase {name : String} {variant : List Char}
    (hvariant : IsVariant name.toList variant) (hascii : IsAscii name.toList) :
    sameName name (String.ofList (lowercase variant)) = true := by
  rw [sameName_ofList_iff, Text.lowercase_ascii (hvariant.isAscii hascii), List.map_map,
    ← hvariant.map_toLower hascii]
  exact (List.map_congr_left fun c _ => Text.toLower_toLower c).symm

end IsVariant

/-! ## Calls -/

theorem IsIdentifier.isName {text : List Char} (hidentifier : IsIdentifier text) : IsName text := by
  obtain ⟨c, rest, rfl, hfirst, hrest⟩ := hidentifier
  refine ⟨List.cons_ne_nil c rest, List.forall_mem_cons.mpr ⟨?_, hrest⟩⟩
  rcases hfirst with hletter | rfl
  · simp [isWordChar, Text.isAlphanumeric, hletter]
  · rfl

theorem IsArgumentText.hasSolidEnds {text : List Char} (hargument : IsArgumentText text) :
    HasSolidEnds text := by
  rcases hargument with rfl | hplain | hliteral
  · exact .of_solid (List.forall_mem_nil _)
  · refine .of_solid fun c hc => ?_
    rcases hplain c hc with halphanumeric | rfl | rfl | rfl
    · exact Expression.isBlank_eq_false_of_isWordChar (by simp [isWordChar, halphanumeric])
    all_goals rfl
  · -- a literal starts and ends with its quote
    cases hliteral <;> exact Text.hasSolidEnds_cons_concat rfl rfl _

namespace Reading

/-- What starts with a name and ends with a parenthesis has no blanks at its ends. -/
theorem hasSolidEnds_enclosed {name : List Char} (hname : IsName name) (middle : List Char) :
    HasSolidEnds (name ++ (middle ++ [')'])) := by
  obtain ⟨hsome, hword⟩ := hname
  obtain ⟨c, rest, rfl⟩ := List.exists_cons_of_ne_nil hsome
  rw [List.cons_append, ← List.append_assoc]
  have hfirst := Expression.isBlank_eq_false_of_isWordChar (hword c List.mem_cons_self)
  exact Text.hasSolidEnds_cons_concat hfirst rfl _

/-- A line that is written well has no blanks at its ends. -/
theorem hasSolidEnds {reading : Reading} (hwell : reading.WellFormed) :
    HasSolidEnds reading.text := by
  cases reading with
  | bare name =>
    have hname := IsIdentifier.isName hwell
    exact .of_solid fun c hc => Expression.isBlank_eq_false_of_isWordChar (hname.2 c hc)
  | empty name blanks inner =>
    rw [text, List.append_assoc, ← List.cons_append, ← List.append_assoc blanks]
    exact hasSolidEnds_enclosed hwell.1 _
  | call name blanks pieces =>
    rw [text, List.append_assoc, ← List.cons_append, ← List.append_assoc blanks]
    exact hasSolidEnds_enclosed hwell.1 _

end Reading

/-- How a call is written: by the name alone, with empty parentheses, or with arguments between
commas, and with blanks before, between and after all of these. -/
inductive IsCall (name : List Char) : List (List Char) → String → Prop where
  | bare {line : String} (hline : Pads (Reading.bare name).text line.toList) : IsCall name [] line
  | empty {blanks inner : List Char} {line : String} (hblanks : ∀ c ∈ blanks, isBlank c = true)
      (hinner : ∀ c ∈ inner, isBlank c = true)
      (hline : Pads (Reading.empty name blanks inner).text line.toList) : IsCall name [] line
  | call {blanks : List Char} {arguments pieces : List (List Char)} {line : String}
      (hsome : arguments ≠ []) (hpieces : List.Forall₂ Pads arguments pieces)
      (hblanks : ∀ c ∈ blanks, isBlank c = true)
      (hline : Pads (Reading.call name blanks pieces).text line.toList) : IsCall name arguments line

/-- Between the parentheses of a call there are not only blanks, unless its one argument is
empty. -/
theorem exists_solid_of_pads {arguments pieces : List (List Char)} (hsome : arguments ≠ [])
    (hargument : arguments ≠ [[]]) (hpieces : List.Forall₂ Pads arguments pieces)
    (hsolid : ∀ argument ∈ arguments, HasSolidEnds argument) :
    ∃ c ∈ joinWith [','] pieces, isBlank c = false := by
  cases hpieces with
  | nil => exact absurd rfl hsome
  | @cons argument piece _ _ hfirst hmore =>
    cases hmore with
    | nil =>
      -- a single argument is not empty, so its first character is there
      have hne : argument ≠ [] := fun hnil => hargument (by rw [hnil])
      obtain ⟨c, rest, rfl⟩ := List.exists_cons_of_ne_nil hne
      exact ⟨c, hfirst.mem List.mem_cons_self, (hsolid _ List.mem_cons_self).1 c rfl⟩
    | cons => exact ⟨',', by simp [joinWith], rfl⟩

/-- A call is read as it is written. -/
theorem IsCall.exists_reading {name : List Char} {arguments : List (List Char)} {line : String}
    (hname : IsIdentifier name) (harguments : ∀ argument ∈ arguments, IsArgumentText argument)
    (hargument : arguments ≠ [[]]) (hcall : IsCall name arguments line) :
    ∃ reading : Reading, reading.WellFormed ∧ reading.text = trim line.toList ∧
      reading.name = name ∧ reading.expression.arguments = arguments.map String.ofList := by
  -- what has solid ends is found between the blanks before and after it
  have htrim {reading : Reading} (hwell : reading.WellFormed)
      (hline : Pads reading.text line.toList) : reading.text = trim line.toList :=
    (Text.trim_of_pads hline (Reading.hasSolidEnds hwell)).symm
  cases hcall with
  | bare hline => exact ⟨.bare name, hname, htrim hname hline, rfl, rfl⟩
  | @empty blanks inner _ hblanks hinner hline =>
    have hwell : (Reading.empty name blanks inner).WellFormed := ⟨hname.isName, hblanks, hinner⟩
    exact ⟨_, hwell, htrim hwell hline, rfl, rfl⟩
  | @call blanks _ pieces _ hsome hpieces hblanks hline =>
    have hsolid : ∀ argument ∈ arguments, HasSolidEnds argument :=
      fun argument hmem => (harguments argument hmem).hasSolidEnds
    have hmap : pieces.map trim = arguments := Text.map_trim_of_pads hpieces hsolid
    have hwell : (Reading.call name blanks pieces).WellFormed := by
      refine ⟨hname.isName, hblanks, ?_, exists_solid_of_pads hsome hargument hpieces hsolid, ?_⟩
      · rintro rfl
        exact hsome hmap.symm
      · rw [← List.forall_mem_map, hmap]
        exact harguments
    refine ⟨_, hwell, htrim hwell hline, rfl, ?_⟩
    rw [Reading.expression, ← hmap, List.map_map]
    rfl

/-! ## Tables of distinct names -/

theorem sameName_comm (first second : String) : sameName first second = sameName second first :=
  Bool.beq_comm

namespace Table

variable {R : Type} {table : Table R}

/-- Whether the names of a table differ pairwise in more than the case of ASCII letters. -/
def IsDistinct (table : Table R) : Prop :=
  table.names.Pairwise fun first second => sameName first second = false

/-- In a table of distinct names every place is the first one of its name. -/
theorem IsDistinct.isFirst (hdistinct : table.IsDistinct) {place : Nat} {operation : Operation R}
    (hplace : table[place]? = some operation) {name : String}
    (hname : sameName operation.signature.name name = true) :
    table.IsFirst name place operation := by
  refine ⟨hplace, hname, fun before hlt other hother => ?_⟩
  -- an earlier operation of the name would have the name of the one at the place
  obtain ⟨hplace', rfl⟩ := List.getElem?_eq_some_iff.mp hplace
  obtain ⟨hbefore, rfl⟩ := List.getElem?_eq_some_iff.mp hother
  rw [← sameName_congr hname]
  exact List.pairwise_iff_getElem.mp (List.pairwise_map.mp hdistinct) _ _ hbefore hplace' hlt

/-- In a table of distinct names a name finds the operation that has it. -/
theorem find?_eq_some_iff_mem (hdistinct : table.IsDistinct) {name : String}
    {operation : Operation R} :
    table.find? name = some operation ↔
      operation ∈ table ∧ sameName operation.signature.name name = true := by
  refine ⟨mem_of_find?, fun ⟨hmem, hname⟩ => ?_⟩
  obtain ⟨place, hplace⟩ := List.mem_iff_getElem?.mp hmem
  exact find?_eq_some_iff.mpr ⟨place, hdistinct.isFirst hplace hname⟩

theorem IsDistinct.perm {other : Table R} (hdistinct : table.IsDistinct)
    (hperm : List.Perm other table) : other.IsDistinct := by
  refine ((hperm.map _).pairwise_iff ?_).mpr hdistinct
  intro first second hdiffer
  rwa [sameName_comm]

/-- The order of a table of distinct names does not matter to what they find. -/
theorem find?_perm {other : Table R} (hdistinct : table.IsDistinct)
    (hperm : List.Perm other table) (name : String) : other.find? name = table.find? name := by
  ext operation
  rw [find?_eq_some_iff_mem hdistinct, find?_eq_some_iff_mem (hdistinct.perm hperm),
    hperm.mem_iff]

/-! ### Looking up -/

@[simp] theorem resolve_eq_ok_iff {name : String} {operation : Operation R} :
    table.resolve name = .ok operation ↔ table.find? name = some operation := by
  rw [resolve]
  cases table.find? name <;> simp

@[simp] theorem resolve_eq_unknownFunction_iff {name : String} :
    table.resolve name = .error .unknownFunction ↔ table.contains name = false := by
  rw [resolve, contains]
  cases table.find? name <;> simp

end Table

/-! ## Calls of listed operations -/

/-- An operation of a table of distinct names is called under every variant of its name. -/
theorem prepare_of_isCall {R : Type} {table : Table R} (hdistinct : table.IsDistinct) {place : Nat}
    {operation : Operation R} (hplace : table[place]? = some operation)
    (hascii : IsAscii operation.signature.name.toList)
    (hidentifier : IsIdentifier operation.signature.name.toList)
    {arguments : List (List Char)} (harguments : ∀ argument ∈ arguments, IsArgumentText argument)
    (hargument : arguments ≠ [[]]) {values : List Bound}
    (hbind : bind (arguments.map String.ofList) operation.signature = .ok values)
    {variant : List Char} (hvariant : IsVariant operation.signature.name.toList variant)
    {line : String} (hcall : IsCall variant arguments line) :
    table.prepare line = .ok ⟨operation, values⟩ ∧ table.runs line = [(place, values)] := by
  obtain ⟨reading, hwell, htext, hname, heq⟩ :=
    hcall.exists_reading (hvariant.isIdentifier hascii hidentifier) harguments hargument
  have hparse := reading.parse_eq hwell htext
  have hfirst : table.IsFirst reading.expression.name place operation := by
    refine hdistinct.isFirst hplace ?_
    rw [reading.name_expression, hname]
    exact hvariant.sameName_lowercase hascii
  rw [← heq] at hbind
  refine ⟨?_, (Table.call_of_bind hparse hfirst hbind).1⟩
  rw [Table.prepare_of_isFirst hparse hfirst, hbind]
  rfl

/-- In a table whose names are identifiers in ASCII that differ pairwise in more than their case,
every operation is called under every variant of its name: a call with as many arguments as its
signature accepts prepares this operation and no other one, with the same values for every variant
and whatever blanks it is written with. Only a single empty argument cannot be written, as there is
nothing between the parentheses then. No other order of the table changes what a name finds or what
a line prepares. A name is contained in the table exactly if it finds an operation, which is then
the one that it is resolved to. -/
theorem listed_operations_callable {R : Type} (table : Table R)
    (hnames : ∀ name ∈ table.names, IsAscii name.toList ∧ IsIdentifier name.toList)
    (hdistinct : table.IsDistinct) :
    (∀ place operation, table[place]? = some operation →
      ∀ arguments : List (List Char), (∀ argument ∈ arguments, IsArgumentText argument) →
        arguments ≠ [[]] → operation.signature.Accepts arguments.length →
        ∃ values, bind (arguments.map String.ofList) operation.signature = .ok values ∧
          ∀ variant line, IsVariant operation.signature.name.toList variant →
            IsCall variant arguments line →
            table.prepare line = .ok ⟨operation, values⟩ ∧
              table.runs line = [(place, values)]) ∧
    (∀ other : Table R, List.Perm other table →
      (∀ name, other.find? name = table.find? name) ∧
        ∀ line, other.prepare line = table.prepare line) ∧
    ∀ name, (∀ operation, table.find? name = some operation ↔
        operation ∈ table ∧ sameName operation.signature.name name = true) ∧
      (∀ operation, table.resolve name = .ok operation ↔ table.find? name = some operation) ∧
      (table.resolve name = .error .unknownFunction ↔ table.contains name = false) ∧
      (table.contains name = true ↔ ∃ operation, table.find? name = some operation) := by
  refine ⟨fun place operation hplace arguments harguments hargument haccepts => ?_,
    fun other hperm => ⟨Table.find?_perm hdistinct hperm, fun line => ?_⟩, fun name => ?_⟩
  · have hmem : operation ∈ table := List.mem_of_getElem? hplace
    obtain ⟨hascii, hidentifier⟩ := hnames _ (List.mem_map_of_mem hmem)
    rw [← List.length_map String.ofList] at haccepts
    obtain ⟨hfew, hmany⟩ := Signature.accepts_iff.mp haccepts
    have hbind := bind_of_enough hfew hmany
    -- the values come of the arguments alone, before any variant is looked at
    exact ⟨_, hbind, fun variant line hvariant hcall =>
      prepare_of_isCall hdistinct hplace hascii hidentifier harguments hargument hbind hvariant
        hcall⟩
  · exact Table.prepare_congr fun _ _ => Table.find?_perm hdistinct hperm _
  · exact ⟨fun operation => Table.find?_eq_some_iff_mem hdistinct,
      fun operation => Table.resolve_eq_ok_iff, Table.resolve_eq_unknownFunction_iff,
      Option.isSome_iff_exists⟩

/-- A level for some lamps of a room. -/
def dim : Operation (List Bound) :=
  ⟨.collecting "Dim" [⟨"Room", .single⟩, ⟨"Level", .sequence⟩], .inspect .finished⟩

/-- What lamps can do. -/
def lamps : Table (List Bound) := [⟨.fixed "TurnOn" [], .inspect .finished⟩, dim]

/-- The second operation of lamps is called in another case, among blanks, and with a literal that
holds a comma. -/
theorem listed_operations_callable_lamps :
    lamps.IsDistinct ∧
      lamps.prepare " dIM ( \"a, b\" ,\t-1 ) " =
        .ok ⟨dim, [.single "\"a, b\"", .sequence ["-1"]]⟩ ∧
      lamps.runs " dIM ( \"a, b\" ,\t-1 ) " =
        [(1, [.single "\"a, b\"", .sequence ["-1"]])] := by
  have hascii : ∀ name ∈ lamps.names, IsAscii name.toList := by
    simp [IsAscii, lamps, dim, Table.names, Signature.fixed, Signature.collecting]
  have hidentifier : ∀ name ∈ lamps.names, IsIdentifier name.toList := by
    simp only [← Expression.isIdentifier_iff]
    decide +kernel
  have hdistinct : lamps.IsDistinct := by
    unfold Table.IsDistinct
    decide +kernel
  have hvariant : IsVariant dim.signature.name.toList "dIM".toList :=
    .cons (by decide) (.cons (by decide) (.cons (by decide) .nil))
  have harguments : ∀ argument ∈ ["\"a, b\"".toList, "-1".toList], IsArgumentText argument := by
    simp only [← Expression.isArgument_iff]
    decide +kernel
  have hcall : IsCall "dIM".toList ["\"a, b\"".toList, "-1".toList] " dIM ( \"a, b\" ,\t-1 ) " := by
    have hblank : ∀ c ∈ [' '], isBlank c = true := List.forall_mem_singleton.mpr rfl
    have hfirst : Pads "\"a, b\"".toList " \"a, b\" ".toList :=
      ⟨[' '], [' '], hblank, hblank, by decide +kernel⟩
    have hsecond : Pads "-1".toList "\t-1 ".toList :=
      ⟨['\t'], [' '], List.forall_mem_singleton.mpr rfl, hblank, by decide +kernel⟩
    have hline : Pads (Reading.call "dIM".toList [' '] [" \"a, b\" ".toList, "\t-1 ".toList]).text
        " dIM ( \"a, b\" ,\t-1 ) ".toList :=
      ⟨[' '], [' '], hblank, hblank, by decide +kernel⟩
    exact .call (List.cons_ne_nil _ _) (.cons hfirst (.cons hsecond .nil)) hblank hline
  obtain ⟨hcalls, -, -⟩ := listed_operations_callable lamps
    (fun name hname => ⟨hascii name hname, hidentifier name hname⟩) hdistinct
  obtain ⟨values, hbind, hall⟩ := hcalls 1 dim rfl _ harguments (by decide) (.inr ⟨rfl, by decide⟩)
  -- what binding gives is one list of values, for every spelling of the call
  obtain rfl : values = [.single "\"a, b\"", .sequence ["-1"]] :=
    Except.ok.inj (hbind.symm.trans rfl)
  exact ⟨hdistinct, hall _ _ hvariant hcall⟩

end ChatSteward.Command
