import ChatSteward.Proofs.Command.Lookup
import ChatSteward.Proofs.Text.Joining

/-!
# What help tells

Help has one line for each operation, and the line tells the signature as a whole. Names and tags
are words, so what follows a tag can be told from it: brackets stand for a sequence, three dots for
the parameter that collects the rest, and nothing for a single value. Two tables with the same help
have the same signatures in the same order, and so they bind every line alike.

## Main definitions

* `Signature.IsPlain`, `Table.IsPlain` — names and tags are words
* `Table.signatures` — the signatures of a table

## Main results

* `Signature.rendered_inj` — a line of help determines its signature
* `Table.lines_help` — help has one line for each operation
* `Table.outline_eq_of_signatures` — tables with the same signatures bind lines alike
* `help_determines_interface` — help as a whole
-/

namespace ChatSteward.Command

open Text (isWordChar joinWith)

/-! ## Parameters -/

/-- What stands behind the tag of a parameter. -/
def markOf (collecting : Bool) : Shape → List Char
  | .single => []
  | .sequence => if collecting then ['.', '.', '.'] else ['[', ']']

theorem toList_renderedParameter (collecting : Bool) (parameter : Parameter) :
    (Signature.renderedParameter collecting parameter).toList =
      parameter.tag.toList ++ markOf collecting parameter.shape := by
  rw [Signature.renderedParameter]
  cases parameter.shape with
  | single => exact (List.append_nil _).symm
  | sequence =>
    rw [String.toList_append]
    cases collecting <;> rfl

/-- The mark tells the shape of a parameter, and whether a sequence collects the rest. -/
theorem markOf_inj {collecting collecting' : Bool} {shape shape' : Shape}
    (heq : markOf collecting shape = markOf collecting' shape') :
    shape = shape' ∧ (shape = .sequence → collecting = collecting') := by
  revert heq
  cases shape <;> cases shape' <;> cases collecting <;> cases collecting' <;> decide

theorem mem_of_mem_markOf {collecting : Bool} {shape : Shape} {c : Char}
    (hmem : c ∈ markOf collecting shape) : c ∈ ['.', '[', ']'] := by
  cases shape with
  | single => cases hmem
  | sequence =>
    cases collecting with
    | false => exact List.mem_cons_of_mem _ hmem
    | true =>
      -- a dot stands three times
      simp only [markOf, if_true, List.mem_cons, List.not_mem_nil, or_false, or_self] at hmem
      exact hmem ▸ List.mem_cons_self

/-- The word in front of a mark is found again. -/
theorem takeWhile_append_markOf {tag : List Char} (htag : IsName tag) (collecting : Bool)
    (shape : Shape) : (tag ++ markOf collecting shape).takeWhile isWordChar = tag := by
  rw [List.takeWhile_append_of_pos htag.2]
  -- no mark starts with a character of words
  have hmark : (markOf collecting shape).takeWhile isWordChar = [] := by
    cases shape <;> cases collecting <;> decide
  rw [hmark, List.append_nil]

/-- A parameter can be told from how it is rendered, and so can whether it collects the rest. -/
theorem renderedParameter_inj {collecting collecting' : Bool} {parameter parameter' : Parameter}
    (htag : IsName parameter.tag.toList) (htag' : IsName parameter'.tag.toList)
    (heq : Signature.renderedParameter collecting parameter =
      Signature.renderedParameter collecting' parameter') :
    parameter = parameter' ∧ (parameter.shape = .sequence → collecting = collecting') := by
  rw [← String.toList_inj, toList_renderedParameter, toList_renderedParameter] at heq
  have hword := congrArg (List.takeWhile isWordChar) heq
  rw [takeWhile_append_markOf htag, takeWhile_append_markOf htag'] at hword
  rw [hword] at heq
  obtain ⟨hshape, hcollecting⟩ := markOf_inj (List.append_cancel_left heq)
  refine ⟨?_, hcollecting⟩
  obtain ⟨tag, shape⟩ := parameter
  obtain ⟨tag', shape'⟩ := parameter'
  obtain rfl : tag = tag' := String.toList_inj.mp hword
  obtain rfl : shape = shape' := hshape
  rfl

@[simp] theorem length_renderedParameters (variadic : Bool) (parameters : List Parameter) :
    (Signature.renderedParameters variadic parameters).length = parameters.length := by
  fun_induction Signature.renderedParameters variadic parameters with
  | case1 => rfl
  | case2 => rfl
  | case3 first rest _ ih => rw [List.length_cons, List.length_cons, ih]

/-- What is rendered of parameters is rendered of one of them. -/
theorem exists_of_mem_renderedParameters {variadic : Bool} {parameters : List Parameter}
    {text : String} (hmem : text ∈ Signature.renderedParameters variadic parameters) :
    ∃ parameter ∈ parameters, ∃ collecting,
      text = Signature.renderedParameter collecting parameter := by
  fun_induction Signature.renderedParameters variadic parameters with
  | case1 => cases hmem
  | case2 last => exact ⟨last, List.mem_cons_self, variadic, List.mem_singleton.mp hmem⟩
  | case3 first rest _ ih =>
    rcases List.mem_cons.mp hmem with rfl | hrest
    · exact ⟨first, List.mem_cons_self, false, rfl⟩
    · obtain ⟨parameter, hparameter, htext⟩ := ih hrest
      exact ⟨parameter, List.mem_cons_of_mem _ hparameter, htext⟩

/-- Whether the last parameter takes a sequence, if it collects the rest. -/
def EndsIn (variadic : Bool) (parameters : List Parameter) : Prop :=
  variadic = true → ∃ last ∈ parameters.getLast?, last.shape = .sequence

theorem EndsIn.eq_false_of_nil {variadic : Bool} (hends : EndsIn variadic []) :
    variadic = false := by
  rw [← Bool.not_eq_true]
  intro hvariadic
  obtain ⟨last, hlast, -⟩ := hends hvariadic
  cases hlast

theorem EndsIn.eq_false_of_single {variadic : Bool} {last : Parameter}
    (hends : EndsIn variadic [last]) (hshape : last.shape = .single) : variadic = false := by
  rw [← Bool.not_eq_true]
  intro hvariadic
  obtain ⟨other, hother, hsequence⟩ := hends hvariadic
  obtain rfl : last = other := Option.some.inj hother
  rw [hshape] at hsequence
  cases hsequence

/-- Parameters can be told from how they are rendered, and so can whether the last one collects the
rest. -/
theorem renderedParameters_inj {variadic variadic' : Bool} {parameters parameters' : List Parameter}
    (htags : ∀ parameter ∈ parameters, IsName parameter.tag.toList)
    (htags' : ∀ parameter ∈ parameters', IsName parameter.tag.toList)
    (hends : EndsIn variadic parameters) (hends' : EndsIn variadic' parameters')
    (heq : Signature.renderedParameters variadic parameters =
      Signature.renderedParameters variadic' parameters') :
    parameters = parameters' ∧ variadic = variadic' := by
  have hlength := congrArg List.length heq
  rw [length_renderedParameters, length_renderedParameters] at hlength
  -- both lists have the same length, so they are rendered by the same rule
  induction parameters generalizing parameters' with
  | nil =>
    obtain rfl := List.length_eq_zero_iff.mp hlength.symm
    exact ⟨rfl, hends.eq_false_of_nil.trans hends'.eq_false_of_nil.symm⟩
  | cons first rest ih =>
    cases parameters' with
    | nil => cases hlength
    | cons first' rest' =>
      obtain ⟨hfirst, hrest⟩ := List.forall_mem_cons.mp htags
      obtain ⟨hfirst', hrest'⟩ := List.forall_mem_cons.mp htags'
      have hlength' := Nat.succ.inj hlength
      cases rest with
      | nil =>
        obtain rfl := List.length_eq_zero_iff.mp hlength'.symm
        obtain ⟨rfl, hcollecting⟩ := renderedParameter_inj hfirst hfirst' (List.cons.inj heq).1
        refine ⟨rfl, ?_⟩
        cases hshape : first.shape with
        | single =>
          rw [hends.eq_false_of_single hshape, hends'.eq_false_of_single hshape]
        | sequence => exact hcollecting hshape
      | cons next more =>
        cases rest' with
        | nil => cases hlength'
        | cons next' more' =>
          obtain ⟨hhead, htail⟩ := List.cons.inj heq
          obtain ⟨rfl, -⟩ := renderedParameter_inj hfirst hfirst' hhead
          rw [EndsIn, List.getLast?_cons_cons] at hends hends'
          obtain ⟨hmore, hvariadic⟩ := ih hrest hrest' hends hends' htail hlength'
          rw [hmore]
          exact ⟨rfl, hvariadic⟩

/-! ## Signatures -/

namespace Signature

/-- Whether the name of a signature and the tags of its parameters are words, and only a sequence
collects the rest. -/
structure IsPlain (signature : Signature) : Prop where
  name : IsName signature.name.toList
  tags : ∀ parameter ∈ signature.parameters, IsName parameter.tag.toList
  ends : signature.EndsInSequence

theorem IsPlain.endsIn {signature : Signature} (hplain : signature.IsPlain) :
    EndsIn signature.variadic signature.parameters := by
  intro hvariadic
  obtain ⟨leading, last, hparameters, hshape⟩ := hplain.ends hvariadic
  exact ⟨last, by rw [hparameters, List.getLast?_concat]; rfl, hshape⟩

/-- The parameters of a signature in a line of help, as characters. -/
def renderedPieces (signature : Signature) : List (List Char) :=
  (renderedParameters signature.variadic signature.parameters).map String.toList

theorem toList_rendered (signature : Signature) :
    signature.rendered.toList =
      signature.name.toList ++ '(' :: (joinWith [',', ' '] signature.renderedPieces ++ [')']) := by
  rw [rendered, String.toList_append, String.toList_append, String.toList_append,
    Text.toList_intercalate_eq_joinWith, List.append_assoc, List.append_assoc]
  rfl

/-- What is no part of a word or a mark is no part of a rendered parameter. -/
theorem IsPlain.piece {signature : Signature} (hplain : signature.IsPlain) {piece : List Char}
    (hpiece : piece ∈ signature.renderedPieces) :
    piece ≠ [] ∧ ∀ c ∈ piece, isWordChar c = true ∨ c ∈ ['.', '[', ']'] := by
  obtain ⟨text, htext, rfl⟩ := List.mem_map.mp hpiece
  obtain ⟨parameter, hparameter, collecting, rfl⟩ := exists_of_mem_renderedParameters htext
  obtain ⟨hsome, hword⟩ := hplain.tags parameter hparameter
  rw [toList_renderedParameter]
  refine ⟨List.append_ne_nil_of_left_ne_nil hsome _, fun c hc => ?_⟩
  rcases List.mem_append.mp hc with htag | hmark
  · exact .inl (hword c htag)
  · exact .inr (mem_of_mem_markOf hmark)

/-- No parameter holds a comma. -/
theorem IsPlain.piece_comma {signature : Signature} (hplain : signature.IsPlain) :
    ∀ piece ∈ signature.renderedPieces, piece ≠ [] ∧ ',' ∉ piece := by
  intro piece hpiece
  obtain ⟨hsome, hchars⟩ := hplain.piece hpiece
  exact ⟨hsome, fun hcomma => absurd (hchars ',' hcomma) (by decide)⟩

/-- A line of help is not empty and holds no line break. -/
theorem IsPlain.line {signature : Signature} (hplain : signature.IsPlain) :
    signature.rendered.toList ≠ [] ∧ '\n' ∉ signature.rendered.toList := by
  rw [toList_rendered]
  refine ⟨List.append_ne_nil_of_left_ne_nil hplain.name.1 _, fun hbreak => ?_⟩
  simp only [List.mem_append, List.mem_cons, List.not_mem_nil, or_false] at hbreak
  rcases hbreak with hname | hopen | hpieces | hclose
  · exact absurd (hplain.name.2 _ hname) (by decide)
  · exact absurd hopen (by decide)
  · rcases Text.mem_of_mem_joinWith hpieces with hbetween | ⟨piece, hpiece, hmem⟩
    · exact absurd hbetween (by decide)
    · exact absurd ((hplain.piece hpiece).2 _ hmem) (by decide)
  · exact absurd hclose (by decide)

/-- A line of help determines its signature. -/
theorem rendered_inj {first second : Signature} (hfirst : first.IsPlain) (hsecond : second.IsPlain)
    (heq : first.rendered = second.rendered) : first = second := by
  have hopening {signature : Signature} (hplain : signature.IsPlain) :
      '(' ∉ signature.name.toList :=
    fun hmem => absurd (hplain.name.2 _ hmem) (by decide)
  rw [← String.toList_inj, toList_rendered, toList_rendered] at heq
  -- the name ends at the first parenthesis, the parameters at the last one
  obtain ⟨hname, hinner⟩ := Text.append_separator_inj (hopening hfirst) (hopening hsecond) heq
  have hpieces := Text.joinWith_inj (by decide) hfirst.piece_comma hsecond.piece_comma
    (List.append_cancel_right hinner)
  have hparameters := (List.map_inj_right fun _ _ => String.toList_inj.mp).mp hpieces
  obtain ⟨hsame, hvariadic⟩ :=
    renderedParameters_inj hfirst.tags hsecond.tags hfirst.endsIn hsecond.endsIn hparameters
  obtain ⟨name, parameters, variadic⟩ := first
  obtain ⟨name', parameters', variadic'⟩ := second
  obtain rfl : name = name' := String.toList_inj.mp hname
  obtain rfl : parameters = parameters' := hsame
  obtain rfl : variadic = variadic' := hvariadic
  rfl

/-- Lines of help determine their signatures. -/
theorem map_rendered_inj {first second : List Signature}
    (hfirst : ∀ signature ∈ first, signature.IsPlain)
    (hsecond : ∀ signature ∈ second, signature.IsPlain)
    (heq : first.map rendered = second.map rendered) : first = second := by
  induction first generalizing second with
  | nil => exact (List.map_eq_nil_iff.mp heq.symm).symm
  | cons signature rest ih =>
    cases second with
    | nil => cases heq
    | cons signature' rest' =>
      obtain ⟨hsignature, hrest⟩ := List.forall_mem_cons.mp hfirst
      obtain ⟨hsignature', hrest'⟩ := List.forall_mem_cons.mp hsecond
      obtain ⟨hhead, htail⟩ := List.cons.inj heq
      rw [rendered_inj hsignature hsignature' hhead, ih hrest hrest' htail]

end Signature

/-! ## Tables -/

namespace Table

variable {R S : Type}

/-- The signatures of a table, in order. -/
def signatures (table : Table R) : List Signature := table.map (·.signature)

/-- Whether all signatures of a table are plain. -/
def IsPlain (table : Table R) : Prop := ∀ signature ∈ table.signatures, signature.IsPlain

/-- Help has one line for each operation, in order. -/
theorem lines_help {table : Table R} (hplain : table.IsPlain) :
    Text.lines table.help.toList = table.signatures.map fun signature =>
      signature.rendered.toList := by
  have hhelp : table.help.toList =
      joinWith ['\n'] (table.signatures.map fun signature => signature.rendered.toList) := by
    rw [help, Text.toList_intercalate_eq_joinWith, signatures, List.map_map, List.map_map]
    rfl
  rw [hhelp]
  exact Text.lines_joinWith (List.forall_mem_map.mpr fun signature hmem => (hplain _ hmem).line)

/-- Tables with the same help have the same signatures. -/
theorem signatures_eq_of_help {first : Table R} {second : Table S} (hfirst : first.IsPlain)
    (hsecond : second.IsPlain) (hhelp : first.help = second.help) :
    first.signatures = second.signatures := by
  have hlines := congrArg (fun text : String => Text.lines text.toList) hhelp
  simp only [lines_help hfirst, lines_help hsecond] at hlines
  apply Signature.map_rendered_inj hfirst hsecond
  refine (List.map_inj_right fun _ _ => String.toList_inj.mp).mp ?_
  rw [List.map_map, List.map_map]
  exact hlines

/-- The signature that a name finds depends on the signatures alone. -/
theorem find?_signature (table : Table R) (name : String) :
    (table.find? name).map (·.signature) =
      table.signatures.find? fun signature => sameName signature.name name := by
  rw [signatures, List.find?_map]
  rfl

/-- Tables with the same signatures refuse a line alike, or bind its arguments to the same signature
with the same values. -/
theorem outline_eq_of_signatures {first : Table R} {second : Table S}
    (hsame : first.signatures = second.signatures) (line : String) :
    (first.prepare line).map Prepared.outline = (second.prepare line).map Prepared.outline := by
  apply outline_congr
  intro expression _
  rw [find?_signature, find?_signature, hsame]

end Table

/-- Help has one line for each operation, in the order of the table. Two tables of plain signatures
with the same help have the same signatures in the same order; so each line is refused to both for
the same reason, or it finds the same signature in both, with the same values. -/
theorem help_determines_interface {R S : Type} (first : Table R) (second : Table S)
    (hfirst : first.IsPlain) (hsecond : second.IsPlain) :
    (first.help = second.help →
      first.signatures = second.signatures ∧
      ∀ line, (first.prepare line).map Prepared.outline =
        (second.prepare line).map Prepared.outline) ∧
    Text.lines first.help.toList = first.signatures.map fun signature =>
      signature.rendered.toList := by
  refine ⟨fun hhelp => ?_, Table.lines_help hfirst⟩
  have hsame := Table.signatures_eq_of_help hfirst hsecond hhelp
  exact ⟨hsame, Table.outline_eq_of_signatures hsame⟩

/-- Operations with sequences in every place where they can stand. -/
def tagging : Table Unit :=
  [⟨.collecting "Mix" [⟨"F2Id", .sequence⟩, ⟨"string", .sequence⟩], .finished ()⟩,
   ⟨.fixed "Tag" [⟨"F2Id", .sequence⟩, ⟨"string", .single⟩], .finished ()⟩]

/-- A table and its recording have the same help, two lines of it, and so the same signatures. -/
theorem help_determines_interface_tagging :
    tagging.IsPlain ∧ tagging.recording.IsPlain ∧
      tagging.signatures = tagging.recording.signatures ∧
      Text.lines tagging.help.toList =
        ["Mix(F2Id[], string...)".toList, "Tag(F2Id[], string)".toList] := by
  have hplain : tagging.IsPlain := by
    have hname {text : List Char} (hword : Expression.isWord text = true) : IsName text :=
      Expression.isWord_iff.mp hword
    have htags {first second : Parameter} (hfirst : IsName first.tag.toList)
        (hsecond : IsName second.tag.toList) :
        ∀ parameter ∈ [first, second], IsName parameter.tag.toList :=
      List.forall_mem_cons.mpr ⟨hfirst, List.forall_mem_singleton.mpr hsecond⟩
    refine List.forall_mem_cons.mpr ⟨⟨hname (by decide), ?_, ?_⟩,
      List.forall_mem_singleton.mpr ⟨hname (by decide), ?_, ?_⟩⟩
    · exact htags (hname (by decide)) (hname (by decide))
    · exact Signature.endsInSequence_collecting rfl "Mix" [⟨"F2Id", .sequence⟩]
    · exact htags (hname (by decide)) (hname (by decide))
    · exact Signature.endsInSequence_fixed _ _
  have hrecording : tagging.recording.IsPlain := hplain
  obtain ⟨hsame, hlines⟩ := help_determines_interface tagging tagging.recording hplain hrecording
  exact ⟨hplain, hrecording, (hsame rfl).1, hlines⟩

end ChatSteward.Command
