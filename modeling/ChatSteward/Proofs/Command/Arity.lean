import ChatSteward.Command.Table
import ChatSteward.Proofs.Command.Grammar
import Mathlib.Data.List.Forall2

/-!
# What a command line carries out

A command line carries out one operation of a table or none. Which one depends on the name alone,
and whether it is carried out on the number of arguments alone. To tell what is carried out, the
operations of a table are exchanged for ones that record their place and the values they get:
finding an operation and binding its arguments look at signatures only, so the record holds for
the operations themselves.

## Main definitions

* `Signature.Accepts` — the numbers of arguments that a signature takes
* `Signature.Carries` — values that carry some arguments to the parameters of a signature
* `Table.IsFirst` — the first operation of a name, with its place
* `Table.runs` — the operations that a line carries out, with the values they get

## Main results

* `bind_of_accepts` — an accepted number of arguments is bound without loss
* `Table.call_of_bind`, `Table.call_of_refuses` — the reply is the one of the operation that is
  carried out, or of a refusal
* `Table.runs_of_accepts`, `Table.accepts_of_runs` — what is carried out is what is accepted
* `call_reconciles_arity` — which operation a line carries out, with which values, or why none
-/

namespace ChatSteward.Command

/-! ## Signatures and values -/

/-- Whether a value has the shape of its parameter. -/
def Bound.Fits (parameter : Parameter) (value : Bound) : Prop :=
  match parameter.shape with
  | .single => ∃ argument, value = .single argument
  | .sequence => ∃ arguments, value = .sequence arguments

namespace Signature

/-- Whether a variadic signature ends with a parameter that takes a sequence. -/
def EndsInSequence (signature : Signature) : Prop :=
  signature.variadic = true →
    ∃ leading last, signature.parameters = leading ++ [last] ∧ last.shape = .sequence

/-- Whether a signature takes a number of arguments. -/
def Accepts (signature : Signature) (count : Nat) : Prop :=
  signature.variadic = false ∧ count = signature.parameters.length ∨
    signature.variadic = true ∧ signature.parameters.length - 1 ≤ count

/-- Whether values carry arguments to the parameters of a signature: there is one value for each
parameter, and the values together are the arguments in order. All but the collecting one hold
one argument each, and that one holds all the rest. -/
structure Carries (signature : Signature) (arguments : List String) (values : List Bound) :
    Prop where
  fits : List.Forall₂ Bound.Fits signature.parameters values
  flat : values.flatMap Bound.values = arguments
  leading : ∀ value ∈ values.take signature.required, value.values.length = 1
  rest : signature.variadic = true →
    values.drop signature.required = [.sequence (arguments.drop signature.required)]

theorem required_of_fixed {signature : Signature} (hfixed : signature.variadic = false) :
    signature.required = signature.parameters.length := by
  simp [required, hfixed]

theorem required_of_variadic {signature : Signature} (hvariadic : signature.variadic = true) :
    signature.required = signature.parameters.length - 1 := by
  simp [required, hvariadic]

/-- A number of arguments is too small, too great, or accepted. -/
theorem accepts_iff {signature : Signature} {count : Nat} :
    signature.Accepts count ↔ ¬ count < signature.required ∧
      ¬ (signature.variadic = false ∧ signature.required < count) := by
  unfold Accepts
  cases hvariadic : signature.variadic with
  | false => simp only [required_of_fixed hvariadic]; grind
  | true => simp only [required_of_variadic hvariadic]; grind

end Signature

/-! ## Binding -/

/-- The values of parameters that get one argument each. -/
def valuesOf (parameters : List Parameter) (arguments : List String) : List Bound :=
  parameters.zipWith (fun parameter argument => Bound.ofArgument parameter.shape argument) arguments

@[simp] theorem Bound.ofArgument_fits (parameter : Parameter) (argument : String) :
    Bound.Fits parameter (.ofArgument parameter.shape argument) := by
  unfold Bound.Fits
  cases parameter.shape with
  | single => exact ⟨argument, rfl⟩
  | sequence => exact ⟨[argument], rfl⟩

@[simp] theorem Bound.ofArgument_values (shape : Shape) (argument : String) :
    (Bound.ofArgument shape argument).values = [argument] := by
  cases shape <;> rfl

theorem valuesOf_fits {parameters : List Parameter} {arguments : List String}
    (henough : parameters.length ≤ arguments.length) :
    List.Forall₂ Bound.Fits parameters (valuesOf parameters arguments) := by
  induction parameters generalizing arguments with
  | nil => exact .nil
  | cons parameter parameters ih =>
    cases arguments with
    | nil => cases henough
    | cons argument arguments =>
      exact .cons (Bound.ofArgument_fits parameter argument) (ih (Nat.le_of_succ_le_succ henough))

theorem valuesOf_flat {parameters : List Parameter} {arguments : List String}
    (henough : parameters.length ≤ arguments.length) :
    (valuesOf parameters arguments).flatMap Bound.values = arguments.take parameters.length := by
  induction parameters generalizing arguments with
  | nil => simp [valuesOf]
  | cons parameter parameters ih =>
    cases arguments with
    | nil => cases henough
    | cons argument arguments =>
      have hrest := ih (Nat.le_of_succ_le_succ henough)
      rw [valuesOf, List.zipWith_cons_cons, ← valuesOf, List.flatMap_cons, hrest,
        Bound.ofArgument_values]
      rfl

theorem length_values_of_mem_valuesOf {parameters : List Parameter} {arguments : List String}
    {value : Bound} (hmem : value ∈ valuesOf parameters arguments) : value.values.length = 1 := by
  induction parameters generalizing arguments with
  | nil => simp [valuesOf] at hmem
  | cons parameter parameters ih =>
    cases arguments with
    | nil => simp [valuesOf] at hmem
    | cons argument arguments =>
      rw [valuesOf, List.zipWith_cons_cons, ← valuesOf] at hmem
      rcases List.mem_cons.mp hmem with rfl | hmem
      · rw [Bound.ofArgument_values]; rfl
      · exact ih hmem

theorem length_valuesOf {parameters : List Parameter} {arguments : List String}
    (henough : parameters.length ≤ arguments.length) :
    (valuesOf parameters arguments).length = parameters.length := by
  rw [valuesOf, List.length_zipWith, Nat.min_eq_left henough]

theorem bind_of_few {arguments : List String} {signature : Signature}
    (hfew : arguments.length < signature.required) :
    bind arguments signature = .error .tooFewArguments := by
  simp [bind, hfew]

theorem bind_of_many {arguments : List String} {signature : Signature}
    (hfixed : signature.variadic = false) (hmany : signature.required < arguments.length) :
    bind arguments signature = .error .tooManyArguments := by
  simp [bind, hfixed, hmany, Nat.lt_asymm hmany]

theorem bind_of_enough {arguments : List String} {signature : Signature}
    (hfew : ¬ arguments.length < signature.required)
    (hmany : ¬ (signature.variadic = false ∧ signature.required < arguments.length)) :
    bind arguments signature =
      .ok (valuesOf (signature.parameters.take signature.required) arguments ++
        if signature.variadic then [.sequence (arguments.drop signature.required)] else []) := by
  simp only [bind, if_neg hfew, if_neg hmany]
  rfl

theorem carries_of_fixed {signature : Signature} {arguments : List String}
    (hfixed : signature.variadic = false)
    (hcount : arguments.length = signature.parameters.length) :
    signature.Carries arguments (valuesOf signature.parameters arguments) where
  fits := valuesOf_fits (Nat.le_of_eq hcount.symm)
  flat := by rw [valuesOf_flat (Nat.le_of_eq hcount.symm), ← hcount, List.take_length]
  leading _ hmem := length_values_of_mem_valuesOf (List.mem_of_mem_take hmem)
  rest hvariadic := by rw [hfixed] at hvariadic; cases hvariadic

theorem carries_of_collecting {signature : Signature} {arguments : List String}
    {leading : List Parameter} {last : Parameter} (hvariadic : signature.variadic = true)
    (hparameters : signature.parameters = leading ++ [last]) (hlast : last.shape = .sequence)
    (henough : leading.length ≤ arguments.length) :
    signature.Carries arguments
      (valuesOf leading arguments ++ [.sequence (arguments.drop leading.length)]) := by
  have hrequired : signature.required = leading.length := by
    rw [Signature.required_of_variadic hvariadic, hparameters]
    simp
  have hlength := length_valuesOf henough
  have hfits : Bound.Fits last (.sequence (arguments.drop leading.length)) := by
    rw [Bound.Fits, hlast]
    exact ⟨_, rfl⟩
  constructor
  -- the values are those of the leading parameters, and one that holds all the rest
  · rw [hparameters]
    exact List.rel_append (valuesOf_fits henough) (.cons hfits .nil)
  · rw [List.flatMap_append, valuesOf_flat henough]
    simp [Bound.values]
  · rw [hrequired, List.take_left' hlength]
    exact fun value hmem => length_values_of_mem_valuesOf hmem
  · rw [hrequired, List.drop_left' hlength]
    exact fun _ => rfl

/-- An accepted number of arguments is bound without loss. -/
theorem bind_of_accepts {arguments : List String} {signature : Signature}
    (hends : signature.EndsInSequence) (haccepts : signature.Accepts arguments.length) :
    ∃ values, bind arguments signature = .ok values ∧ signature.Carries arguments values := by
  obtain ⟨hfew, hmany⟩ := Signature.accepts_iff.mp haccepts
  rw [bind_of_enough hfew hmany]
  refine ⟨_, rfl, ?_⟩
  rcases haccepts with ⟨hfixed, hcount⟩ | ⟨hvariadic, henough⟩
  · rw [Signature.required_of_fixed hfixed, List.take_length, hfixed, if_neg (by simp),
      List.append_nil]
    exact carries_of_fixed hfixed hcount
  · obtain ⟨leading, last, hparameters, hlast⟩ := hends hvariadic
    have hrequired : signature.required = leading.length := by
      rw [Signature.required_of_variadic hvariadic, hparameters]
      simp
    rw [hrequired, hparameters, List.take_left' rfl, hvariadic, if_pos rfl]
    exact carries_of_collecting hvariadic hparameters hlast (hrequired ▸ Nat.le_of_not_lt hfew)

/-- What is bound was accepted. -/
theorem accepts_of_bind {arguments : List String} {signature : Signature} {values : List Bound}
    (hbind : bind arguments signature = .ok values) : signature.Accepts arguments.length := by
  refine Signature.accepts_iff.mpr ⟨fun hfew => ?_, fun hmany => ?_⟩
  · rw [bind_of_few hfew] at hbind
    cases hbind
  · rw [bind_of_many hmany.1 hmany.2] at hbind
    cases hbind

/-- What is bound carries the arguments. -/
theorem carries_of_bind {arguments : List String} {signature : Signature} {values : List Bound}
    (hends : signature.EndsInSequence) (hbind : bind arguments signature = .ok values) :
    signature.Carries arguments values := by
  obtain ⟨values', hbind', hcarries⟩ := bind_of_accepts hends (accepts_of_bind hbind)
  rwa [Except.ok.inj (hbind.symm.trans hbind')]

/-! ## Signatures of one or two parameters -/

namespace Signature

variable {name : String} {arguments : List String} {values : List Bound}

theorem endsInSequence_fixed (name : String) (parameters : List Parameter) :
    (fixed name parameters).EndsInSequence :=
  fun hvariadic => absurd hvariadic (by simp [fixed])

theorem endsInSequence_collecting {last : Parameter} (hlast : last.shape = .sequence)
    (name : String) (leading : List Parameter) :
    (collecting name (leading ++ [last])).EndsInSequence :=
  fun _ => ⟨leading, last, rfl, hlast⟩

/-- Without parameters there are no arguments. -/
theorem carries_fixed_nil (hcarries : (fixed name []).Carries arguments values) :
    arguments = [] ∧ values = [] := by
  have hvalues : values = [] := List.forall₂_nil_left_iff.mp hcarries.fits
  refine ⟨?_, hvalues⟩
  rw [← hcarries.flat, hvalues]
  rfl

/-- One parameter gets the one argument. -/
theorem carries_fixed_single {parameter : Parameter} (hshape : parameter.shape = .single)
    (hcarries : (fixed name [parameter]).Carries arguments values) :
    ∃ argument, arguments = [argument] ∧ values = [.single argument] := by
  obtain ⟨value, rest, hfits, hrest, hvalues⟩ := List.forall₂_cons_left_iff.mp hcarries.fits
  rw [Bound.Fits, hshape] at hfits
  obtain ⟨argument, rfl⟩ := hfits
  obtain rfl := List.forall₂_nil_left_iff.mp hrest
  refine ⟨argument, ?_, hvalues⟩
  rw [← hcarries.flat, hvalues]
  rfl

/-- One collecting parameter gets all arguments. -/
theorem carries_collecting_sequence {parameter : Parameter}
    (hcarries : (collecting name [parameter]).Carries arguments values) :
    values = [.sequence arguments] :=
  hcarries.rest rfl

/-- Of two parameters the first gets the first argument, and the collecting one the others. -/
theorem carries_collecting_single {parameter last : Parameter} (hshape : parameter.shape = .single)
    (hcarries : (collecting name [parameter, last]).Carries arguments values) :
    ∃ first rest, arguments = first :: rest ∧ values = [.single first, .sequence rest] := by
  obtain ⟨value, values', hfits, -, hvalues⟩ := List.forall₂_cons_left_iff.mp hcarries.fits
  rw [Bound.Fits, hshape] at hfits
  obtain ⟨first, rfl⟩ := hfits
  have htail : values' = [.sequence (arguments.drop 1)] := by
    have hrest := hcarries.rest rfl
    rw [hvalues] at hrest
    exact hrest
  have harguments : arguments = first :: arguments.drop 1 := by
    conv_lhs => rw [← hcarries.flat, hvalues, htail]
    simp [Bound.values]
  exact ⟨first, arguments.drop 1, harguments, by rw [hvalues, htail]⟩

end Signature

/-! ## The first operation of a name -/

namespace Table

variable {R : Type}

/-- The first operation of a name, with its place in the table. -/
def IsFirst (table : Table R) (name : String) (place : Nat) (operation : Operation R) : Prop :=
  table[place]? = some operation ∧ sameName operation.signature.name name = true ∧
    ∀ before < place, ∀ other, table[before]? = some other →
      sameName other.signature.name name = false

/-- Whether no operation of a table has a name. -/
def Lacks (table : Table R) (name : String) : Prop :=
  ∀ operation ∈ table, sameName operation.signature.name name = false

theorem find?_eq_some_iff {table : Table R} {name : String} {operation : Operation R} :
    table.find? name = some operation ↔ ∃ place, table.IsFirst name place operation := by
  rw [find?, List.find?_eq_some_iff_getElem]
  constructor
  · rintro ⟨hname, place, hlt, heq, hbefore⟩
    refine ⟨place, by rw [List.getElem?_eq_getElem hlt, heq], hname,
      fun before hlt' other hother => ?_⟩
    obtain ⟨hlt'', rfl⟩ := List.getElem?_eq_some_iff.mp hother
    simpa using hbefore before hlt'
  · rintro ⟨place, hplace, hname, hbefore⟩
    obtain ⟨hlt, heq⟩ := List.getElem?_eq_some_iff.mp hplace
    refine ⟨hname, place, hlt, heq, fun before hlt' => ?_⟩
    simpa using hbefore before hlt' _ (List.getElem?_eq_getElem (Nat.lt_trans hlt' hlt))

@[simp] theorem find?_eq_none_iff {table : Table R} {name : String} :
    table.find? name = none ↔ table.Lacks name := by
  simp [find?, Lacks]

/-- There is one first operation of a name at most. -/
theorem IsFirst.unique {table : Table R} {name : String} {place place' : Nat}
    {operation operation' : Operation R} (hfirst : table.IsFirst name place operation)
    (hfirst' : table.IsFirst name place' operation') :
    place = place' ∧ operation = operation' := by
  have hplace : place = place' := by
    -- the one that comes first would break what the other says of all before it
    rcases Nat.lt_trichotomy place place' with hlt | heq | hlt
    · exact absurd hfirst.2.1 (by simp [hfirst'.2.2 place hlt operation hfirst.1])
    · exact heq
    · exact absurd hfirst'.2.1 (by simp [hfirst.2.2 place' hlt operation' hfirst'.1])
  subst hplace
  exact ⟨rfl, Option.some.inj (hfirst.1.symm.trans hfirst'.1)⟩

/-! ## Preparation -/

theorem prepare_of_error {table : Table R} {line : String} {refusal : Refusal}
    (hparse : Expression.parse line = .error refusal) :
    table.prepare line = .error refusal := by
  simp only [prepare, hparse]
  rfl

theorem prepare_of_ok {table : Table R} {line : String} {expression : Expression}
    (hparse : Expression.parse line = .ok expression) :
    table.prepare line = (table.resolve expression.name).bind fun operation =>
      (bind expression.arguments operation.signature).map fun values => ⟨operation, values⟩ := by
  simp only [prepare, hparse]
  rfl

theorem prepare_of_lacks {table : Table R} {line : String} {expression : Expression}
    (hparse : Expression.parse line = .ok expression) (hlacks : table.Lacks expression.name) :
    table.prepare line = .error .unknownFunction := by
  rw [prepare_of_ok hparse, resolve, find?_eq_none_iff.mpr hlacks]
  rfl

theorem prepare_of_isFirst {table : Table R} {line : String} {expression : Expression}
    {place : Nat} {operation : Operation R} (hparse : Expression.parse line = .ok expression)
    (hfirst : table.IsFirst expression.name place operation) :
    table.prepare line =
      (bind expression.arguments operation.signature).map fun values => ⟨operation, values⟩ := by
  rw [prepare_of_ok hparse, resolve, find?_eq_some_iff.mpr ⟨place, hfirst⟩]
  rfl

/-- What is prepared is an operation of the table with the name and with its arguments bound. -/
theorem exists_of_prepare {table : Table R} {line : String} {prepared : Prepared R}
    (hprepare : table.prepare line = .ok prepared) :
    ∃ expression, Expression.parse line = .ok expression ∧ prepared.operation ∈ table ∧
      sameName prepared.operation.signature.name expression.name = true ∧
      bind expression.arguments prepared.operation.signature = .ok prepared.arguments := by
  cases hparse : Expression.parse line with
  | error refusal =>
    rw [prepare_of_error hparse] at hprepare
    cases hprepare
  | ok expression =>
    cases hfind : table.find? expression.name with
    | none =>
      rw [prepare_of_lacks hparse (find?_eq_none_iff.mp hfind)] at hprepare
      cases hprepare
    | some operation =>
      obtain ⟨place, hfirst⟩ := find?_eq_some_iff.mp hfind
      rw [prepare_of_isFirst hparse hfirst] at hprepare
      cases hbind : bind expression.arguments operation.signature with
      | error refusal =>
        rw [hbind] at hprepare
        cases hprepare
      | ok values =>
        rw [hbind] at hprepare
        cases hprepare
        exact ⟨expression, rfl, List.mem_of_getElem? hfirst.1, hfirst.2.1, hbind⟩

/-! ## Records -/

/-- The operations of a table, each of which only records its place and the values it gets. -/
def recording (table : Table R) : Table (List (Nat × List Bound)) :=
  table.mapIdx fun place operation =>
    ⟨operation.signature, .inspect fun values => .finished [(place, values)]⟩

/-- The operations that a line carries out, by their places, with the values they get. -/
def runs (table : Table R) (line : String) : List (Nat × List Bound) :=
  table.recording.call (fun _ => []) line

theorem isFirst_recording {table : Table R} {name : String} {place : Nat}
    {operation : Operation R} (hfirst : table.IsFirst name place operation) :
    table.recording.IsFirst name place
      ⟨operation.signature, .inspect fun values => .finished [(place, values)]⟩ := by
  refine ⟨by simp [recording, hfirst.1], hfirst.2.1, fun before hlt other hother => ?_⟩
  rw [recording, List.getElem?_mapIdx] at hother
  obtain ⟨found, hfound, rfl⟩ := Option.map_eq_some_iff.mp hother
  exact hfirst.2.2 before hlt found hfound

theorem lacks_recording {table : Table R} {name : String} (hlacks : table.Lacks name) :
    table.recording.Lacks name := by
  intro operation hmem
  obtain ⟨place, hplace, rfl⟩ := List.mem_mapIdx.mp hmem
  exact hlacks _ (List.getElem_mem hplace)

/-- A signature is bound in the same way whatever the operation does. -/
theorem call_of_bind {table : Table R} {line : String} {expression : Expression} {place : Nat}
    {operation : Operation R} {values : List Bound}
    (hparse : Expression.parse line = .ok expression)
    (hfirst : table.IsFirst expression.name place operation)
    (hbind : bind expression.arguments operation.signature = .ok values) :
    table.runs line = [(place, values)] ∧
      ∀ reply, table.call reply line = operation.plan.run values := by
  constructor
  · rw [runs, call, prepare_of_isFirst hparse (isFirst_recording hfirst), hbind]
    rfl
  · intro reply
    rw [call, prepare_of_isFirst hparse hfirst, hbind]
    rfl

/-! ## Refusals -/

/-- Why nothing is carried out: the reasons exclude each other. -/
inductive Refuses (table : Table R) (line : String) : Refusal → Prop where
  | unknownExpression (hparse : ¬ ∃ expression, Expression.parse line = .ok expression) :
      Refuses table line .unknownExpression
  | unknownFunction {expression : Expression} (hparse : Expression.parse line = .ok expression)
      (hlacks : table.Lacks expression.name) : Refuses table line .unknownFunction
  | tooFewArguments {expression : Expression} {place : Nat} {operation : Operation R}
      (hparse : Expression.parse line = .ok expression)
      (hfirst : table.IsFirst expression.name place operation)
      (hfew : expression.arguments.length < operation.signature.required) :
      Refuses table line .tooFewArguments
  | tooManyArguments {expression : Expression} {place : Nat} {operation : Operation R}
      (hparse : Expression.parse line = .ok expression)
      (hfirst : table.IsFirst expression.name place operation)
      (hfixed : operation.signature.variadic = false)
      (hmany : operation.signature.required < expression.arguments.length) :
      Refuses table line .tooManyArguments

theorem prepare_of_refuses {table : Table R} {line : String} {refusal : Refusal}
    (hrefuses : table.Refuses line refusal) : table.prepare line = .error refusal := by
  cases hrefuses with
  | unknownExpression hparse =>
    cases hline : Expression.parse line with
    | ok expression => exact absurd ⟨expression, hline⟩ hparse
    | error refusal =>
      rw [prepare_of_error hline, Expression.ofTrimmed_error hline]
  | unknownFunction hparse hlacks => exact prepare_of_lacks hparse hlacks
  | tooFewArguments hparse hfirst hfew =>
    rw [prepare_of_isFirst hparse hfirst, bind_of_few hfew]
    rfl
  | tooManyArguments hparse hfirst hfixed hmany =>
    rw [prepare_of_isFirst hparse hfirst, bind_of_many hfixed hmany]
    rfl

theorem refuses_recording {table : Table R} {line : String} {refusal : Refusal}
    (hrefuses : table.Refuses line refusal) : table.recording.Refuses line refusal := by
  cases hrefuses with
  | unknownExpression hparse => exact .unknownExpression hparse
  | unknownFunction hparse hlacks => exact .unknownFunction hparse (lacks_recording hlacks)
  | tooFewArguments hparse hfirst hfew =>
    exact .tooFewArguments hparse (isFirst_recording hfirst) hfew
  | tooManyArguments hparse hfirst hfixed hmany =>
    exact .tooManyArguments hparse (isFirst_recording hfirst) hfixed hmany

/-- A refused line carries nothing out and gets the text of the refusal. -/
theorem call_of_refuses {table : Table R} {line : String} {refusal : Refusal}
    (hrefuses : table.Refuses line refusal) :
    table.runs line = [] ∧ ∀ reply, table.call reply line = reply refusal.message := by
  constructor
  · rw [runs, call, prepare_of_refuses (refuses_recording hrefuses)]
  · intro reply
    rw [call, prepare_of_refuses hrefuses]

/-- The text of the reply tells the reason. -/
theorem Refuses.message_eq_iff {table : Table R} {line : String} {refusal : Refusal}
    (hrefuses : table.Refuses line refusal) (other : Refusal) :
    refusal.message = other.message ↔ table.Refuses line other := by
  constructor
  · intro hmessage
    -- no two refusals have the same text
    have heq : refusal = other := by
      cases refusal <;> cases other <;> first | rfl | exact absurd hmessage (by decide)
    exact heq ▸ hrefuses
  · intro hother
    have heq := (prepare_of_refuses hrefuses).symm.trans (prepare_of_refuses hother)
    rw [Except.error.inj heq]

/-- A line is refused or finds an operation that accepts its arguments. -/
theorem exists_isFirst_or_refuses (table : Table R) (line : String) :
    (∃ expression place operation, Expression.parse line = .ok expression ∧
      table.IsFirst expression.name place operation ∧
      operation.signature.Accepts expression.arguments.length) ∨
    ∃ refusal, table.Refuses line refusal := by
  -- the reasons are checked in this order: the form, the name, too few and too many arguments
  cases hparse : Expression.parse line with
  | error refusal =>
    exact .inr ⟨_, .unknownExpression (by simp [hparse])⟩
  | ok expression =>
    cases hfind : table.find? expression.name with
    | none => exact .inr ⟨_, .unknownFunction hparse (find?_eq_none_iff.mp hfind)⟩
    | some operation =>
      obtain ⟨place, hfirst⟩ := find?_eq_some_iff.mp hfind
      by_cases hfew : expression.arguments.length < operation.signature.required
      · exact .inr ⟨_, .tooFewArguments hparse hfirst hfew⟩
      · by_cases hmany : operation.signature.variadic = false ∧
            operation.signature.required < expression.arguments.length
        · exact .inr ⟨_, .tooManyArguments hparse hfirst hmany.1 hmany.2⟩
        · exact .inl ⟨expression, place, operation, rfl, hfirst,
            Signature.accepts_iff.mpr ⟨hfew, hmany⟩⟩

@[simp] theorem refuses_unknownExpression_iff {table : Table R} {line : String} :
    table.Refuses line .unknownExpression ↔
      ¬ ∃ expression, Expression.parse line = .ok expression := by
  refine ⟨?_, .unknownExpression⟩
  intro hrefuses
  cases hrefuses with
  | unknownExpression hparse => exact hparse

@[simp] theorem refuses_unknownFunction_iff {table : Table R} {line : String} :
    table.Refuses line .unknownFunction ↔ ∃ expression,
      Expression.parse line = .ok expression ∧ table.Lacks expression.name := by
  constructor
  · intro hrefuses
    cases hrefuses with
    | unknownFunction hparse hlacks => exact ⟨_, hparse, hlacks⟩
  · rintro ⟨_, hparse, hlacks⟩
    exact .unknownFunction hparse hlacks

theorem refuses_tooFewArguments_iff {table : Table R} {line : String} :
    table.Refuses line .tooFewArguments ↔ ∃ expression place operation,
      Expression.parse line = .ok expression ∧ table.IsFirst expression.name place operation ∧
      expression.arguments.length < operation.signature.required := by
  constructor
  · intro hrefuses
    cases hrefuses with
    | tooFewArguments hparse hfirst hfew => exact ⟨_, _, _, hparse, hfirst, hfew⟩
  · rintro ⟨_, _, _, hparse, hfirst, hfew⟩
    exact .tooFewArguments hparse hfirst hfew

theorem refuses_tooManyArguments_iff {table : Table R} {line : String} :
    table.Refuses line .tooManyArguments ↔ ∃ expression place operation,
      Expression.parse line = .ok expression ∧ table.IsFirst expression.name place operation ∧
      operation.signature.variadic = false ∧
      operation.signature.required < expression.arguments.length := by
  constructor
  · intro hrefuses
    cases hrefuses with
    | tooManyArguments hparse hfirst hfixed hmany =>
      exact ⟨_, _, _, hparse, hfirst, hfixed, hmany⟩
  · rintro ⟨_, _, _, hparse, hfirst, hfixed, hmany⟩
    exact .tooManyArguments hparse hfirst hfixed hmany

/-! ## What is carried out -/

/-- An operation that accepts its arguments is carried out with all of them. -/
theorem runs_of_accepts {table : Table R} {line : String} {expression : Expression} {place : Nat}
    {operation : Operation R} (hends : ∀ operation ∈ table, operation.signature.EndsInSequence)
    (hparse : Expression.parse line = .ok expression)
    (hfirst : table.IsFirst expression.name place operation)
    (haccepts : operation.signature.Accepts expression.arguments.length) :
    ∃ values, operation.signature.Carries expression.arguments values ∧
      table.runs line = [(place, values)] ∧
      ∀ reply, table.call reply line = operation.plan.run values := by
  have hmem : operation ∈ table := List.mem_of_getElem? hfirst.1
  obtain ⟨values, hbind, hcarries⟩ := bind_of_accepts (hends operation hmem) haccepts
  exact ⟨values, hcarries, call_of_bind hparse hfirst hbind⟩

/-- An operation that is carried out accepts its arguments. -/
theorem accepts_of_runs {table : Table R} {line : String} {expression : Expression} {place : Nat}
    {operation : Operation R} {values : List Bound}
    (hparse : Expression.parse line = .ok expression)
    (hfirst : table.IsFirst expression.name place operation)
    (hruns : table.runs line = [(place, values)]) :
    operation.signature.Accepts expression.arguments.length := by
  rcases table.exists_isFirst_or_refuses line with
    ⟨expression', place', operation', hparse', hfirst', haccepts⟩ | ⟨refusal, hrefuses⟩
  · -- the line finds one expression and the name one operation
    obtain rfl := Except.ok.inj (hparse.symm.trans hparse')
    obtain ⟨rfl, rfl⟩ := hfirst.unique hfirst'
    exact haccepts
  · rw [(call_of_refuses hrefuses).1] at hruns
    cases hruns

/-- One operation is carried out at most. -/
theorem length_runs_le {table : Table R}
    (hends : ∀ operation ∈ table, operation.signature.EndsInSequence) (line : String) :
    (table.runs line).length ≤ 1 := by
  rcases table.exists_isFirst_or_refuses line with
    ⟨expression, place, operation, hparse, hfirst, haccepts⟩ | ⟨refusal, hrefuses⟩
  · obtain ⟨values, -, hruns, -⟩ := runs_of_accepts hends hparse hfirst haccepts
    simp [hruns]
  · simp [(call_of_refuses hrefuses).1]

end Table

/-! ## The whole -/

/-- A line carries out one operation at most. The first operation of its name is carried out
exactly when it accepts the number of arguments; it gets all of them, parameter by parameter, and
what it yields is what the line yields. Every other line carries out nothing and gets the text
that tells why. -/
theorem call_reconciles_arity {R : Type} (table : Table R) (line : String)
    (hends : ∀ operation ∈ table, operation.signature.EndsInSequence) :
    (table.runs line).length ≤ 1 ∧
    (∀ expression place operation, Expression.parse line = .ok expression →
      table.IsFirst expression.name place operation →
      ((∃ values, table.runs line = [(place, values)]) ↔
        operation.signature.Accepts expression.arguments.length) ∧
      ∀ values, table.runs line = [(place, values)] →
        operation.signature.Carries expression.arguments values ∧
        ∀ reply, table.call reply line = operation.plan.run values) ∧
    ((¬ ∃ expression place operation, Expression.parse line = .ok expression ∧
        table.IsFirst expression.name place operation ∧
        operation.signature.Accepts expression.arguments.length) →
      table.runs line = [] ∧
      ∃ text, (∀ reply, table.call reply line = reply text) ∧
        (text = "unknown expression" ↔
          ¬ ∃ expression, Expression.parse line = .ok expression) ∧
        (text = "unknown function" ↔ ∃ expression, Expression.parse line = .ok expression ∧
          table.Lacks expression.name) ∧
        (text = "too few arguments" ↔ ∃ expression place operation,
          Expression.parse line = .ok expression ∧
          table.IsFirst expression.name place operation ∧
          expression.arguments.length < operation.signature.required) ∧
        (text = "too many arguments" ↔ ∃ expression place operation,
          Expression.parse line = .ok expression ∧
          table.IsFirst expression.name place operation ∧
          operation.signature.variadic = false ∧
          operation.signature.required < expression.arguments.length)) := by
  refine ⟨Table.length_runs_le hends line, ?_, ?_⟩
  · intro expression place operation hparse hfirst
    refine ⟨⟨?_, ?_⟩, ?_⟩
    · rintro ⟨values, hruns⟩
      exact Table.accepts_of_runs hparse hfirst hruns
    · intro haccepts
      obtain ⟨values, -, hruns, -⟩ := Table.runs_of_accepts hends hparse hfirst haccepts
      exact ⟨values, hruns⟩
    · intro values hruns
      have haccepts := Table.accepts_of_runs hparse hfirst hruns
      obtain ⟨values', hcarries, hruns', hcall⟩ :=
        Table.runs_of_accepts hends hparse hfirst haccepts
      -- the record holds one entry, so both say the same values
      have hvalues : values = values' := by simpa using hruns.symm.trans hruns'
      rw [hvalues]
      exact ⟨hcarries, hcall⟩
  · intro hnone
    obtain ⟨refusal, hrefuses⟩ := (table.exists_isFirst_or_refuses line).resolve_left hnone
    obtain ⟨hruns, hcall⟩ := Table.call_of_refuses hrefuses
    refine ⟨hruns, refusal.message, hcall, ?_, ?_, ?_, ?_⟩
    · exact (hrefuses.message_eq_iff .unknownExpression).trans Table.refuses_unknownExpression_iff
    · exact (hrefuses.message_eq_iff .unknownFunction).trans Table.refuses_unknownFunction_iff
    · exact (hrefuses.message_eq_iff .tooFewArguments).trans Table.refuses_tooFewArguments_iff
    · exact (hrefuses.message_eq_iff .tooManyArguments).trans Table.refuses_tooManyArguments_iff

/-- Operations of one name, the first of which takes a chat and any number of users. -/
def shadowing : Table (List Bound) :=
  [⟨.collecting "Add" [⟨"ChatId", .single⟩, ⟨"UserId", .sequence⟩], .inspect .finished⟩,
   ⟨.fixed "ADD" [⟨"ChatId", .single⟩], .inspect .finished⟩]

/-- Of two operations of one name only the first is carried out, here with no user at all. -/
theorem shadowing_runs :
    (∀ operation ∈ shadowing, operation.signature.EndsInSequence) ∧
      (∃ values, shadowing.runs "aDD(oc_1)" = [(0, values)]) ∧
      (shadowing.runs "aDD(oc_1)").length ≤ 1 := by
  have hends : ∀ operation ∈ shadowing, operation.signature.EndsInSequence := by
    intro operation hmem hvariadic
    rcases List.mem_cons.mp hmem with rfl | hmem
    · exact ⟨[⟨"ChatId", .single⟩], ⟨"UserId", .sequence⟩, rfl, rfl⟩
    · rw [List.mem_singleton.mp hmem] at hvariadic
      cases hvariadic
  have hparse : Expression.parse "aDD(oc_1)" = .ok ⟨"add", ["oc_1"]⟩ := by decide +kernel
  have hfirst : shadowing.IsFirst "add" 0
      ⟨.collecting "Add" [⟨"ChatId", .single⟩, ⟨"UserId", .sequence⟩], .inspect .finished⟩ :=
    ⟨rfl, by decide +kernel, fun before hlt => absurd hlt (Nat.not_lt_zero before)⟩
  obtain ⟨hlength, hruns, -⟩ := call_reconciles_arity shadowing "aDD(oc_1)" hends
  exact ⟨hends, (hruns _ 0 _ hparse hfirst).1.mpr (.inr ⟨rfl, by decide⟩), hlength⟩

end ChatSteward.Command
