import ChatSteward.Proofs.Command.Arity

/-!
# How operations take their arguments

An operation takes the bound values from the front, in the shapes in which it wants them, and never
looks at the signature that it is listed with. If a value has another shape, or none is left, it
gets a substitute. A plan suits the parameters of a signature if it takes one value for each of them
in its shape. Such a plan takes the values of the signature just as they were bound and leaves none
of them, so substitutes are never asked for.

## Main definitions

* `Mismatch`, `mismatch?` — why a value is not there in the shape in which it is taken
* `Taking`, `Plan.takings`, `Plan.left` — what a plan takes of some values, and what it leaves
* `Plan.checked` — a plan that stops at the first mismatch
* `Plan.Suits` — whether a plan takes what some parameters stand for

## Main results

* `Plan.left_eq_drop` — each taking takes one value
* `Plan.checked_eq_ok` — without a mismatch a plan does not stop
* `Plan.Suits.takings_eq` — a plan that suits takes the values as they were bound
* `Plan.Suits.takes_arguments` — what it takes are the arguments
-/

namespace ChatSteward.Command

/-! ## Takings -/

/-- Why a value is not there in the shape in which it is taken. -/
inductive Mismatch where
  | singleFromSequence
  | singleFromNothing
  | sequenceFromSingle
  | sequenceFromNothing
deriving DecidableEq, Repr

/-- What is wrong with the front value for an operation that takes it in a shape. -/
def mismatch? : Shape → Option Bound → Option Mismatch
  | .single, some (.single _) => none
  | .single, some (.sequence _) => some .singleFromSequence
  | .single, none => some .singleFromNothing
  | .sequence, some (.sequence _) => none
  | .sequence, some (.single _) => some .sequenceFromSingle
  | .sequence, none => some .sequenceFromNothing

/-- One value that is taken: the shape in which it is wanted, the value that is in front, if one is
left, and the strings that the operation gets. -/
structure Taking where
  shape : Shape
  front : Option Bound
  taken : List String
deriving DecidableEq, Repr

/-- A value that is taken as it was bound. -/
def Taking.ofBound : Bound → Taking
  | .single argument => ⟨.single, some (.single argument), [argument]⟩
  | .sequence arguments => ⟨.sequence, some (.sequence arguments), arguments⟩

@[simp] theorem Taking.mismatch?_ofBound (value : Bound) :
    mismatch? (Taking.ofBound value).shape (Taking.ofBound value).front = none := by
  cases value <;> rfl

@[simp] theorem Taking.taken_ofBound (value : Bound) :
    (Taking.ofBound value).taken = value.values := by
  cases value <;> rfl

@[simp] theorem takeSingle_rest (values : List Bound) : (takeSingle values).2 = values.drop 1 := by
  rcases values with _ | ⟨_ | _, rest⟩ <;> rfl

@[simp] theorem takeSequence_rest (values : List Bound) :
    (takeSequence values).2 = values.drop 1 := by
  rcases values with _ | ⟨_ | _, rest⟩ <;> rfl

namespace Plan

variable {R : Type}

/-- What a plan takes of some values, in order. -/
def takings : Plan R → List Bound → List Taking
  | .finished _, _ => []
  | .single next, values =>
    ⟨.single, values.head?, [(takeSingle values).1]⟩ ::
      (next (takeSingle values).1).takings (takeSingle values).2
  | .sequence next, values =>
    ⟨.sequence, values.head?, (takeSequence values).1⟩ ::
      (next (takeSequence values).1).takings (takeSequence values).2
  | .inspect next, values => (next values).takings values

/-- What is left of some values when a plan yields its result. -/
def left : Plan R → List Bound → List Bound
  | .finished _, values => values
  | .single next, values => (next (takeSingle values).1).left (takeSingle values).2
  | .sequence next, values => (next (takeSequence values).1).left (takeSequence values).2
  | .inspect next, values => (next values).left values

/-- The result of a plan that stops at the first mismatch. -/
def checked : Plan R → List Bound → Except Mismatch R
  | .finished result, _ => .ok result
  | .single next, values =>
    match mismatch? .single values.head? with
    | some mismatch => .error mismatch
    | none => (next (takeSingle values).1).checked (takeSingle values).2
  | .sequence next, values =>
    match mismatch? .sequence values.head? with
    | some mismatch => .error mismatch
    | none => (next (takeSequence values).1).checked (takeSequence values).2
  | .inspect next, values => (next values).checked values

/-- Each taking takes one value, as long as there are any. -/
theorem left_eq_drop (plan : Plan R) (values : List Bound) :
    plan.left values = values.drop (plan.takings values).length := by
  induction plan generalizing values with
  | finished => rfl
  | single next ih =>
    rw [left, takings, ih, List.length_cons, takeSingle_rest, List.drop_drop, Nat.add_comm]
  | sequence next ih =>
    rw [left, takings, ih, List.length_cons, takeSequence_rest, List.drop_drop, Nat.add_comm]
  | inspect next ih => exact ih values values

/-- Without a mismatch a plan does not stop. -/
theorem checked_eq_ok (plan : Plan R) {values : List Bound}
    (hmatch : ∀ taking ∈ plan.takings values, mismatch? taking.shape taking.front = none) :
    plan.checked values = .ok (plan.run values) := by
  induction plan generalizing values with
  | finished => rfl
  | single next ih =>
    obtain ⟨hfront, hrest⟩ := List.forall_mem_cons.mp hmatch
    simp only [checked, hfront]
    exact ih _ hrest
  | sequence next ih =>
    obtain ⟨hfront, hrest⟩ := List.forall_mem_cons.mp hmatch
    simp only [checked, hfront]
    exact ih _ hrest
  | inspect next ih => exact ih values hmatch

/-! ## Plans and parameters -/

/-- Whether a plan takes one value for each of some parameters, in its shape and in order. -/
inductive Suits : Plan R → List Parameter → Prop where
  | finished (result : R) : Suits (.finished result) []
  | single {next : String → Plan R} {parameter : Parameter} {rest : List Parameter}
      (hshape : parameter.shape = .single) (hnext : ∀ argument, Suits (next argument) rest) :
      Suits (.single next) (parameter :: rest)
  | sequence {next : List String → Plan R} {parameter : Parameter} {rest : List Parameter}
      (hshape : parameter.shape = .sequence) (hnext : ∀ arguments, Suits (next arguments) rest) :
      Suits (.sequence next) (parameter :: rest)
  | inspect {next : List Bound → Plan R} {parameters : List Parameter}
      (hnext : ∀ values, Suits (next values) parameters) : Suits (.inspect next) parameters

/-- A plan that suits some parameters takes their values as they were bound. -/
theorem Suits.takings_eq {plan : Plan R} {parameters : List Parameter} {values : List Bound}
    (hsuits : plan.Suits parameters) (hfits : List.Forall₂ Bound.Fits parameters values) :
    plan.takings values = values.map Taking.ofBound := by
  induction hsuits generalizing values with
  | finished =>
    cases hfits
    rfl
  | single hshape _ ih =>
    obtain ⟨value, values, hvalue, hrest, rfl⟩ := List.forall₂_cons_left_iff.mp hfits
    -- the parameter is single, so the front value is
    rw [Bound.Fits, hshape] at hvalue
    obtain ⟨argument, rfl⟩ := hvalue
    exact congrArg (List.cons _) (ih argument hrest)
  | sequence hshape _ ih =>
    obtain ⟨value, values, hvalue, hrest, rfl⟩ := List.forall₂_cons_left_iff.mp hfits
    rw [Bound.Fits, hshape] at hvalue
    obtain ⟨arguments, rfl⟩ := hvalue
    exact congrArg (List.cons _) (ih arguments hrest)
  | inspect _ ih => exact ih values hfits

/-- A plan that suits a signature takes the arguments that the values carry to it, without any
mismatch, and leaves nothing. -/
theorem Suits.takes_arguments {plan : Plan R} {signature : Signature} {arguments : List String}
    {values : List Bound} (hsuits : plan.Suits signature.parameters)
    (hcarries : signature.Carries arguments values) :
    (∀ taking ∈ plan.takings values, mismatch? taking.shape taking.front = none) ∧
      plan.left values = [] ∧ (plan.takings values).flatMap Taking.taken = arguments := by
  rw [left_eq_drop, hsuits.takings_eq hcarries.fits]
  refine ⟨?_, ?_, ?_⟩
  · exact List.forall_mem_map.mpr fun value _ => Taking.mismatch?_ofBound value
  · rw [List.length_map, List.drop_length]
  · rw [← hcarries.flat, List.flatMap_map]
    exact List.flatMap_congr fun value _ => Taking.taken_ofBound value

end Plan

end ChatSteward.Command
