import ChatSteward.Command.Expression
import ChatSteward.Command.Signature

/-!
# Binding arguments

Arguments are bound to the parameters of a signature by their number alone. An operation then
takes the bound values from the front, one after the other. Taking a value in another shape than
it has gives a substitute: the first value of a sequence, a list of the one single value, and an
empty value where nothing is left.

## Main definitions

* `Bound` — a value bound to a parameter
* `bind` — the values of the parameters of a signature
* `takeSingle`, `takeSequence` — the front value in one shape or the other
* `Plan` — what an operation takes before it starts to work
* `Plan.run` — the plan with the values filled in
-/

namespace ChatSteward.Command

/-- A value bound to a parameter. -/
inductive Bound where
  | single (value : String)
  | sequence (values : List String)
deriving DecidableEq, Repr

/-- The strings of a value. -/
def Bound.values : Bound → List String
  | .single value => [value]
  | .sequence values => values

/-- The value of a parameter that gets exactly one argument. -/
def Bound.ofArgument : Shape → String → Bound
  | .single, argument => .single argument
  | .sequence, argument => .sequence [argument]

/-- The values of the parameters of a signature, if the number of arguments fits. -/
def bind (arguments : List String) (signature : Signature) : Except Refusal (List Bound) :=
  let required := signature.required
  if arguments.length < required then .error .tooFewArguments
  else if signature.variadic = false ∧ required < arguments.length then .error .tooManyArguments
  else
    let leading :=
      (signature.parameters.take required).zipWith
        (fun parameter argument => Bound.ofArgument parameter.shape argument) arguments
    -- the collecting parameter gets a value even where no argument is left for it
    .ok (leading ++ if signature.variadic then [.sequence (arguments.drop required)] else [])

/-! ## Taking values -/

/-- The front value as a single string, and the values after it. -/
def takeSingle : List Bound → String × List Bound
  | .single value :: rest => (value, rest)
  | .sequence values :: rest => (values.headD "", rest)
  | [] => ("", [])

/-- The front value as a sequence, and the values after it. -/
def takeSequence : List Bound → List String × List Bound
  | .sequence values :: rest => (values, rest)
  | .single value :: rest => ([value], rest)
  | [] => ([], [])

/-- The values that an operation takes, in order, before it yields a result. -/
inductive Plan (R : Type) where
  | finished (result : R)
  | single (next : String → Plan R)
  | sequence (next : List String → Plan R)
  /-- Looks at the values that are left and takes none. -/
  | inspect (next : List Bound → Plan R)

/-- The result of a plan on bound values. -/
def Plan.run {R : Type} : Plan R → List Bound → R
  | .finished result, _ => result
  | .single next, values => (next (takeSingle values).1).run (takeSingle values).2
  | .sequence next, values => (next (takeSequence values).1).run (takeSequence values).2
  | .inspect next, values => (next values).run values

/-! ## Diagnostic text -/

/-- The diagnostic text of a bound value. -/
def Bound.diagnostic : Bound → String
  | .single value => "Single(" ++ Text.quoted value ++ ")"
  | .sequence values => "Sequence(" ++ Text.listed (values.map Text.quoted) ++ ")"

end ChatSteward.Command
