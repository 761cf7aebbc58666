import ChatSteward.Text.Quoted

/-!
# Signatures

What an operation accepts: its name, its parameters in order, and whether the last parameter
collects every argument that is left.

## Main definitions

* `Shape`, `Parameter`, `Signature` — the parts of a signature
* `Signature.required` — the least number of arguments
* `Signature.rendered` — a signature as a line of help
-/

namespace ChatSteward.Command

/-- Whether a parameter takes one value or a sequence of them. -/
inductive Shape where
  | single
  | sequence
deriving DecidableEq, Repr

/-- A parameter: what its values mean, and its shape. -/
structure Parameter where
  tag : String
  shape : Shape
deriving DecidableEq, Repr

/-- The name and the parameters of an operation. In a variadic signature the last parameter
collects the remaining arguments. -/
structure Signature where
  name : String
  parameters : List Parameter
  variadic : Bool
deriving DecidableEq, Repr

namespace Signature

/-- A signature with as many arguments as parameters. -/
def fixed (name : String) (parameters : List Parameter) : Signature := ⟨name, parameters, false⟩

/-- A signature whose last parameter collects the remaining arguments. -/
def collecting (name : String) (parameters : List Parameter) : Signature :=
  ⟨name, parameters, true⟩

/-- The least number of arguments; without a collecting parameter also the greatest. -/
def required (signature : Signature) : Nat :=
  if signature.variadic then signature.parameters.length - 1 else signature.parameters.length

/-! ## Help -/

/-- A parameter in a line of help; `collecting` marks the last one of a variadic signature. -/
def renderedParameter (collecting : Bool) (parameter : Parameter) : String :=
  match parameter.shape with
  | .single => parameter.tag
  | .sequence => parameter.tag ++ if collecting then "..." else "[]"

/-- The parameters in a line of help. -/
def renderedParameters (variadic : Bool) : List Parameter → List String
  | [] => []
  | [last] => [renderedParameter variadic last]
  | first :: rest => renderedParameter false first :: renderedParameters variadic rest

/-- The line of help of a signature. -/
def rendered (signature : Signature) : String :=
  signature.name ++ "(" ++
    String.intercalate ", " (renderedParameters signature.variadic signature.parameters) ++ ")"

end Signature

/-! ## Diagnostic text -/

/-- The diagnostic text of a shape. -/
def Shape.diagnostic : Shape → String
  | .single => "Single"
  | .sequence => "Sequence"

/-- The diagnostic text of a parameter. -/
def Parameter.diagnostic (parameter : Parameter) : String :=
  "ParamType \x7b tag: " ++ Text.quoted parameter.tag ++ ", shape: " ++
    parameter.shape.diagnostic ++ " \x7d"

/-- The diagnostic text of a signature. -/
def Signature.diagnostic (signature : Signature) : String :=
  "Signature \x7b name: " ++ Text.quoted signature.name ++ ", params: " ++
    Text.listed (signature.parameters.map Parameter.diagnostic) ++ ", variadic: " ++
    (if signature.variadic then "true" else "false") ++ " \x7d"

end ChatSteward.Command
