import ChatSteward.Command.Binding

/-!
# Operation tables

The operations of a command object in the order in which help lists them. A name finds the first
operation with the same name up to the case of ASCII letters. A command line is prepared by
parsing it, finding its operation and binding its arguments; whatever fails on the way is the
reply instead.

## Main definitions

* `Operation`, `Table` — operations and their table
* `Table.find?`, `Table.resolve` — the operation of a name
* `Table.help` — the lines of help
* `Table.prepare` — a command line as a prepared call
* `Table.call` — the reply to a command line
-/

namespace ChatSteward.Command

/-- An operation: what it accepts, and what it does with the bound values. -/
structure Operation (R : Type) where
  signature : Signature
  plan : Plan R

/-- The operations of a command object, in order. -/
abbrev Table (R : Type) := List (Operation R)

/-- A call that only waits to be carried out. -/
structure Prepared (R : Type) where
  operation : Operation R
  arguments : List Bound

/-- The result of a prepared call. -/
def Prepared.run {R : Type} (call : Prepared R) : R :=
  call.operation.plan.run call.arguments

/-- Equality of names up to the case of ASCII letters. -/
def sameName (first second : String) : Bool :=
  first.toList.map Char.toLower == second.toList.map Char.toLower

namespace Table

variable {R : Type}

/-- The first operation of a name. -/
def find? (table : Table R) (name : String) : Option (Operation R) :=
  List.find? (fun operation => sameName operation.signature.name name) table

/-- Whether there is an operation of a name. -/
def contains (table : Table R) (name : String) : Bool :=
  (table.find? name).isSome

/-- The first operation of a name, or a refusal. -/
def resolve (table : Table R) (name : String) : Except Refusal (Operation R) :=
  match table.find? name with
  | some operation => .ok operation
  | none => .error .unknownFunction

/-- The names, in order. -/
def names (table : Table R) : List String :=
  table.map (·.signature.name)

/-- One line of help for each operation, in order. -/
def help (table : Table R) : String :=
  String.intercalate "\n" (table.map (·.signature.rendered))

/-- A command line as a prepared call. -/
def prepare (table : Table R) (line : String) : Except Refusal (Prepared R) := do
  let expression ← Expression.parse line
  let operation ← table.resolve expression.name
  let arguments ← bind expression.arguments operation.signature
  return ⟨operation, arguments⟩

/-- The outcome of a command line; `reply` makes one of the text of a refusal. -/
def call (table : Table R) (reply : String → R) (line : String) : R :=
  match table.prepare line with
  | .ok prepared => prepared.run
  | .error refusal => reply refusal.message

end Table

/-! ## Diagnostic text -/

/-- The diagnostic text of an operation. -/
def Operation.diagnostic {R : Type} (operation : Operation R) : String :=
  "Operation \x7b signature: " ++ operation.signature.diagnostic ++ ", .. \x7d"

/-- The diagnostic text of a prepared call. -/
def Prepared.diagnostic {R : Type} (call : Prepared R) : String :=
  "Prepared \x7b operation: " ++ Text.quoted call.operation.signature.name ++
    ", arguments: Arguments \x7b values: " ++
    Text.listed (call.arguments.map Bound.diagnostic) ++ " \x7d \x7d"

end ChatSteward.Command
