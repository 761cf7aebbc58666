import ChatSteward.Text.Blank
import ChatSteward.Text.Letter
import ChatSteward.Text.Lowercase

/-!
# Command expressions

A command line is a bare name, or a name with arguments in one pair of parentheses. An argument
is empty, a word of letters, numerals, `_`, `-` and `.`, or one complete literal in double or
back quotes, which is kept with its quotes. Everything else is no expression.

The text between the parentheses is cut in one pass that knows literals, since a comma or a
parenthesis inside a literal is text; whether a piece is an argument is judged afterwards.

## Main definitions

* `Refusal` — why a command line is not carried out, and the reply it gets
* `Expression` — a name in lower case and the arguments in order
* `Expression.parse` — the expression of a command line
-/

namespace ChatSteward.Command

/-- Why a command line is not carried out. -/
inductive Refusal where
  | unknownExpression
  | unknownFunction
  | tooFewArguments
  | tooManyArguments
deriving DecidableEq, Repr

/-- The reply to a refused command line. -/
def Refusal.message : Refusal → String
  | .unknownExpression => "unknown expression"
  | .unknownFunction => "unknown function"
  | .tooFewArguments => "too few arguments"
  | .tooManyArguments => "too many arguments"

/-- A name in lower case with its arguments, trimmed and in order. -/
structure Expression where
  name : String
  arguments : List String
deriving DecidableEq, Repr

namespace Expression

/-- Whether a character opens and closes literals. -/
def isQuote (c : Char) : Bool := c == '"' || c.toNat == 0x60

/-- A letter or an underscore, then letters, numerals and underscores. -/
def isIdentifier : List Char → Bool
  | [] => false
  | c :: rest => (Text.isLetter c || c == '_') && rest.all Text.isWordChar

/-- One or more letters, numerals and underscores. -/
def isWord (text : List Char) : Bool :=
  !text.isEmpty && text.all Text.isWordChar

/-- A character of an argument without quotes. -/
def isPlainChar (c : Char) : Bool :=
  Text.isAlphanumeric c || c == '_' || c == '-' || c == '.'

/-- Whether the literal that is open closes at the last character. In double quotes a backslash
takes the next character with it. -/
def closesAtEnd (quote : Char) : List Char → Bool
  | [] => false
  | c :: rest =>
    if c = '\\' ∧ quote = '"' then
      match rest with
      | [] => false
      | _ :: rest => closesAtEnd quote rest
    else if c = quote then rest.isEmpty
    else closesAtEnd quote rest

/-- Whether a text is exactly one literal. -/
def isLiteral : List Char → Bool
  | [] => false
  | quote :: rest => isQuote quote && closesAtEnd quote rest

/-- Whether a trimmed text is an argument. -/
def isArgument (text : List Char) : Bool :=
  text.isEmpty || text.all isPlainChar || isLiteral text

/-- Puts a character in front of the first piece. -/
def extend (c : Char) : List (List Char) → List (List Char)
  | [] => [[c]]
  | piece :: pieces => (c :: piece) :: pieces

/-- The pieces of a text between the commas that stand in no literal; `literal` is the quote of
the literal that is open at its start. None if a literal stays open or a parenthesis stands in
no literal. -/
def cut : (literal : Option Char) → List Char → Option (List (List Char))
  | none, [] => some [[]]
  | some _, [] => none
  | some quote, c :: rest =>
    -- back quotes know no escapes, so a backslash is text between them
    if c = '\\' ∧ quote = '"' then
      match rest with
      | [] => none
      | next :: rest => (cut (some quote) rest).map fun pieces => extend c (extend next pieces)
    else if c = quote then (cut none rest).map (extend c)
    else (cut (some quote) rest).map (extend c)
  | none, c :: rest =>
    if isQuote c then (cut (some c) rest).map (extend c)
    else if c = ',' then (cut none rest).map ([] :: ·)
    else if c = '(' ∨ c = ')' then none
    else (cut none rest).map (extend c)

/-- The arguments between two parentheses. -/
def argumentsIn (inner : List Char) : Option (List (List Char)) :=
  if (Text.trim inner).isEmpty then some []
  else
    match cut none inner with
    | none => none
    | some pieces =>
      let arguments := pieces.map Text.trim
      if arguments.all isArgument then some arguments else none

/-- The text without the closing parenthesis it ends with. -/
def dropClosing? (text : List Char) : Option (List Char) :=
  if text.getLast? = some ')' then some text.dropLast else none

/-- The expression of a name and the characters of its arguments. -/
def ofChars (name : List Char) (arguments : List (List Char)) : Expression :=
  ⟨String.ofList (Text.lowercase name), arguments.map String.ofList⟩

/-- The expression of a trimmed line. -/
def ofTrimmed (line : List Char) : Except Refusal Expression :=
  match line.dropWhile (· ≠ '(') with
  | [] => if isIdentifier line then .ok (ofChars line []) else .error .unknownExpression
  | _ :: afterOpening =>
    -- blanks may stand between the name and the parenthesis, but not within the name
    let name := Text.trimEnd (line.takeWhile (· ≠ '('))
    if isWord name then
      match (dropClosing? afterOpening).bind argumentsIn with
      | some arguments => .ok (ofChars name arguments)
      | none => .error .unknownExpression
    else .error .unknownExpression

/-- The expression of a command line. -/
def parse (line : String) : Except Refusal Expression :=
  ofTrimmed (Text.trim line.toList)

end Expression

end ChatSteward.Command
