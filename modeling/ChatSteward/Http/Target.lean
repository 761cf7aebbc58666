/-!
# Targets of requests

A request states as its target a path with a query and a fragment, a whole address, the name of a
host alone, or a star for the server itself.

## Main definitions

* `pathOfTarget` — the path of a target
-/

namespace ChatSteward.Http

/-- Whether a character begins a query or a fragment. -/
def endsPath (c : Char) : Bool := c == '?' || c == '#'

/-- Whether the name of a scheme may hold a character. -/
def isSchemeChar (c : Char) : Bool := c.isAlphanum || c == '+' || c == '-' || c == '.'

/-- What follows the scheme of a whole address. -/
def afterScheme? (target : List Char) : Option (List Char) :=
  match target.dropWhile isSchemeChar with
  | ':' :: '/' :: '/' :: rest => some rest
  | _ => none

/-- The path of a whole address, given from its host on; the root, if there is none. -/
def pathAfterHost (rest : List Char) : List Char :=
  let path := (rest.dropWhile fun c => c != '/' && !endsPath c).takeWhile (!endsPath ·)
  if path.isEmpty then ['/'] else path

/-- The path of a target. A host alone has none. -/
def pathOfTarget (target : String) : String :=
  String.ofList <|
    match target.toList with
    | '/' :: rest => '/' :: rest.takeWhile (!endsPath ·)
    | ['*'] => ['*']
    | chars => ((afterScheme? chars).map pathAfterHost).getD []

end ChatSteward.Http
