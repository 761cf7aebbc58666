import ChatSteward.Http.Host

/-!
# Web addresses

Addresses of the schemes `http` and `https` in their normal form: the host in normal form, a port
only where it is not the default, no dot segments in the path, and whatever an address cannot
hold percent-encoded. User names are left out.

## Main definitions

* `Url` — the parts of an address
* `Url.parse?` — the address of a text
* `Url.text`, `Url.target` — the whole address, and the part of it that a request states
* `Url.isRequestable` — whether a request can be sent to an address
-/

namespace ChatSteward.Http

/-- The parts of an address: the scheme and host as text, and what follows the host. -/
structure Url where
  scheme : String
  host : String
  port : Option Nat
  path : String
  query : Option String
  fragment : Option String
deriving DecidableEq, Repr

namespace Url

/-! ## Ports -/

/-- The default port of a scheme. -/
def defaultPort (scheme : String) : Nat := if scheme = "https" then 443 else 80

/-- The port of a scheme in a text without the colon, if it is not the default one. -/
def port? (scheme : String) (text : List Char) : Option (Option Nat) :=
  if text.isEmpty then some none
  else
    match Net.readNatural 10 65536 text with
    | some (port, []) => some (if port = defaultPort scheme then none else some port)
    | _ => none

/-- A host and what follows its colon, which a bracketed host may hold itself. -/
def splitPort (text : List Char) : List Char × List Char :=
  let bracketed := if text.head? = some '[' then text.takeWhile (· ≠ ']') else []
  let rest := text.drop bracketed.length
  (bracketed ++ rest.takeWhile (· ≠ ':'), (rest.dropWhile (· ≠ ':')).drop 1)

/-! ## Paths -/

/-- Whether a path keeps an ASCII character. -/
def pathKeeps (c : Char) : Bool :=
  0x20 < c.toNat && c.toNat < 0x7F && c.toNat != 0x60 && !"\"#<>?\x7b\x7d".toList.contains c

/-- Whether a query keeps an ASCII character. -/
def queryKeeps (c : Char) : Bool :=
  0x20 < c.toNat && c.toNat < 0x7F && !"\"#<>'".toList.contains c

/-- Whether a fragment keeps an ASCII character. -/
def fragmentKeeps (c : Char) : Bool :=
  0x20 < c.toNat && c.toNat < 0x7F && c.toNat != 0x60 && !"\"<>".toList.contains c

/-- A text with encoded dots as dots. -/
def decodeDots : List Char → List Char
  | '%' :: '2' :: 'e' :: rest => '.' :: decodeDots rest
  | '%' :: '2' :: 'E' :: rest => '.' :: decodeDots rest
  | c :: rest => c :: decodeDots rest
  | [] => []

/-- A segment with encoded dots as dots. -/
def withDots (segment : String) : String := String.ofList (decodeDots segment.toList)

/-- Whether a segment names a drive, such as `C:` or `C|`. -/
def isDrive (segment : String) : Bool :=
  match segment.toList with
  | [letter, mark] => letter.isAlpha && (mark == ':' || mark == '|')
  | _ => false

/-- The segments, reversed, without the last one, which stays if it names a drive. -/
def dropSegment : List String → List String
  | [] => []
  | last :: before => if isDrive last then last :: before else before

/-- The segments of a path without dot segments; `kept` holds the segments before, reversed. -/
def resolveDots : (kept : List String) → List String → List String
  | kept, [] => kept.reverse
  | kept, segment :: rest =>
    let plain := withDots segment
    if plain = ".." then
      resolveDots (if rest.isEmpty then "" :: dropSegment kept else dropSegment kept) rest
    else if plain = "." then resolveDots (if rest.isEmpty then "" :: kept else kept) rest
    else resolveDots (segment :: kept) rest

/-- The normal form of a path, of which `text` holds what follows the first slash. -/
def normalPath (text : List Char) : String :=
  let segments := (Text.splitAt '/' (text.map fun c => if c = '\\' then '/' else c)).map
    fun segment => String.ofList (percentEncode pathKeeps segment)
  "/" ++ String.intercalate "/" (resolveDots [] segments)

/-! ## Whole addresses -/

/-- Whether a character ends the host. -/
def endsAuthority (c : Char) : Bool := c == '/' || c == '\\' || c == '?' || c == '#'

/-- The part of an address after the last `@` of its authority. -/
def dropUser (authority : List Char) : List Char :=
  (authority.reverse.takeWhile (· ≠ '@')).reverse

/-- The address of a scheme and a text without the slashes in front. -/
def ofRest? (scheme : String) (text : List Char) : Option Url := do
  let authority := dropUser (text.takeWhile (!endsAuthority ·))
  let rest := text.dropWhile (!endsAuthority ·)
  let beforeFragment := rest.takeWhile (· ≠ '#')
  let fragment := rest.dropWhile (· ≠ '#')
  let path := beforeFragment.takeWhile (· ≠ '?')
  let query := beforeFragment.dropWhile (· ≠ '?')
  let (name, portText) := splitPort authority
  let host ← Host.normal? name
  let port ← port? scheme portText
  return {
    scheme, host, port
    path := normalPath (path.drop 1)
    query :=
      if query.isEmpty then none
      else some (String.ofList (percentEncode queryKeeps (query.drop 1)))
    fragment :=
      if fragment.isEmpty then none
      else some (String.ofList (percentEncode fragmentKeeps (fragment.drop 1))) }

/-- The address of a text that starts with `http://` or `https://`. -/
def parse? (text : String) : Option Url :=
  let chars := text.toList.filter fun c => c ≠ '\t' ∧ c ≠ '\n' ∧ c ≠ '\r'
  let slashes (rest : List Char) := rest.dropWhile fun c => c == '/' || c == '\\'
  if "https:".toList.isPrefixOf chars then ofRest? "https" (slashes (chars.drop 6))
  else if "http:".toList.isPrefixOf chars then ofRest? "http" (slashes (chars.drop 5))
  else none

/-- The address with more pairs in its query. -/
def withQuery (url : Url) (pairs : List (String × String)) : Url :=
  if pairs.isEmpty then url
  else
    { url with
      query := some (match url.query with
        | none => formQuery pairs
        | some "" => formQuery pairs
        | some query => query ++ "&" ++ formQuery pairs) }

/-- The path and the query. -/
def target (url : Url) : String :=
  url.path ++ (url.query.map ("?" ++ ·)).getD ""

/-- The whole address. -/
def text (url : Url) : String :=
  url.scheme ++ "://" ++ url.host ++ (url.port.map (":" ++ Nat.repr ·)).getD "" ++ url.target ++
    (url.fragment.map ("#" ++ ·)).getD ""

/-! ## Requests -/

/-- The greatest length of an address to which a request can be sent. -/
def requestLimit : Nat := 65534

/-- Whether a request can state a character as a part of a host. -/
def isRequestHostChar (c : Char) : Bool := c.toNat != 0x60 && !"\"\x7b\x7d".toList.contains c

/-- Whether a request can be sent to an address. -/
def isRequestable (url : Url) : Bool :=
  url.host.toList.all isRequestHostChar && url.text.length ≤ requestLimit

end Url

end ChatSteward.Http
