import ChatSteward.Http.Encoding
import ChatSteward.Net.Address
import ChatSteward.Net.Domain

/-!
# Hosts of web addresses

A host is a long address in brackets, a short address, or a domain name. Its normal form has a
canonical number or the name in ASCII. A name that ends like a number has to be one.

## Main definitions

* `Host.normal?` — the normal form of a host
* `Host.endsInNumber`, `Host.numericValue?` — hosts that are numbers
-/

namespace ChatSteward.Http.Host

/-! ## Characters -/

/-- A text with its percent signs resolved, as bytes. -/
def percentDecode : List Char → List UInt8
  | '%' :: a :: b :: rest =>
    match Net.digitValue? 16 a, Net.digitValue? 16 b with
    | some high, some low => (high * 16 + low).toUInt8 :: percentDecode rest
    | _, _ => 0x25 :: percentDecode (a :: b :: rest)
  | c :: rest => Text.encodeUtf8 (String.singleton c) ++ percentDecode rest
  | [] => []

/-- Whether no host may hold an ASCII character. -/
def isForbiddenInHost (c : Char) : Bool :=
  c.toNat ≤ 0x20 || c.toNat == 0x7F || "#/:<>?@[\\]^|%".toList.contains c

/-! ## Numbers -/

/-- A part of a numeric host: decimal, octal after a zero, hexadecimal after `0x`. -/
def numericPart? (part : List Char) : Option Nat :=
  let ofDigits (base : Nat) (digits : List Char) : Option Nat :=
    if digits.all fun c => (Net.digitValue? base c).isSome then
      some (digits.foldl (fun n c => n * base + (Net.digitValue? base c).getD 0) 0)
    else none
  match part with
  | [] => none
  | '0' :: 'x' :: digits => ofDigits 16 digits
  | '0' :: d :: digits => ofDigits 8 (d :: digits)
  | digits => ofDigits 10 digits

/-- The value of the parts of a numeric host, of which the last fills the octets that are left. -/
def numericValue? : (left : Nat) → List Nat → Option Nat
  | _, [] => none
  | 0, _ :: _ => none
  | left + 1, [last] => if last < Nat.pow 256 (left + 1) then some last else none
  | left + 1, part :: next :: rest =>
    if part < 256 then (numericValue? left (next :: rest)).map (part * Nat.pow 256 left + ·)
    else none

/-- The short address of a number of 32 bits. -/
def ipv4OfNat (n : Nat) : Net.Ipv4 :=
  ⟨n / 256 / 256 / 256, n / 256 / 256 % 256, n / 256 % 256, n % 256⟩

/-- The parts of a host between its dots, without an empty one at the end. -/
def labels (host : List Char) : List (List Char) :=
  let parts := Text.splitAt '.' host
  if 1 < parts.length ∧ parts.getLast? = some [] then parts.dropLast else parts

/-- Whether the last part of a host makes it a number. -/
def endsInNumber (host : List Char) : Bool :=
  match (labels host).getLast? with
  | none => false
  | some last => (!last.isEmpty && last.all Char.isDigit) || (numericPart? last).isSome

/-! ## Normal form -/

/-- The normal form of a host that is not in brackets, with its percent signs resolved. -/
def normalName? (text : List Char) : Option String := do
  let name ← Net.Domain.toAscii? text
  if name.isEmpty || name.any isForbiddenInHost then none
  else if endsInNumber name then
    let value ← numericValue? 4 (← (labels name).mapM numericPart?)
    return (ipv4OfNat value).text
  else return String.ofList name

/-- The normal form of a host. -/
def normal? (text : List Char) : Option String :=
  match text with
  | '[' :: rest =>
    if rest.getLast? = some ']' then
      match Net.readIpv6 rest.dropLast with
      | some (address, []) => some ("[" ++ address.compressed ++ "]")
      | _ => none
    else none
  | _ => (Text.decodeUtf8? (percentDecode text)).bind fun decoded => normalName? decoded.toList

end ChatSteward.Http.Host
