import ChatSteward.Text.Quoted

/-!
# Internet addresses

Addresses of the two internet protocols and socket addresses, which add a port. A port may be
written with leading zeros and an octet may not. The groups of a long address may be cut short
by one `::`, which stands for at least one group of zeros, and its last two groups may be
written as a short address.

## Main definitions

* `Ipv4`, `Ipv6`, `SocketAddress` — the addresses
* `SocketAddress.parse?` — the address of a text
* `SocketAddress.text` — the canonical text of an address
-/

namespace ChatSteward.Net

/-- An address of four octets. -/
structure Ipv4 where
  first : Nat
  second : Nat
  third : Nat
  fourth : Nat
deriving DecidableEq, Repr

/-- An address of eight groups of sixteen bits. -/
structure Ipv6 where
  groups : List Nat
deriving DecidableEq, Repr

/-- An address with a port; the long form may name a scope. -/
inductive SocketAddress where
  | v4 (address : Ipv4) (port : Nat)
  | v6 (address : Ipv6) (scope : Nat) (port : Nat)
deriving DecidableEq, Repr

/-! ## Reading -/

/-- The value of a digit in a base of at most sixteen. -/
def digitValue? (base : Nat) (c : Char) : Option Nat :=
  let value? :=
    if c.isDigit then some (c.toNat - '0'.toNat)
    else if 'a' ≤ c ∧ c ≤ 'f' then some (c.toNat - 'a'.toNat + 10)
    else if 'A' ≤ c ∧ c ≤ 'F' then some (c.toNat - 'A'.toNat + 10)
    else none
  value?.filter (· < base)

/-- The number written in a base by all digits at the front, if it is below a limit. -/
def readNatural (base limit : Nat) (text : List Char) : Option (Nat × List Char) :=
  let digits := text.takeWhile fun c => (digitValue? base c).isSome
  let value := digits.foldl (fun n c => n * base + (digitValue? base c).getD 0) 0
  if digits.isEmpty ∨ limit ≤ value then none
  else some (value, text.dropWhile fun c => (digitValue? base c).isSome)

/-- How many digits of a base stand at the front. -/
def digitCount (base : Nat) (text : List Char) : Nat :=
  (text.takeWhile fun c => (digitValue? base c).isSome).length

/-- What follows an expected character. -/
def expect (c : Char) : List Char → Option (List Char)
  | [] => none
  | d :: rest => if c = d then some rest else none

/-- An octet: up to three digits without a leading zero. -/
def readOctet (text : List Char) : Option (Nat × List Char) :=
  let count := digitCount 10 text
  if 3 < count ∨ (text.head? = some '0' ∧ 1 < count) then none else readNatural 10 256 text

/-- A short address. -/
def readIpv4 (text : List Char) : Option (Ipv4 × List Char) := do
  let (first, text) ← readOctet text
  let (second, text) ← readOctet (← expect '.' text)
  let (third, text) ← readOctet (← expect '.' text)
  let (fourth, text) ← readOctet (← expect '.' text)
  return (⟨first, second, third, fourth⟩, text)

/-- A group: up to four hexadecimal digits. -/
def readGroup (text : List Char) : Option (Nat × List Char) :=
  if 4 < digitCount 16 text then none else readNatural 16 65536 text

/-- What follows the colon before a group that is not the first. -/
def separator (isFirst : Bool) (text : List Char) : Option (List Char) :=
  if isFirst then some text else expect ':' text

/-- As many groups as there are, at most `limit`, whether they end in a short address, and the
text after them. -/
def readGroups : (limit : Nat) → (isFirst : Bool) → List Char → List Nat × Bool × List Char
  | 0, _, text => ([], false, text)
  | limit + 1, isFirst, text =>
    match (if limit = 0 then none else (separator isFirst text).bind readIpv4) with
    | some (short, rest) =>
      ([short.first * 256 + short.second, short.third * 256 + short.fourth], true, rest)
    | none =>
      match (separator isFirst text).bind readGroup with
      | none => ([], false, text)
      | some (group, rest) =>
        let (groups, short, rest) := readGroups limit false rest
        (group :: groups, short, rest)

/-- A long address. -/
def readIpv6 (text : List Char) : Option (Ipv6 × List Char) :=
  let (head, short, rest) := readGroups 8 true text
  if head.length = 8 then some (⟨head⟩, rest)
  else if short then none
  else do
    let rest ← expect ':' (← expect ':' rest)
    let (tail, _, rest) := readGroups (7 - head.length) true rest
    return (⟨head ++ List.replicate (8 - head.length - tail.length) 0 ++ tail⟩, rest)

/-- A colon and a port. -/
def readPort (text : List Char) : Option (Nat × List Char) := do
  readNatural 10 65536 (← expect ':' text)

/-- A scope, which is zero if there is none. -/
def readScope (text : List Char) : Nat × List Char :=
  match (expect '%' text).bind (readNatural 10 UInt32.size) with
  | some scope => scope
  | none => (0, text)

/-- A short address with a port. -/
def readShortSocket (text : List Char) : Option (SocketAddress × List Char) := do
  let (address, text) ← readIpv4 text
  let (port, text) ← readPort text
  return (.v4 address port, text)

/-- A long address in brackets with a port. -/
def readLongSocket (text : List Char) : Option (SocketAddress × List Char) := do
  let (address, text) ← readIpv6 (← expect '[' text)
  let (scope, text) := readScope text
  let (port, text) ← readPort (← expect ']' text)
  return (.v6 address scope port, text)

/-- The value of a reader that reads to the end. -/
def wholly {α : Type} : Option (α × List Char) → Option α
  | some (value, []) => some value
  | _ => none

/-- The socket address of a text. -/
def SocketAddress.parse? (text : String) : Option SocketAddress :=
  match readShortSocket text.toList with
  | some front => wholly (some front)
  | none => wholly (readLongSocket text.toList)

/-! ## Writing -/

/-- The text of a short address. -/
def Ipv4.text (address : Ipv4) : String :=
  String.intercalate "." ([address.first, address.second, address.third, address.fourth].map
    Nat.repr)

/-- Groups with colons between them. -/
def groupsText (groups : List Nat) : String :=
  String.intercalate ":" (groups.map fun n => String.ofList (Text.hexDigits n))

/-- The length of the run of zeros at the front. -/
def zeroRun (groups : List Nat) : Nat := (groups.takeWhile (· = 0)).length

/-- The first of the longest runs of zeros: its place and its length. -/
def longestZeroRun : (place : Nat) → List Nat → Nat × Nat
  | place, [] => (place, 0)
  | place, group :: rest =>
    let here := zeroRun (group :: rest)
    let later := longestZeroRun (place + 1) rest
    if later.2 ≤ here then (place, here) else later

/-- The text of groups: the first of the longest runs of two or more zeros is cut short. -/
def Ipv6.compressed (address : Ipv6) : String :=
  let (place, length) := longestZeroRun 0 address.groups
  if 1 < length then
    groupsText (address.groups.take place) ++ "::" ++
      groupsText (address.groups.drop (place + length))
  else groupsText address.groups

/-- The text of a long address; one that stands for a short address shows it. -/
def Ipv6.text (address : Ipv6) : String :=
  match address.groups with
  | [0, 0, 0, 0, 0, 0xFFFF, high, low] =>
    "::ffff:" ++ (Ipv4.mk (high / 256) (high % 256) (low / 256) (low % 256)).text
  | _ => address.compressed

/-- The canonical text of a socket address. -/
def SocketAddress.text : SocketAddress → String
  | .v4 address port => address.text ++ ":" ++ Nat.repr port
  | .v6 address scope port =>
    "[" ++ address.text ++ (if scope = 0 then "" else "%" ++ Nat.repr scope) ++ "]:" ++
      Nat.repr port

end ChatSteward.Net
