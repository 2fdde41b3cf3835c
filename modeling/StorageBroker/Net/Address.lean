import StorageBroker.IoError
import StorageBroker.Text.Decimal

/-! # Addresses

Numeric internet addresses: how they are read in their strict notation and in the loose one that
hosts may be given in, their shortest text, and the socket addresses that add a port. -/

set_option autoImplicit false

namespace StorageBroker

/-- A numeric address: four bytes, or eight groups of sixteen bits. -/
inductive IpAddress
  | v4 (bytes : List Nat)
  | v6 (groups : List Nat)
  deriving DecidableEq, Repr

namespace IpAddress

def splitAll (sep : Char) : List Char → List (List Char)
  | [] => [[]]
  | c :: rest =>
    match splitAll sep rest with
    | [] => [[c]]
    | first :: more => if c = sep then [] :: first :: more else (c :: first) :: more

/-- Reads one byte of an address: up to three digits without a leading zero. -/
def octet? (cs : List Char) : Option Nat :=
  if cs.length ≤ 3 ∧ (cs.length ≤ 1 ∨ cs.head? ≠ some '0') then
    (Text.digits? 10 cs).filter (· < 256)
  else none

def v4Bytes? (cs : List Char) : Option (List Nat) :=
  let parts := splitAll '.' cs
  if parts.length = 4 then parts.mapM octet? else none

/-- Reads one group of an address: up to four hexadecimal digits. -/
def group? (cs : List Char) : Option Nat :=
  if cs.length ≤ 4 then Text.digits? 16 cs else none

/-- Reads groups separated by colons; the last two may be written as four bytes. -/
def groups? (cs : List Char) : Option (List Nat) :=
  match cs with
  | [] => some []
  | _ =>
    let parts := splitAll ':' cs
    let last := parts.getLastD []
    if last.contains '.' then do
      let groups ← parts.dropLast.mapM group?
      match ← v4Bytes? last with
      | [a, b, c, d] => some (groups ++ [a * 256 + b, c * 256 + d])
      | _ => none
    else parts.mapM group?

def cutAtGap : List Char → Option (List Char × List Char)
  | ':' :: ':' :: rest => some ([], rest)
  | c :: rest => (cutAtGap rest).map fun cut => (c :: cut.1, cut.2)
  | [] => none

/-- Reads eight groups; a pair of colons stands for as many zero groups as are missing. -/
def v6Groups? (cs : List Char) : Option (List Nat) :=
  match cutAtGap cs with
  | none => (groups? cs).filter (·.length = 8)
  | some (before, after) => do
    let front ← groups? before
    let back ← groups? after
    if front.length + back.length < 8 ∧ !before.contains '.' then
      some (front ++ List.replicate (8 - front.length - back.length) 0 ++ back)
    else none

def ofText? (s : String) : Option IpAddress :=
  ((v4Bytes? s.toList).map .v4) <|> ((v6Groups? s.toList).map .v6)

def v4Text (bytes : List Nat) : String := ".".intercalate (bytes.map toString)

def groupsText (groups : List Nat) : String :=
  ":".intercalate (groups.map fun g => String.ofList (Nat.toDigits 16 g))

def zerosAtFront : List Nat → Nat
  | 0 :: rest => zerosAtFront rest + 1
  | _ => 0

/-- The start and length of the first longest run of zero groups. -/
def longestZeros : (place : Nat) → List Nat → Nat × Nat
  | _, [] => (0, 0)
  | place, g :: rest =>
    let here := zerosAtFront (g :: rest)
    let later := longestZeros (place + 1) rest
    if later.2 ≤ here then (place, here) else later

def text : IpAddress → String
  | .v4 bytes => v4Text bytes
  | .v6 groups =>
    match groups with
    | [0, 0, 0, 0, 0, 0xFFFF, a, b] => "::ffff:" ++ v4Text [a / 256, a % 256, b / 256, b % 256]
    | _ =>
      let (start, length) := longestZeros 0 groups
      if 1 < length then
        groupsText (groups.take start) ++ "::" ++ groupsText (groups.drop (start + length))
      else groupsText groups

end IpAddress

/-! ## Hosts -/

namespace IpAddress

/-- Reads one part of an address in the loose notation: decimal, octal or hexadecimal. -/
def loosePart? : List Char → Option Nat
  | '0' :: 'x' :: ds | '0' :: 'X' :: ds => Text.digits? 16 ds
  | '0' :: d :: ds => Text.digits? 8 (d :: ds)
  | ds => Text.digits? 10 ds

/-- Reads four bytes in the loose notation: one to four parts, of which the last fills the bytes
that are left. -/
def looseV4? (cs : List Char) : Option IpAddress := do
  let parts ← (splitAll '.' cs).mapM loosePart?
  let front := parts.dropLast
  let last := parts.getLastD 0
  let left := 4 - front.length
  let bytes := [last / 16777216, last / 65536 % 256, last / 256 % 256, last % 256]
  if 3 < front.length || front.any (255 < ·) || (bytes.take (4 - left)).any (0 < ·) ||
      last / 16777216 > 255 then none
  else some (.v4 (front ++ bytes.drop (4 - left)))

def isLinkLocal : IpAddress → Bool
  | .v4 _ => false
  | .v6 groups => 0xFE80 ≤ groups.headD 0 && groups.headD 0 ≤ 0xFEBF

/-- Reads a scope: the number of a network device, or where links matter its name. -/
def scope? (ip : IpAddress) (cs : List Char) : Option Nat :=
  if ip.isLinkLocal && cs = ['l', 'o'] then some 1
  else (Text.digits? 10 cs).filter (· < 4294967296)

/-- Reads a host: an address in the loose notation, or one with groups that may name its scope, or
the usual name of the machine itself. -/
def ofHost? (host : String) : Option (IpAddress × Nat) :=
  if host = "localhost" then some (.v4 [127, 0, 0, 1], 0)
  else
    let cs := host.toList
    ((looseV4? cs).map fun ip => (ip, 0)) <|> do
      let groups ← v6Groups? (cs.takeWhile (· ≠ '%'))
      match cs.dropWhile (· ≠ '%') with
      | [] => return (.v6 groups, 0)
      | _ :: scope => return (.v6 groups, ← scope? (.v6 groups) scope)

def ofHost (host : String) : Except IoError (IpAddress × Nat) :=
  if host.contains '\x00' then .error .nulInName
  else match ofHost? host with
    | none => .error .unknownHost
    | some found => .ok found

end IpAddress

/-! ## Socket addresses -/

structure SocketAddress where
  ip : IpAddress
  scope : Nat
  port : Nat
  deriving DecidableEq, Repr

namespace SocketAddress

/-- The text of a socket address; an address with colons stands in brackets. -/
def text (a : SocketAddress) : String :=
  match a.ip with
  | .v4 _ => a.ip.text ++ ":" ++ toString a.port
  | .v6 _ =>
    let scope := if a.scope = 0 then "" else "%" ++ toString a.scope
    "[" ++ a.ip.text ++ scope ++ "]:" ++ toString a.port

def cutAtLastColon (cs : List Char) : Option (List Char × List Char) :=
  match cs.reverse.dropWhile (· ≠ ':') with
  | [] => none
  | _ :: front => some (front.reverse, (cs.reverse.takeWhile (· ≠ ':')).reverse)

def bracketed? (cs : List Char) : Option (IpAddress × Nat) :=
  match cs with
  | '[' :: rest =>
    if rest.getLast? = some ']' then do
      let inner := rest.dropLast
      let groups ← IpAddress.v6Groups? (inner.takeWhile (· ≠ '%'))
      match inner.dropWhile (· ≠ '%') with
      | [] => return (.v6 groups, 0)
      | _ :: scope =>
        return (.v6 groups, ← (Text.digits? 10 scope).filter (· < 4294967296))
    else none
  | _ => none

/-- Reads `host:port`: the host, and its address if it stands in brackets. -/
def hostAndPort (s : String) : Except IoError (String × Option (IpAddress × Nat) × Nat) :=
  match cutAtLastColon s.toList with
  | none => .error .invalidSocketAddress
  | some (host, port) =>
    match Text.natBelow? 65536 (String.ofList port) with
    | none => .error .invalidPort
    | some n => .ok (String.ofList host, if port.head? = some '+' then none else bracketed? host, n)

/-- Reads `host:port` where the host is numeric. -/
def ofText (s : String) : Except IoError SocketAddress := do
  let (host, found, port) ← hostAndPort s
  let (ip, scope) ← match found with
    | some found => pure found
    | none => IpAddress.ofHost host
  return ⟨ip, scope, port⟩

end SocketAddress

end StorageBroker
