import StorageBroker.Net.Address
import StorageBroker.Net.Error

/-! # The network

The network as one process sees it, on a machine whose network devices may all be down. Then no
connection can be made; an address of four bytes can be listened on whatever it is, but of those
with groups only the one that stands for all. What the names of hosts stand for is the network's
own; a numeric host stands for itself. -/

set_option autoImplicit false

namespace StorageBroker

/-- The network: the addresses that others listen on, whether devices are up, and the addresses that
a name stands for, in the order in which they are tried; none if the name is unknown. -/
structure Network where
  taken : List SocketAddress
  isUp : Bool
  names : String → List (IpAddress × Nat)

namespace IpAddress

/-- An address of four bytes that is written with groups, as those bytes. -/
def unmapped : IpAddress → IpAddress
  | .v6 [0, 0, 0, 0, 0, 0xFFFF, a, b] => .v4 [a / 256, a % 256, b / 256, b % 256]
  | ip => ip

def isAny (ip : IpAddress) : Bool := ip = .v4 [0, 0, 0, 0] || ip = .v6 [0, 0, 0, 0, 0, 0, 0, 0]

def isMulticast : IpAddress → Bool
  | .v4 bytes => 224 ≤ bytes.headD 0 && bytes.headD 0 < 240
  | .v6 groups => 0xFF00 ≤ groups.headD 0

def isLoopback : IpAddress → Bool
  | .v4 bytes => bytes.head? = some 127
  | .v6 groups => groups = [0, 0, 0, 0, 0, 0, 0, 1]

end IpAddress

namespace Network

def isolated (taken : List SocketAddress) : Network := ⟨taken, false, fun _ => []⟩

def hosts (network : Network) (host : String) : Except IoError (List (IpAddress × Nat)) :=
  match IpAddress.ofHost host with
  | .ok found => .ok [found]
  | .error .unknownHost =>
    match network.names host with
    | [] => .error .unknownHost
    | found => .ok found
  | .error e => .error e

def locate (network : Network) (address : String) : Except IoError (List SocketAddress) := do
  let (host, found, port) ← SocketAddress.hostAndPort address
  let hosts ← match found with
    | some found => pure [found]
    | none => network.hosts host
  return hosts.map fun (ip, scope) => ⟨ip, scope, port⟩

/-- The first address that can be used; if none can, why the last one cannot. -/
def firstUsable (use : SocketAddress → Except IoError SocketAddress) :
    List SocketAddress → Except IoError SocketAddress
  | [] => .error .unknownHost
  | [a] => use a
  | a :: rest =>
    match use a with
    | .ok a => .ok a
    | .error _ => firstUsable use rest

def conflict (a b : SocketAddress) : Bool :=
  a.port = b.port && a.port ≠ 0 &&
    (a.ip.unmapped = b.ip.unmapped || a.ip.unmapped.isAny || b.ip.unmapped.isAny)

/-- Why an address cannot be listened on whatever others do. -/
def refusal? (network : Network) (a : SocketAddress) : Option IoError :=
  let ip := a.ip.unmapped
  let isReserved := 0 < a.port && a.port < 1024
  match ip with
  | .v4 _ =>
    if network.isUp && !ip.isAny && !ip.isLoopback then some .addressNotAvailable
    else if isReserved then some .permissionDenied
    else none
  | .v6 _ =>
    if ip.isMulticast then some .invalidArgument
    else if isReserved then some .permissionDenied
    else if ip.isAny then none
    else if ip.isLinkLocal && a.scope = 0 then some .invalidArgument
    else if ip.isLinkLocal && a.scope ≠ 1 then some .noDevice
    else if network.isUp && ip.isLoopback then none
    else some .addressNotAvailable

def listen (network : Network) (address : String) : Except IoError SocketAddress := do
  firstUsable (fun a =>
    match network.refusal? a with
    | some e => throw e
    | none => if network.taken.any (conflict a) then throw .addressInUse else return a)
    (← network.locate address)

def connect (network : Network) (address : String) : Except IoError SocketAddress := do
  firstUsable (fun a => do
    if network.isUp then return a
    match a.ip.unmapped with
    | .v4 _ => throw .networkUnreachable
    | ip =>
      if ip.isMulticast then throw .networkUnreachable
      else if ip.isLinkLocal && a.scope = 0 then throw .invalidArgument
      else throw .addressNotAvailable)
    (← network.locate address)

def resolve (network : Network) (hostname : String) (port : UInt16) : Except NetError String :=
  match network.hosts hostname with
  | .ok [] => .error (.unresolved hostname)
  | .ok ((ip, scope) :: _) => .ok (SocketAddress.text ⟨ip, scope, port.toNat⟩)
  | .error e => .error (.unresolved (hostname ++ ": " ++ e.text))

end Network

end StorageBroker
