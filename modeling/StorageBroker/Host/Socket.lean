import Std.Async.DNS
import Std.Async.TCP
import StorageBroker.Net.Client
import StorageBroker.Net.Server

/-! # Sockets

Frames over real connections: a request to a server with its response, and the serving of
connections. -/

set_option autoImplicit false

namespace StorageBroker.Socket

open Std.Async
open Std.Async.TCP

def failure (e : IO.Error) : NetError := .io (.other (toString e))

def ofAddress (a : SocketAddress) : Std.Net.SocketAddress :=
  let port := UInt16.ofNat a.port
  match a.ip with
  | .v4 bytes => .v4 ⟨⟨Vector.ofFn fun i => UInt8.ofNat (bytes.getD i 0)⟩, port⟩
  | .v6 groups => .v6 ⟨⟨Vector.ofFn fun i => UInt16.ofNat (groups.getD i 0)⟩, port⟩

def ofFound (port : UInt16) : Std.Net.IPAddr → Std.Net.SocketAddress
  | .v4 ip => .v4 ⟨ip, port⟩
  | .v6 ip => .v6 ⟨ip, port⟩

/-- The socket address of a text; a host that is not numeric is looked up. -/
def locate (address : String) : Async (Except NetError Std.Net.SocketAddress) := do
  match SocketAddress.ofText address, SocketAddress.hostAndPort address with
  | .ok a, _ => return .ok (ofAddress a)
  | _, .error e => return .error (.io e)
  | _, .ok (host, _, port) =>
    match (← DNS.getAddrInfo host (toString port)).toList with
    | [] => return .error (.io .unknownHost)
    | ip :: _ => return .ok (ofFound (UInt16.ofNat port) ip)

/-- The socket address of a host, as text. -/
def resolve (hostname : String) (port : UInt16) : Async (Except NetError String) := do
  match (Network.isolated []).resolve hostname port with
  | .ok address => return .ok address
  | .error e =>
    try
      match (← DNS.getAddrInfo hostname (toString port)).toList with
      | [] => return .error e
      | ip :: _ => return .ok (toString (ofFound port ip))
    catch _ => return .error e

/-- Reads one frame from a connection; `unread` is what was received before and not yet read. -/
partial def readFrame (client : Socket.Client) (unread : List UInt8) :
    Async (Except NetError (Option (List UInt8 × List UInt8))) := do
  let more : Async (Except NetError (Option (List UInt8 × List UInt8))) := do
    match ← client.recv? 65536 with
    | none => return Frame.read unread
    | some bytes => readFrame client (unread ++ bytes.toList)
  match Frame.read unread with
  | .ok none => more
  | .error (.io .earlyEof) => more
  | done => return done

def send (client : Socket.Client) (bytes : List UInt8) : Async Unit :=
  client.send ⟨bytes.toArray⟩

def ask (server : String) (request : Request) : Async (Except NetError Response) := do
  try
    match Frame.writeMessage request, ← locate server with
    | .error e, _ => return .error e
    | _, .error e => return .error e
    | .ok frame, .ok address =>
      let client ← Socket.Client.mk
      client.connect address
      send client frame
      match ← readFrame client [] with
      | .error e => return .error e
      | .ok none => return .error .closed
      | .ok (some (payload, _)) =>
        return (Wire.ofPayload? (α := Response) payload).mapError NetError.ofWire
  catch e => return .error (failure e)

partial def serve (handle : Request → Async Response) (client : Socket.Client)
    (unread : List UInt8) : Async Unit := do
  match ← readFrame client unread with
  | .ok (some (payload, rest)) =>
    let response ← match Server.received payload with
      | .error refusal => pure refusal
      | .ok request => handle request
    match Frame.writeMessage response with
    | .error _ => return ()
    | .ok frame =>
      send client frame
      serve handle client rest
  | _ => return ()

def listen (address : String) : IO (Except IoError Socket.Server) := do
  match SocketAddress.ofText address with
  | .error e => return .error e
  | .ok a =>
    try
      let server ← Socket.Server.mk
      server.bind (ofAddress a)
      server.listen 1024
      return .ok server
    catch
      | .resourceBusy .. => return .error .addressInUse
      | e => return .error (.other (toString e))

/-- Accepts connections and serves each of them beside the others. -/
partial def acceptAll (server : Socket.Server) (handle : Request → Async Response) :
    Async Unit := do
  let client ← server.accept
  background (serve handle client [])
  acceptAll server handle

end StorageBroker.Socket
