import StorageBroker.Message.Form
import StorageBroker.Net.Network
import StorageBroker.Net.Frame

/-! # Clients

A client keeps at most one connection. A call that has its turn takes it away, or opens a new one,
and gives it back only after a whole response was read; so a response left unread by a failed or
abandoned call is never taken for the answer of a later one. -/

set_option autoImplicit false

namespace StorageBroker

def Response.outcome (r : Response) : Except NetError Reply :=
  if r.code = .success then .ok r.reply else .error (.remote r.code (r.message.getD ""))

/-- What a peer does with one request that it has read: the bytes that it sends, and whether it
closes the connection after them. -/
structure PeerMove where
  bytes : List UInt8
  closes : Bool
  deriving DecidableEq, Repr

/-- A connection as its client sees it: its number, the bytes sent by the peer and not yet read,
and whether the peer has closed it. -/
structure Channel where
  number : Nat
  unread : List UInt8
  closed : Bool
  deriving DecidableEq, Repr

/-- A connection once a request was written to it and the peer has made its move. A peer that has
closed it before makes none, and what it sent before is still there to be read. -/
def Channel.after (channel : Channel) (move : PeerMove) : Channel :=
  if channel.closed then channel
  else { channel with unread := channel.unread ++ move.bytes, closed := move.closes }

@[simp]
theorem Channel.after_number (channel : Channel) (move : PeerMove) :
    (channel.after move).number = channel.number := by
  unfold after
  split <;> rfl

/-- The points of a call, once it has its turn, at which it can be cut short. -/
inductive CallPoint
  | connecting
  | writing
  | reading
  deriving DecidableEq, Repr

/-- What cuts a call short: its caller walks away, before the turn of the call or at one of its
points, or the network fails at one of them. -/
inductive Interruption
  | early
  | abandoned (point : CallPoint)
  | broken (point : CallPoint) (e : IoError)
  deriving DecidableEq, Repr

/-- What a call gives its caller; nothing if the caller has walked away, and also if it has to,
because the rest of a response never comes. -/
abbrev CallResult : Type := Option (Except NetError Response)

def Interruption.resultAt? (cut : Option Interruption) (point : CallPoint) : Option CallResult :=
  match cut with
  | some (.abandoned p) => if p = point then some none else none
  | some (.broken p e) => if p = point then some (some (.error (.io e))) else none
  | some .early | none => none

/-- A client of one address, with the connection that it keeps. -/
structure Client where
  address : String
  kept : Option Channel
  deriving DecidableEq, Repr

namespace Client

def ofAddress (address : String) : Client := ⟨address, none⟩

/-- How a call went: its result, the client after it, how many connections the peer has accepted
by then, the connection that the call used, and that connection with the payload of the request
if the peer has read it. -/
structure CallReport where
  result : CallResult
  client : Client
  accepted : Nat
  connection : Option Nat
  received : Option (Nat × List UInt8)

/-- The connection that a call uses, and how many the peer has accepted by then; else how the call
ends. -/
def takeChannel (client : Client) (network : Network) (accepted : Nat)
    (cut : Option Interruption) : Except CallResult (Channel × Nat) :=
  match client.kept with
  | some channel => .ok (channel, accepted)
  | none =>
    match Interruption.resultAt? cut .connecting with
    | some result => .error result
    | none =>
      match network.connect client.address with
      | .error e => .error (some (.error (.io e)))
      | .ok _ => .ok (⟨accepted + 1, [], false⟩, accepted + 1)

/-- Reads the response to a request from a connection; nothing is read while a part of it is
missing on a connection that is still open. -/
def readResponse (channel : Channel) : Option (Except NetError (Response × Channel)) :=
  match Frame.read channel.unread with
  | .error (.io e) => if channel.closed then some (.error (.io e)) else none
  | .error e => some (.error e)
  | .ok none => if channel.closed then some (.error .closed) else none
  | .ok (some (payload, rest)) =>
    match Wire.ofPayload? (α := Response) payload with
    | .error e => some (.error (.ofWire e))
    | .ok response => some (.ok (response, { channel with unread := rest }))

/-- Sends a request over a connection and reads the response: the result, the connection if it can
be used again, and the payload if the peer has read it. -/
def exchange (channel : Channel) (request : Request) (move : PeerMove)
    (cut : Option Interruption) : CallResult × Option Channel × Option (List UInt8) :=
  match Frame.writeMessage request with
  | .error e => (some (.error e), none, none)
  | .ok _ =>
    match Interruption.resultAt? cut .writing with
    | some result => (result, none, none)
    | none =>
      let received := if channel.closed then none else some (Wire.encode request)
      match Interruption.resultAt? cut .reading with
      | some result => (result, none, received)
      | none =>
        match readResponse (channel.after move) with
        | none => (none, none, received)
        | some (.error e) => (some (.error e), none, received)
        | some (.ok (response, channel)) => (some (.ok response), some channel, received)

/-- One call: `move` is what the peer does when it has read the request, `cut` what cuts the call
short, if anything does. -/
def call (client : Client) (network : Network) (accepted : Nat) (request : Request)
    (move : PeerMove) (cut : Option Interruption) : CallReport :=
  if cut = some .early then ⟨none, client, accepted, none, none⟩
  else
    match takeChannel client network accepted cut with
    | .error result => ⟨result, { client with kept := none }, accepted, none, none⟩
    | .ok (channel, accepted) =>
      let (result, kept, received) := exchange channel request move cut
      ⟨result, { client with kept }, accepted, some channel.number,
        received.map fun payload => (channel.number, payload)⟩

end Client

/-! ## Collaborators reached by calls -/

def Reply.expectEmpty : Reply → Except NetError Unit
  | .empty => .ok ()
  | other => .error (.unexpectedReply (Form.form other))

/-- The answer of a controller that has deployed a storage. -/
def Reply.expectMountPath : Reply → Except NetError String
  | .mountPath path => .ok path
  | other => .error (.unexpectedReply (Form.form other))

/-- What a collaborator has to say in reply to a request: a controller that deploys says where, all
others say nothing. -/
def Request.read : Request → Reply → Except NetError String
  | .adhocDeploy .., reply => reply.expectMountPath
  | _, reply => reply.expectEmpty.map fun _ => ""

def Request.told (request : Request) (result : Except NetError Response) : Except NetError String :=
  (result.bind Response.outcome).bind request.read

end StorageBroker
