import StorageBroker.Message.Validity
import StorageBroker.Net.Frame

/-! # Servers

A server answers the frames of a connection one after the other. A payload that is no request, or
a malformed request, is answered without reaching the handler. -/

set_option autoImplicit false

namespace StorageBroker.Server

variable {σ : Type}

/-- A request that may reach the handler, or the refusal that a malformed one is answered with. -/
def checked (request : Request) : Except Response Request :=
  match request.complaint? with
  | some complaint => .error (.error .badArguments complaint.text)
  | none => .ok request

/-- The request of a payload, or the refusal that the payload is answered with. -/
def received (payload : List UInt8) : Except Response Request :=
  match Wire.ofPayload? (α := Request) payload with
  | .error e => .error (.error .badArguments (NetError.ofWire e).message)
  | .ok request => checked request

/-- Answers what was received; a refusal does not touch the state. -/
def answer (handle : σ → Request → Response × σ) (s : σ) :
    Except Response Request → Response × σ
  | .error refusal => (refusal, s)
  | .ok request => handle s request

def respond (handle : σ → Request → Response × σ) (s : σ) (payload : List UInt8) :
    Response × σ :=
  answer handle s (received payload)

def answers (handle : σ → Request → Response × σ) (s : σ) : List Request → List Response
  | [] => []
  | request :: rest =>
    let (response, s) := answer handle s (checked request)
    response :: answers handle s rest

/-- What one connection leaves: the frames written, the state, and the error that ended it before
the peer did. -/
structure Session (σ : Type) where
  frames : List (List UInt8)
  state : σ
  failure : Option NetError

def answerAll (handle : σ → Request → Response × σ) :
    σ → List (List UInt8) → Option NetError → Session σ
  | s, [], stop => ⟨[], s, stop⟩
  | s, payload :: rest, stop =>
    let (response, s) := respond handle s payload
    match Frame.writeMessage response with
    | .error e => ⟨[], s, some e⟩
    | .ok frame =>
      let session := answerAll handle s rest stop
      { session with frames := frame :: session.frames }

/-- Serves a connection on which the peer sends these bytes and then nothing more. -/
def serve (handle : σ → Request → Response × σ) (s : σ) (stream : List UInt8) : Session σ :=
  let (payloads, stop) := Frame.readAll stream
  answerAll handle s payloads stop

end StorageBroker.Server
