import StorageBroker.Net.Network
import StorageBroker.Net.Server
import StorageBroker.Service.Scenario

/-! # A served connection

One connection to a server in front of a service whose collaborators succeed at once. The client
sends requests, payloads of its own making, or loose bytes after which it sends nothing more. -/

set_option autoImplicit false

namespace StorageBroker.Serving

inductive Step
  | call (request : Request)
  | payload (content : List UInt8)
  | bytes (content : List UInt8)

/-- What comes back: a response with the numbers drawn by then, or the end of the connection. -/
inductive Shown
  | answered (payload : List UInt8) (response : Response) (ids : Nat)
  | closed

def handle (s : Scenario) (request : Request) : Response × Scenario :=
  match s.block (.request request) with
  | (.response response, s) => (response, s)
  | (_, s) => (.error .undetermined "", s)

def Step.sent : Step → Except NetError (List UInt8) × Bool
  | .call request => (Frame.writeMessage request, true)
  | .payload content => (Frame.write content, true)
  | .bytes content => (.ok content, false)

/-- Serves the steps one after the other; the connection ends with the first that is not answered. -/
def serveSteps (s : Scenario) : List Step → List Shown
  | [] => []
  | step :: rest =>
    match step.sent.1.bind Frame.read with
    | .ok (some (payload, _)) =>
      let (response, s) := Server.respond handle s payload
      match Frame.writeMessage response with
      | .error _ => [.closed]
      | .ok frame =>
        .answered (frame.drop 4) response s.timeline.machine.service.ids.issued ::
          (if step.sent.2 then serveSteps s rest else [])
    | _ => [.closed]

def ask (network : Network) (s : Scenario) (server : String) (request : Request) :
    Except NetError Response :=
  match network.connect server with
  | .error e => .error (.io e)
  | .ok _ => .ok (Server.answer handle s (Server.checked request)).1

def serve (network : Network) (address : String) (config : ServiceConfig) (steps : List Step) :
    Except IoError (List Shown) := do
  let _ ← network.connect address
  return serveSteps (.fresh config) steps

end StorageBroker.Serving
