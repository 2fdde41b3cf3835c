import StorageBroker.Net.Client

/-! # Scripted peers

A peer with a script answers each request that it receives with the next entry of the script, and
closes the connection once the script is used up. Four clients talk to it, each over a connection
of its own: the data mover, the controller, a pool, and a plain client. -/

set_option autoImplicit false

namespace StorageBroker

inductive ScriptEntry
  | respond (response : Response)
  | payload (content : List UInt8)
  | bytes (content : List UInt8)
  | close
  deriving DecidableEq

/-- What the peer does for an entry; bytes outside a frame are followed by the end of the stream,
and a response that fits no frame by nothing else. -/
def ScriptEntry.move : ScriptEntry → PeerMove
  | .respond response => framed (Frame.writeMessage response)
  | .payload content => framed (Frame.write content)
  | .bytes content => ⟨content, true⟩
  | .close => ⟨[], true⟩
where
  /-- Sends a frame and keeps the connection open. -/
  framed : Except NetError (List UInt8) → PeerMove
    | .ok frame => ⟨frame, false⟩
    | .error _ => ⟨[], true⟩

inductive Caller
  | mover
  | controller
  | pool
  | plain
  deriving DecidableEq, Repr

inductive Errand
  | startTransfer (transfer : Transfer)
  | deploy (adhoc : AdhocId) (kind : AdhocKind) (context : AdhocContext)
      (resources : AdhocResources)
  | terminate (adhoc : AdhocId) (kind : AdhocKind) (resources : AdhocResources)
  | pool (request : Request)
  | plain (request : Request)
  | resolve (hostname : String) (port : UInt16)
  deriving DecidableEq

inductive Errand.Answer
  | done
  | text (text : String)
  | reply (r : Reply)
  | response (r : Response)

structure Seen where
  connection : Nat
  payload : List UInt8
  request : Request

structure PeerSession where
  network : Network
  script : List ScriptEntry
  accepted : Nat
  clients : Table Caller Client

namespace PeerSession

def fresh (network : Network) (address : String) (script : List ScriptEntry) : PeerSession :=
  ⟨network, script, 0,
    [Caller.mover, .controller, .pool, .plain].foldl
      (fun clients caller => clients.insert caller (.ofAddress address)) .empty⟩

/-- Makes a call for a caller; what is shown beside its result is the request as the peer saw it. -/
def call (s : PeerSession) (caller : Caller) (request : Request) :
    Except NetError Response × List Seen × PeerSession :=
  match s.clients.get? caller with
  | none => (.error .closed, [], s)
  | some client =>
    let move := (s.script.head?.getD .close).move
    let report := client.call s.network s.accepted request move none
    let seen := report.received.toList.map fun r => ⟨r.1, r.2, request⟩
    let script := if report.received.isSome then s.script.tail else s.script
    (report.result.getD (.error .closed), seen,
      { s with
        script
        accepted := report.accepted
        clients := s.clients.insert caller report.client })

/-- Runs an errand: its result, and the requests that the peer saw. -/
def run (s : PeerSession) :
    Errand → Except NetError Errand.Answer × List Seen × PeerSession
  | .startTransfer transfer =>
    let request : Request := .startTransfer transfer
    let (result, seen, s) := s.call .mover request
    ((request.told result).map fun _ => .done, seen, s)
  | .deploy adhoc kind context resources =>
    let request : Request := .adhocDeploy adhoc kind context resources
    let (result, seen, s) := s.call .controller request
    ((request.told result).map .text, seen, s)
  | .terminate adhoc kind resources =>
    let request : Request := .adhocTerminate adhoc kind resources
    let (result, seen, s) := s.call .controller request
    ((request.told result).map fun _ => .done, seen, s)
  | .pool request =>
    let (result, seen, s) := s.call .pool request
    (do return .reply (← (← result).outcome), seen, s)
  | .plain request =>
    let (result, seen, s) := s.call .plain request
    (do return .response (← result), seen, s)
  | .resolve hostname port => ((s.network.resolve hostname port).map .text, [], s)

def runAll (s : PeerSession) : List Errand → List (Except NetError Errand.Answer × List Seen)
  | [] => []
  | errand :: rest =>
    let (result, seen, s) := s.run errand
    (result, seen) :: s.runAll rest

end PeerSession

end StorageBroker
