import Std.Async.Timer
import Std.Sync.Mutex
import StorageBroker.Controller.Basic
import StorageBroker.Host.Disk
import StorageBroker.Host.Socket
import StorageBroker.Service.Collaborator
import StorageBroker.Service.Timeline

/-! # Running daemons

What a running daemon does with the requests of all its connections: a service on the clock of the
host, whose collaborators are asked over sockets, or a controller on the disk. -/

set_option autoImplicit false

namespace StorageBroker

open Std.Async

/-- A service that the calls of all connections share. -/
structure RunningService where
  timeline : Std.Mutex Timeline

namespace RunningService

/-- A service that nobody has called. Its timeline answers no collaborator calls. -/
def fresh (config : ServiceConfig) : IO RunningService := do
  let silent : Behaviour := ⟨0, false, none⟩
  return ⟨← Std.Mutex.new { Timeline.fresh config with behaviours := ⟨silent, silent, silent, silent⟩ }⟩

/-- Brings the timeline to the present and changes it. -/
def update {α : Type} (running : RunningService) (f : Timeline → α × Timeline) : IO α := do
  let now ← IO.monoMsNow
  running.timeline.atomically (modifyGet fun t => f { t.advance now with outbound := [] })

def outboundOf (t : Timeline) (id : Nat) : Option Outbound :=
  (t.machine.waiting.get? id).bind fun wait =>
    wait.outbound? t.machine.service.config.controllerPort

def collect (id : Nat) (t : Timeline) : Option Outcome × Timeline :=
  let finished := t.machine.finished.filter fun entry => entry.1 ≠ id
  (t.machine.outcome? id, { t with machine := { t.machine with finished } })

def ask (address : String) (request : Request) : Async (Except NetError String) := do
  return request.told (← Socket.ask address request)

def contact : Outbound → Async (Except NetError String)
  | .resolve hostname port => Socket.resolve hostname port
  | .deploy address plan => ask address plan.deployRequest
  | .terminate address plan => ask address plan.terminateRequest
  | .startTransfer address transfer => ask address (.startTransfer transfer)

/-- Calls a collaborator for a waiting call, which is told the answer if it still waits for it. -/
def contactFor (running : RunningService) (id : Nat) (call : Outbound) : Async Unit := do
  let result ← contact call
  running.update fun t =>
    ((), if outboundOf t id = some call then t.fire id (.answer id result) else t)

/-- Waits until a call has finished; `made` is the collaborator call that was made for it last. -/
partial def finish (running : RunningService) (id : Nat) (made : Option Outbound) : Async Outcome := do
  let (outcome, wanted) ← running.update fun t =>
    let (outcome, t) := collect id t
    ((outcome, outboundOf t id), t)
  match outcome with
  | some outcome => return outcome
  | none =>
    match wanted with
    | none => sleep 5
    | some call =>
      if made ≠ some call then background (running.contactFor id call)
      sleep 1
    running.finish id wanted

def call (running : RunningService) (call : Call) : Async Outcome := do
  let id ← running.update fun t => t.start call
  running.finish id none

def handle (running : RunningService) (request : Request) : Async Response := do
  match ← running.call (.request request) with
  | .reply result => return .ofResult result
  | .tornDown _ => return .ok .empty

end RunningService

/-- A controller that the calls of all connections share, and the directory that it is in. -/
structure RunningController where
  controller : Controller
  here : Location
  turn : Std.Mutex Unit

namespace RunningController

/-- Answers a request: its directories are read, and what the commands make of them is written. -/
def answer (running : RunningController) (request : Request) : IO Response := do
  let places := running.controller.templates.values.map fun template =>
    (Disk.passed running.here template.workingDirectory).getLastD running.here
  let before ← (running.here :: places).foldlM (Disk.lookBelow 16) (.workspace running.here)
  let (response, after) := running.controller.handle running.here before request
  Disk.commit before after
  return response

def handle (running : RunningController) (request : Request) : Async Response := do
  let answered : IO Response := running.turn.atomically (running.answer request)
  answered

end RunningController

end StorageBroker
