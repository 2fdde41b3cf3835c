import StorageBroker.Service.Timeline

/-! # Scenarios

A scenario plays a service on a timeline step by step: one main sequence of calls, further calls
that are spawned under a tag and joined later, and the behaviour of the collaborators. Each step
shows its result, the collaborator calls that it started, which spawned calls have finished, and how
much the service holds. -/

set_option autoImplicit false

namespace StorageBroker

namespace Scenario

/-- A change to the behaviour of the collaborators; what is left out stays. -/
structure Change where
  mover : Option Behaviour
  deploy : Option Behaviour
  terminate : Option Behaviour
  resolve : Option Behaviour
  deriving DecidableEq, Repr

inductive Step
  | call (request : Request)
  | spawn (tag : String) (request : Request)
  | join (tag : String)
  | sleep (ms : Nat)
  | behave (change : Change)
  | dataOperation (job : JobId) (operation : OperationId)
  | transfersFor (job : JobId)
  | storages
  | config
  | shutdown

inductive Answer
  | nothing
  | response (response : Response)
  | dataOperation (result : Except ServiceError DataOperation)
  | transfers (transfers : List Transfer)
  | storages (storages : List AdhocStorage)
  | config (config : ServiceConfig)
  | tornDown (count : Nat)

structure Census where
  ids : Nat
  jobs : Nat
  adhoc : Nat
  pfs : Nat
  transfers : Nat
  deriving DecidableEq, Repr

structure Shown where
  answer : Answer
  outbound : List Outbound
  done : List String
  census : Census

end Scenario

def Service.census (s : Service) : Scenario.Census :=
  ⟨s.ids.issued, s.registry.jobs.size, s.registry.adhoc.size, s.registry.pfs.size,
    s.transfers.count⟩

def Behaviours.change (b : Behaviours) (c : Scenario.Change) : Behaviours :=
  ⟨c.mover.getD b.mover, c.deploy.getD b.deploy, c.terminate.getD b.terminate,
    c.resolve.getD b.resolve⟩

/-- A timeline with the spawned calls that have not been joined. -/
structure Scenario where
  timeline : Timeline
  spawned : Table String Nat

namespace Scenario

def fresh (config : ServiceConfig) : Scenario := ⟨.fresh config, .empty⟩

/-- How a call has ended, as an answer. -/
def answerOf (t : Timeline) (id : Nat) : Answer :=
  match t.machine.outcome? id with
  | none => .nothing
  | some (.reply result) => .response (.ofResult result)
  | some (.tornDown count) => .tornDown count

/-- Starts a call of the main sequence and lets time pass until it has finished. -/
def block (s : Scenario) (call : Call) : Answer × Scenario :=
  let (id, t) := s.timeline.start call
  let t := t.await id
  (answerOf t id, { s with timeline := t })

/-- Plays a step; a tag that was not spawned cannot be joined. -/
def play (s : Scenario) : Step → Option (Answer × Scenario)
  | .call request => some (s.block (.request request))
  | .shutdown => some (s.block .shutdown)
  | .spawn tag request =>
    let (id, t) := s.timeline.start (.request request)
    some (.nothing, ⟨t.settle, s.spawned.insert tag id⟩)
  | .join tag =>
    (s.spawned.get? tag).map fun id =>
      let t := s.timeline.await id
      (answerOf t id, ⟨t, s.spawned.erase tag⟩)
  | .sleep ms => some (.nothing, { s with timeline := s.timeline.sleep ms })
  | .behave change =>
    let b := s.timeline.behaviours.change change
    some (.nothing, { s with timeline := { s.timeline with behaviours := b } })
  | .dataOperation job operation =>
    let found := s.timeline.machine.service.pipeline.get job operation
    some (.dataOperation (found.mapError .pipeline), s)
  | .transfersFor job =>
    some (.transfers (s.timeline.machine.service.transfers.transfersFor job), s)
  | .storages => some (.storages s.timeline.machine.service.registry.adhocStorages, s)
  | .config => some (.config s.timeline.machine.service.config, s)

def done (s : Scenario) : List String :=
  let finished := s.spawned.rows.filter fun row =>
    (s.timeline.machine.outcome? row.2).isSome
  (finished.map Prod.fst).mergeSort fun a b => a ≤ b

def step (s : Scenario) (step : Step) : Option (Shown × Scenario) :=
  let quiet : Scenario := { s with timeline := { s.timeline with outbound := [] } }
  (quiet.play step).map fun (answer, s) =>
    (⟨answer, s.timeline.outbound.reverse, s.done, s.timeline.machine.service.census⟩, s)

/-- Plays all steps; gives nothing if one of them cannot be played. -/
def run (s : Scenario) : List Step → Option (List Shown)
  | [] => some []
  | step :: rest => do
    let (shown, s) ← s.step step
    let later ← s.run rest
    return shown :: later

end Scenario

end StorageBroker
