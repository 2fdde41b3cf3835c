import StorageBroker.Service.Machine

/-! # Timelines

A machine on a clock, with collaborators that behave as told. Time moves only while somebody
waits, and only to the next moment at which a collaborator answers or a wait runs out; everything
else takes no time. What is ready is carried out in the order in which its calls started. -/

set_option autoImplicit false

namespace StorageBroker

/-- How a collaborator behaves: after a delay it fails or succeeds, or it never answers. -/
structure Behaviour where
  delayMs : Nat
  answers : Bool
  failure : Option NetError
  deriving DecidableEq, Repr

def Behaviour.prompt : Behaviour := ⟨0, true, none⟩

structure Behaviours where
  mover : Behaviour
  deploy : Behaviour
  terminate : Behaviour
  resolve : Behaviour
  deriving DecidableEq, Repr

def Behaviours.prompt : Behaviours := ⟨.prompt, .prompt, .prompt, .prompt⟩

namespace Outbound

def behaviour (b : Behaviours) : Outbound → Behaviour
  | .resolve _ _ => b.resolve
  | .deploy _ _ => b.deploy
  | .terminate _ _ => b.terminate
  | .startTransfer _ _ => b.mover

def success : Outbound → String
  | .resolve hostname port => hostname ++ ".ib:" ++ toString port
  | .deploy _ plan => "/mnt/reef/" ++ toString plan.id
  | .terminate _ _ | .startTransfer _ _ => ""

end Outbound

/-- What a waiting call waits for on the clock: the end of its budget, and the moment and content
of a collaborator's answer. -/
structure Timer where
  deadline : Nat
  answer : Option (Nat × Except NetError String)

def Timer.moment (timer : Timer) : Nat :=
  match timer.answer with
  | none => timer.deadline
  | some (moment, _) => min moment timer.deadline

/-- How many events a waiting call can still take. A search for an address is followed by a call to
the controller, and a shutdown goes on with the storages that are left. -/
def Waiting.eventsLeft : Waiting → Nat
  | .locatingForDeploy _ _ | .locatingForTeardown _ _ .client => 2
  | .locatingForTeardown _ _ (.shutdown rest _) => 2 * rest.length + 2
  | .tearingDown _ _ (.shutdown rest _) => 2 * rest.length + 1
  | .tearingDown _ _ .client | .deploying _ _ | .dispatching _ _ | .awaiting _ _
  | .finalizing _ _ _ => 1

/-- A machine on a clock; `outbound` lists the collaborator calls made, the latest first. -/
structure Timeline where
  machine : Machine
  behaviours : Behaviours
  now : Nat
  timers : Table Nat Timer
  outbound : List Outbound

namespace Timeline

/-- Nothing has happened, and collaborators succeed at once. -/
def fresh (config : ServiceConfig) : Timeline := ⟨.fresh config, .prompt, 0, .empty, []⟩

def answerTo (t : Timeline) (call : Outbound) : Option (Nat × Except NetError String) :=
  let behaviour := call.behaviour t.behaviours
  if behaviour.answers then
    some (t.now + behaviour.delayMs,
      match behaviour.failure with
      | none => .ok call.success
      | some e => .error e)
  else none

/-- Sets the timer of a call that has come to wait. A deadline that still runs is kept. -/
def arm (t : Timeline) (id : Nat) (deadline : Option Nat) : Timeline :=
  match t.machine.waiting.get? id with
  | none => { t with timers := t.timers.erase id }
  | some wait =>
    let config := t.machine.service.config
    let call := wait.outbound? config.controllerPort
    let timer : Timer := ⟨deadline.getD (t.now + wait.budgetMs config), call.bind t.answerTo⟩
    { t with timers := t.timers.insert id timer, outbound := call.toList ++ t.outbound }

def start (t : Timeline) (call : Call) : Nat × Timeline :=
  let id := t.machine.started
  (id, { t with machine := t.machine.step (.call call) }.arm id none)

/-- The deadline that goes on after an event: that of a search for an address that succeeded. -/
def runningDeadline (t : Timeline) : Event → Option Nat
  | .answer id (.ok _) =>
    if (t.machine.waiting.get? id).any Waiting.isLocating then
      (t.timers.get? id).map Timer.deadline
    else none
  | _ => none

def fire (t : Timeline) (id : Nat) (event : Event) : Timeline :=
  { t with machine := t.machine.step event }.arm id (t.runningDeadline event)

/-- The event of a waiting call that is due. What it waits for comes before its deadline. -/
def due? (t : Timeline) (id : Nat) (timer : Timer) : Option Event :=
  if (t.machine.wakeStatus? id).isSome then some (.wake id)
  else
    match timer.answer with
    | some (moment, result) =>
      if moment ≤ t.now then some (.answer id result)
      else if timer.deadline ≤ t.now then some (.expire id)
      else none
    | none => if timer.deadline ≤ t.now then some (.expire id) else none

/-- The first event that is due, in the order in which calls started. -/
def nextDue? (t : Timeline) : Option (Nat × Event) :=
  t.timers.rows.findSome? fun row => (t.due? row.1 row.2).map fun event => (row.1, event)

def earlier? : Option Nat → Option Nat → Option Nat
  | none, m | m, none => m
  | some m, some n => some (min m n)

def nextMoment? (t : Timeline) : Option Nat :=
  t.timers.rows.foldl (fun m row => earlier? m (some row.2.moment)) none

def eventsLeft (t : Timeline) : Nat :=
  t.machine.waiting.values.foldl (fun n wait => n + wait.eventsLeft) 0

def carryOut : Nat → Timeline → Timeline
  | 0, t => t
  | fuel + 1, t =>
    match t.nextDue? with
    | none => t
    | some (id, event) => carryOut fuel (t.fire id event)

def settle (t : Timeline) : Timeline := carryOut t.eventsLeft t

/-- Lets time pass to a moment and carries out what is due then. -/
def advance (t : Timeline) (moment : Nat) : Timeline := { t with now := moment }.settle

/-- Lets time pass from one due moment to the next, at most so often, until `stop` holds of the
timeline and the moment that would be next. -/
def pass (stop : Timeline → Nat → Bool) : Nat → Timeline → Timeline
  | 0, t => t
  | fuel + 1, t =>
    match t.nextMoment? with
    | none => t
    | some moment => if stop t moment then t else pass stop fuel (t.advance moment)

/-- Lets time pass until a call has finished. -/
def await (t : Timeline) (id : Nat) : Timeline :=
  pass (fun t _ => (t.machine.outcome? id).isSome) t.settle.eventsLeft t.settle

def sleep (t : Timeline) (ms : Nat) : Timeline :=
  let wake := t.now + ms
  (pass (fun _ moment => wake < moment) t.settle.eventsLeft t.settle).advance wake

end Timeline

end StorageBroker
