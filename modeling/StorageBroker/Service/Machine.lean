import StorageBroker.Service.Waiting

/-! # Interleaved calls

A machine is a service with the calls that wait. Any number of calls may be waiting, and the
events that run them on may come in any order: calls start, collaborators answer, waits for ended
transfers are woken, and waits run out of time. A history of a service is a list of events. -/

set_option autoImplicit false

namespace StorageBroker

/-- Something that runs a call: calls are numbered in the order in which they start. -/
inductive Event
  | call (call : Call)
  | answer (id : Nat) (result : Except NetError String)
  | wake (id : Nat)
  | expire (id : Nat)

/-- A service with its waiting calls, the number of calls started, and how calls have ended, the
latest first. -/
structure Machine where
  service : Service
  waiting : Table Nat Waiting
  started : Nat
  finished : List (Nat × Outcome)

namespace Machine

def fresh (config : ServiceConfig) : Machine := ⟨.fresh config, .empty, 0, []⟩

def settle (m : Machine) (id : Nat) (r : CallState × Service) : Machine :=
  match r.1 with
  | .waiting wait => { m with service := r.2, waiting := m.waiting.insert id wait }
  | .finished outcome =>
    { m with
      service := r.2
      waiting := m.waiting.erase id
      finished := (id, outcome) :: m.finished }

def signal (m : Machine) (id : Nat) (signal : Signal) : Machine :=
  match (m.waiting.get? id).bind fun wait => m.service.resume wait signal with
  | none => m
  | some r => m.settle id r

/-- The terminal status that a waiting call can be woken with. -/
def wakeStatus? (m : Machine) (id : Nat) : Option TransferStatus :=
  ((m.waiting.get? id).bind Waiting.transfer?).bind m.service.transfers.ending?

/-- One event. A transfer wait can be woken only once its transfer has ended, and runs out of time
only before that. -/
def step (m : Machine) : Event → Machine
  | .call call => { m with started := m.started + 1 }.settle m.started (m.service.start call)
  | .answer id result => m.signal id (.answered result)
  | .wake id =>
    match m.wakeStatus? id with
    | none => m
    | some status => m.signal id (.ended status)
  | .expire id => if (m.wakeStatus? id).isSome then m else m.signal id .expired

def run (m : Machine) (history : List Event) : Machine := history.foldl step m

def outcome? (m : Machine) (id : Nat) : Option Outcome :=
  (m.finished.find? fun entry => entry.1 = id).map Prod.snd

end Machine

end StorageBroker
