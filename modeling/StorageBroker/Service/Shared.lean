import StorageBroker.Service.Machine

/-! # A service shared with others

One connection asks a service for one thing after the other, while the rest of the world goes on:
others call too, collaborators answer, and waits are woken or run out of time in any order. -/

set_option autoImplicit false

namespace StorageBroker

/-- A machine as one connection uses it; `ahead` lists for each of its next requests the events
until the one after. -/
structure Shared where
  machine : Machine
  ahead : List (List Event)

/-- Handles one request. A call that still waits after the events of the others is woken, or runs
out of time. -/
def Shared.handle (s : Shared) (request : Request) : Response × Shared :=
  let id := s.machine.started
  let m := s.machine.run
    (.call (.request request) :: (s.ahead.headD [] ++ [.wake id, .expire id]))
  (match m.outcome? id with
    | some (.reply result) => .ofResult result
    | _ => .error .undetermined "", ⟨m, s.ahead.tail⟩)

end StorageBroker
