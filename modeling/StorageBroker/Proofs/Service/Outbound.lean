import StorageBroker.Proofs.Service.Step
import StorageBroker.Service.Timeline

/-! # Calls of collaborators

A call turns to a collaborator when it comes to a wait for one. Read off a history, these are the
calls that controllers, data movers and the search for addresses get to see. -/

set_option autoImplicit false

namespace StorageBroker

namespace Machine

/-- The call that an event is about: the one that it starts, or the one that it is sent to. -/
def target (m : Machine) : Event → Nat
  | .call _ => m.started
  | .answer id _ | .wake id | .expire id => id

/-- The collaborator call that an event brings about: its call has come to a wait that it was not
in before. -/
def outbound? (m : Machine) (event : Event) : Option (Nat × Outbound) :=
  let id := m.target event
  let after := m.step event
  if after.waiting.get? id = m.waiting.get? id then none
  else ((after.waiting.get? id).bind
    (Waiting.outbound? after.service.config.controllerPort)).map (id, ·)

/-- The collaborator calls that a history brings about, each with the number of its call. -/
def outbounds (m : Machine) : List Event → List (Nat × Outbound)
  | [] => []
  | event :: rest => (m.outbound? event).toList ++ (m.step event).outbounds rest

theorem outbound?_of_still {m : Machine} {event : Event}
    (still : (m.step event).waiting.get? (m.target event) = m.waiting.get? (m.target event)) :
    m.outbound? event = none :=
  if_pos still

theorem outbound?_of_moved {m : Machine} {event : Event} {wait : Waiting}
    (waits : (m.step event).waiting.get? (m.target event) = some wait)
    (new : m.waiting.get? (m.target event) ≠ some wait) :
    m.outbound? event =
      (wait.outbound? (m.step event).service.config.controllerPort).map (m.target event, ·) := by
  simp only [outbound?, waits, if_neg new.symm, Option.bind_some]

theorem outbounds_append (m : Machine) (first last : List Event) :
    m.outbounds (first ++ last) = m.outbounds first ++ (m.run first).outbounds last :=
  collect_append (fun _ => rfl) (fun _ _ _ => rfl) m first last

theorem target_of_sends {m : Machine} {id : Nat} {event : Event} {signal : Signal}
    (sent : m.Sends id event signal) : m.target event = id := by
  cases sent <;> rfl

/-- The events that bring a collaborator call about are those of the history. -/
theorem exists_of_mem_outbounds {m : Machine} {history : List Event} {made : Nat × Outbound}
    (member : made ∈ m.outbounds history) :
    ∃ first event rest, history = first ++ event :: rest ∧
      (m.run first).outbound? event = some made := by
  induction history generalizing m with
  | nil => exact absurd member List.not_mem_nil
  | cons event rest ih =>
      rcases List.mem_append.mp member with now | late
      · exact ⟨[], event, rest, rfl, Option.mem_toList.mp now⟩
      · obtain ⟨first, next, last, rfl, brought⟩ := ih late
        exact ⟨event :: first, next, last, rfl, brought⟩

/-- A collaborator call is made for a wait that its call is in from now on. -/
theorem waiting_of_outbound? {m : Machine} {event : Event} {id : Nat} {made : Outbound}
    (brought : m.outbound? event = some (id, made)) :
    id = m.target event ∧ ∃ wait, (m.step event).waiting.get? id = some wait ∧
      m.waiting.get? id ≠ some wait ∧
      wait.outbound? (m.step event).service.config.controllerPort = some made := by
  unfold outbound? at brought
  by_cases same : (m.step event).waiting.get? (m.target event) =
      m.waiting.get? (m.target event)
  · simp [same] at brought
  simp only [if_neg same, Option.map_eq_some_iff, Prod.mk.injEq] at brought
  obtain ⟨call, turned, rfl, rfl⟩ := brought
  obtain ⟨wait, waits, asked⟩ := Option.bind_eq_some_iff.mp turned
  exact ⟨rfl, wait, waits, fun before => same (waits.trans before.symm), asked⟩

/-- A collaborator call is made for a wait that a call has just come to, from its start or from
another wait. -/
theorem wait_of_outbound? {m : Machine} {event : Event} {id : Nat} {made : Outbound}
    (brought : m.outbound? event = some (id, made)) :
    ∃ wait, wait.outbound? (m.step event).service.config.controllerPort = some made ∧
      ((∃ call, event = .call call ∧ id = m.started ∧
          (m.service.start call).1 = .waiting wait) ∨
        ∃ before signal r, m.waiting.get? id = some before ∧ m.Sends id event signal ∧
          m.service.resume before signal = some r ∧ r.1 = .waiting wait) := by
  obtain ⟨rfl, wait, waits, new, asked⟩ := waiting_of_outbound? brought
  refine ⟨wait, asked, ?_⟩
  have step := m.step_step event
  clear brought asked
  generalize m.step event = after at step waits
  cases step with
  | started begun =>
      rw [target, settle_waiting, if_pos rfl] at waits
      cases state : (m.service.start begun).1 with
      | finished outcome => simp [state, CallState.wait?] at waits
      | waiting other =>
          rw [state] at waits
          obtain rfl := Option.some.inj waits
          exact .inl ⟨begun, rfl, rfl, state⟩
  | resumed sent held went =>
      rename_i sender before signal r
      rw [target_of_sends sent, settle_waiting, if_pos rfl] at waits
      rw [target_of_sends sent]
      cases state : r.1 with
      | finished outcome => simp [state, CallState.wait?] at waits
      | waiting other =>
          rw [state] at waits
          obtain rfl := Option.some.inj waits
          exact .inr ⟨before, signal, r, held, sent, went, state⟩
  | idle nothing deaf => exact absurd waits new

end Machine

end StorageBroker
