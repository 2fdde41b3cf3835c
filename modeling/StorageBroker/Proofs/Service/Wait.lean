import StorageBroker.Proofs.Service.Step

/-! # What ends a wait

A waiting call goes on only when it is sent a signal that its wait can end with; whatever else
happens to the service, it waits on. Where the wait is the last of its call, the signal that ends
it answers the call, so a call that has not been answered is still there. -/

set_option autoImplicit false

namespace StorageBroker

/-- Whether the call is over after a wait, however the wait ends. -/
def Waiting.isLast : Waiting → Bool
  | .dispatching _ _ | .awaiting _ _ | .finalizing _ _ _ => true
  | .locatingForDeploy _ _ | .deploying _ _ | .locatingForTeardown _ _ _
  | .tearingDown _ _ _ => false

theorem Service.resume_finished {s : Service} {wait : Waiting} {signal : Signal}
    {r : CallState × Service} (last : wait.isLast = true)
    (resumed : s.resume wait signal = some r) : ∃ outcome, r.1 = .finished outcome := by
  unfold resume at resumed
  split at resumed <;> first
    | obtain rfl := Option.some.inj resumed
    | exact absurd resumed (by simp)
  -- either the line of the definition ends the call, or its wait is not a last one
  all_goals first
    | exact ⟨_, rfl⟩
    | exact Bool.noConfusion last

namespace Machine

theorem step_of_sends {m : Machine} {call : Nat} {event : Event} {signal : Signal}
    (sent : m.Sends call event signal) : m.step event = m.signal call signal := by
  cases sent with
  | answer result => rfl
  | wake ended => simp only [step, ended]
  | expire going => simp [step, going]

/-- A waiting call waits on unless it is sent a signal that runs it on. -/
theorem Step.keeps_wait {m m' : Machine} {event : Event} (step : Step m event m') (tidy : Tidy m)
    {call : Nat} {wait : Waiting} (waits : m.waiting.get? call = some wait) :
    m'.waiting.get? call = some wait ∨
      ∃ signal r, m.Sends call event signal ∧ m.service.resume wait signal = some r ∧
        m' = m.settle call r := by
  cases step with
  | started begun =>
      left
      have other : call ≠ m.started := Nat.ne_of_lt (tidy.waiting call (by simp [waits]))
      rw [settle_waiting, if_neg other]
      exact waits
  | @resumed _ sender before signal r sent held went =>
      by_cases same : call = sender
      · subst same
        obtain rfl := Option.some.inj (waits.symm.trans held)
        exact .inr ⟨signal, r, sent, went, rfl⟩
      · left
        rw [settle_waiting, if_neg same]
        exact waits
  | idle nothing deaf => exact .inl waits

section

variable {m : Machine} {call : Nat} {wait : Waiting}
  (waits : m.waiting.get? call = some wait)
include waits

/-! ## The signals of a waiting call -/

theorem signal_of_waits {signal : Signal} {r : CallState × Service}
    (went : m.service.resume wait signal = some r) : m.signal call signal = m.settle call r := by
  simp only [Machine.signal, waits, Option.bind_some, went]

theorem wakeStatus?_of_waiting :
    m.wakeStatus? call = wait.transfer?.bind m.service.transfers.ending? := by
  unfold wakeStatus?
  rw [waits, Option.bind_some]

variable {id : TransferId} (watches : wait.transfer? = some id)
include watches

theorem wake_of_ended {status : TransferStatus} {r : CallState × Service}
    (ended : m.service.transfers.ending? id = some status)
    (went : m.service.resume wait (.ended status) = some r) :
    m.step (.wake call) = m.settle call r := by
  have woken : m.wakeStatus? call = some status := by
    rw [wakeStatus?_of_waiting waits, watches, Option.bind_some, ended]
  rw [step_of_sends (.wake woken), signal_of_waits waits went]

theorem wake_of_live (live : m.service.transfers.ending? id = none) :
    m.step (.wake call) = m := by
  have asleep : m.wakeStatus? call = none := by
    rw [wakeStatus?_of_waiting waits, watches, Option.bind_some, live]
  simp only [step, asleep]

theorem expire_of_ended {status : TransferStatus}
    (ended : m.service.transfers.ending? id = some status) : m.step (.expire call) = m := by
  have woken : m.wakeStatus? call = some status := by
    rw [wakeStatus?_of_waiting waits, watches, Option.bind_some, ended]
  simp [step, woken]

theorem expire_of_live {r : CallState × Service}
    (live : m.service.transfers.ending? id = none)
    (went : m.service.resume wait .expired = some r) :
    m.step (.expire call) = m.settle call r := by
  have asleep : m.wakeStatus? call = none := by
    rw [wakeStatus?_of_waiting waits, watches, Option.bind_some, live]
  rw [step_of_sends (.expire asleep), signal_of_waits waits went]

end

/-! ## The last wait of a call -/

section

variable {m : Machine} {call : Nat} {wait : Waiting}

theorem Step.ends_last {m' : Machine} {event : Event} (step : Step m event m') (tidy : Tidy m)
    (waits : m.waiting.get? call = some wait) (last : wait.isLast = true) :
    m'.waiting.get? call = some wait ∨ (m'.outcome? call).isSome := by
  rcases step.keeps_wait tidy waits with still | ⟨signal, r, -, went, rfl⟩
  · exact .inl still
  · right
    obtain ⟨outcome, ended⟩ := Service.resume_finished last went
    rw [settle_outcome?, if_pos rfl, ended]
    rfl

theorem run_keeps_wait (tidy : Tidy m) (waits : m.waiting.get? call = some wait)
    (last : wait.isLast = true) (history : List Event)
    (unanswered : (m.run history).outcome? call = none) :
    (m.run history).waiting.get? call = some wait := by
  induction history generalizing m with
  | nil => exact waits
  | cons event rest ih =>
      have step := m.step_step event
      rcases step.ends_last tidy waits last with still | answered
      · exact ih (step.preserves_tidy tidy) still unanswered
      · obtain ⟨outcome, ended⟩ := Option.isSome_iff_exists.mp answered
        have final := run_keeps_outcome (step.preserves_tidy tidy) rest ended
        exact absurd (final.symm.trans unanswered) (by simp)

/-- A call that was in its last wait and has been answered was answered by one event. -/
theorem exists_answer (tidy : Tidy m) (waits : m.waiting.get? call = some wait)
    (last : wait.isLast = true) (history : List Event) {outcome : Outcome}
    (answered : (m.run history).outcome? call = some outcome) :
    ∃ early event late, history = early ++ event :: late ∧
      (m.run early).waiting.get? call = some wait ∧
      ((m.run early).step event).outcome? call = some outcome := by
  induction history generalizing m with
  | nil =>
      have unanswered := outcome?_of_waiting tidy waits
      exact absurd (unanswered.symm.trans answered) (by simp)
  | cons event rest ih =>
      have step := m.step_step event
      rcases step.ends_last tidy waits last with still | now
      · obtain ⟨early, other, late, rfl, waited, now⟩ :=
          ih (step.preserves_tidy tidy) still answered
        exact ⟨event :: early, other, late, rfl, waited, now⟩
      · obtain ⟨first, given⟩ := Option.isSome_iff_exists.mp now
        have final := run_keeps_outcome (step.preserves_tidy tidy) rest given
        obtain rfl := Option.some.inj (final.symm.trans answered)
        exact ⟨[], event, rest, rfl, waits, given⟩

end

end Machine

end StorageBroker
