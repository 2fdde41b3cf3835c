import StorageBroker.Proofs.Service.Origin
import StorageBroker.Proofs.Service.Wait
import StorageBroker.Service.Shared

/-! # Every request comes to an end

A request ends with a reply, at once or after waits that its wake-up or its timeout can always end.
So whatever the others do meanwhile, handling a request gives a response. -/

set_option autoImplicit false

namespace StorageBroker

/-- A place that a request can come to: if it has ended, then with a reply. -/
def CallState.Replies : CallState → Prop
  | .finished outcome => ∃ result, outcome = .reply result
  | .waiting _ => True

namespace Service

/-! ## Replies -/

theorem failDeploy_ends (s : Service) (plan : DeploymentPlan) (e : ServiceError) :
    ∃ result, (s.failDeploy plan e).1 = .ofResult result := by
  unfold failDeploy
  split <;> exact ⟨_, rfl⟩

theorem completeDeploy_ends (s : Service) (plan : DeploymentPlan) (path : String) :
    ∃ result, (s.completeDeploy plan path).1 = .ofResult result := by
  unfold completeDeploy
  split <;> exact ⟨_, rfl⟩

theorem endTeardown_ends (s : Service) (result : Except ServiceError Unit) :
    ∃ reply, (s.endTeardown .client result).1 = .ofResult reply := by
  cases result <;> exact ⟨_, rfl⟩

theorem completeTeardown_ends (s : Service) (plan : DeploymentPlan) :
    ∃ result, (s.completeTeardown plan .client).1 = .ofResult result := by
  unfold completeTeardown
  split <;> exact endTeardown_ends _ _

theorem replies_of_ends {state : CallState} (ends : ∃ result, state = .ofResult result) :
    state.Replies := by
  obtain ⟨result, rfl⟩ := ends
  exact ⟨result, rfl⟩

theorem startRequest_replies (s : Service) (request : Request) :
    (s.startRequest request).1.Replies := by
  cases request with
  | deployAdhocStorage adhoc =>
      simp only [startRequest, startDeploy]
      split
      · exact ⟨_, rfl⟩
      · split
        · trivial
        · trivial
        · exact replies_of_ends (failDeploy_ends _ _ _)
  | terminateAdhocStorage adhoc =>
      simp only [startRequest]
      split
      · trivial
      · exact ⟨_, rfl⟩
  | transferDatasets job sources targets limits mapping =>
      simp only [startRequest, startDispatch_eq]
      split
      · exact ⟨_, rfl⟩
      · split
        · exact ⟨_, rfl⟩
        · split
          · exact ⟨_, rfl⟩
          · trivial
  | cancelTransfer transfer =>
      simp only [startRequest]
      split <;> exact ⟨_, rfl⟩
  | transferUpdate transfer status progress =>
      simp only [startRequest]
      split <;> exact ⟨_, rfl⟩
  | waitTransfer transfer timeoutMs =>
      simp only [startRequest, startAwait]
      split
      · exact ⟨_, rfl⟩
      · split
        · exact ⟨_, rfl⟩
        · trivial
  | finalizeDataOperation job operation =>
      simp only [startRequest, startFinalize]
      split
      · exact ⟨_, rfl⟩
      · split
        · exact ⟨_, rfl⟩
        · split
          · exact ⟨_, rfl⟩
          · split
            · exact ⟨_, rfl⟩
            · trivial
  | _ => exact ⟨_, rfl⟩

section

variable {s : Service} {request : Request} {wait : Waiting} (asked : wait.Of (.request request))
include asked

theorem resume_replies {signal : Signal} {r : CallState × Service}
    (resumed : s.resume wait signal = some r) : r.1.Replies := by
  have client : ∀ {origin : TeardownOrigin} {adhoc : AdhocId},
      origin.Of (.request request) adhoc → origin = .client := by
    intro origin adhoc of
    cases origin with
    | client => rfl
    | shutdown rest tornDown => exact absurd of (by simp [TeardownOrigin.Of])
  unfold resume at resumed
  split at resumed <;> first
    | obtain rfl := Option.some.inj resumed
    | exact absurd resumed (by simp)
  · trivial
  · exact replies_of_ends (s.completeDeploy_ends _ _)
  · exact replies_of_ends (s.failDeploy_ends _ _)
  · exact replies_of_ends (s.failDeploy_ends _ _)
  · exact replies_of_ends (s.failDeploy_ends _ _)
  · exact replies_of_ends (s.failDeploy_ends _ _)
  · trivial
  · obtain rfl := client asked
    exact replies_of_ends (s.completeTeardown_ends _)
  · obtain rfl := client asked
    exact replies_of_ends (endTeardown_ends _ _)
  · obtain rfl := client asked
    exact replies_of_ends (endTeardown_ends _ _)
  · obtain rfl := client asked
    exact replies_of_ends (endTeardown_ends _ _)
  · obtain rfl := client asked
    exact replies_of_ends (endTeardown_ends _ _)
  all_goals exact ⟨_, rfl⟩

/-- Time running out ends every wait of a request. -/
theorem resume_expired : ∃ result r,
    s.resume wait .expired = some r ∧ r.1 = .ofResult result := by
  cases wait with
  | locatingForDeploy plan hostname | deploying plan address =>
      obtain ⟨result, ends⟩ := s.failDeploy_ends plan
        (.timeout (.deployment plan.id) s.config.controllerMs)
      exact ⟨result, _, rfl, ends⟩
  | locatingForTeardown plan hostname origin | tearingDown plan address origin =>
      cases origin with
      | client =>
          obtain ⟨result, ends⟩ := endTeardown_ends
            (s.undoTeardown plan (.timeout (.teardown plan.id) s.config.controllerMs)).2
            (.error (s.undoTeardown plan (.timeout (.teardown plan.id) s.config.controllerMs)).1)
          exact ⟨result, _, rfl, ends⟩
      | shutdown rest tornDown => exact absurd asked (by simp [Waiting.Of, TeardownOrigin.Of])
  | dispatching transfer address => exact ⟨_, _, rfl, rfl⟩
  | awaiting transfer budgetMs => exact ⟨_, _, rfl, rfl⟩
  | finalizing job operation transfer => exact ⟨_, _, rfl, rfl⟩

end

theorem resume_ended (s : Service) {wait : Waiting} {transfer : TransferId}
    (watches : wait.transfer? = some transfer) (status : TransferStatus) : ∃ result r,
    s.resume wait (.ended status) = some r ∧ r.1 = .ofResult result := by
  cases wait with
  | awaiting transfer budgetMs => exact ⟨_, _, rfl, rfl⟩
  | finalizing job operation transfer => exact ⟨_, _, rfl, rfl⟩
  | _ => simp [Waiting.transfer?] at watches

end Service

namespace Machine

/-! ## One call -/

/-- The call of this number is for a request: it waits for what it was asked to do, or it has ended
with a reply. -/
def Pursues (m : Machine) (id : Nat) (request : Request) : Prop :=
  (∃ wait, m.waiting.get? id = some wait ∧ wait.Of (.request request)) ∨
  ∃ result, m.outcome? id = some (.reply result)

theorem settle_pursues {m : Machine} {id : Nat} {request : Request} {r : CallState × Service}
    (unanswered : m.outcome? id = none) (asked : r.1.Of (.request request))
    (replies : r.1.Replies) : (m.settle id r).Pursues id request := by
  unfold Pursues
  rw [settle_waiting, settle_outcome?, if_pos rfl, if_pos rfl, unanswered, Option.or_none]
  cases state : r.1 with
  | waiting wait =>
      rw [state] at asked
      exact .inl ⟨wait, rfl, asked⟩
  | finished outcome =>
      rw [state] at replies
      obtain ⟨result, rfl⟩ := replies
      exact .inr ⟨result, rfl⟩

theorem start_pursues {m : Machine} (tidy : Tidy m) (request : Request) :
    (m.step (.call (.request request))).Pursues m.started request :=
  settle_pursues (outcome?_of_unstarted tidy) (m.service.start_of (.request request))
    (m.service.startRequest_replies request)

theorem Step.keeps_pursuit {m m' : Machine} {event : Event} (step : Step m event m')
    (tidy : Tidy m) {id : Nat} {request : Request} (pursues : m.Pursues id request) :
    m'.Pursues id request := by
  rcases pursues with ⟨wait, waits, asked⟩ | ⟨result, ended⟩
  · rcases step.keeps_wait tidy waits with still | ⟨signal, r, -, went, rfl⟩
    · exact .inl ⟨wait, still, asked⟩
    · exact settle_pursues (outcome?_of_waiting tidy waits) (Service.resume_of asked went)
        (Service.resume_replies asked went)
  · exact .inr ⟨result, step.keeps_outcome tidy ended⟩

theorem run_keeps_pursuit {m : Machine} (tidy : Tidy m) {id : Nat} {request : Request}
    (pursues : m.Pursues id request) (history : List Event) :
    Tidy (m.run history) ∧ (m.run history).Pursues id request := by
  induction history generalizing m with
  | nil => exact ⟨tidy, pursues⟩
  | cons event rest ih =>
      have step := m.step_step event
      exact ih (step.preserves_tidy tidy) (step.keeps_pursuit tidy pursues)

theorem outcome?_of_settled {m : Machine} {id : Nat} {r : CallState × Service}
    {result : Except ServiceError Reply} (ends : r.1 = .ofResult result) :
    (m.settle id r).outcome? id = some (.reply result) := by
  rw [settle_outcome?, if_pos rfl, ends]
  rfl

/-- Its wake-up and its timeout, one after the other, end every call that is for a request. -/
theorem wake_then_expire_ends {m : Machine} (tidy : Tidy m) {id : Nat} {request : Request}
    (pursues : m.Pursues id request) :
    ∃ result, (m.run [.wake id, .expire id]).outcome? id = some (.reply result) := by
  rcases pursues with ⟨wait, waits, asked⟩ | ⟨result, ended⟩
  · cases ending : m.wakeStatus? id with
    | some status =>
        have watched := (wakeStatus?_of_waiting waits).symm.trans ending
        obtain ⟨transfer, watches, -⟩ := Option.bind_eq_some_iff.mp watched
        obtain ⟨result, r, went, ends⟩ := m.service.resume_ended watches status
        have woken : m.step (.wake id) = m.settle id r := by
          rw [step_of_sends (.wake ending), signal_of_waits waits went]
        refine ⟨result, run_keeps_outcome ((m.step_step (.wake id)).preserves_tidy tidy)
          [.expire id] ?_⟩
        rw [woken]
        exact outcome?_of_settled ends
    | none =>
        obtain ⟨result, r, went, ends⟩ := Service.resume_expired (s := m.service) asked
        have asleep : m.step (.wake id) = m := by simp only [step, ending]
        have expired : m.step (.expire id) = m.settle id r := by
          rw [step_of_sends (.expire ending), signal_of_waits waits went]
        refine ⟨result, ?_⟩
        change ((m.step (.wake id)).step (.expire id)).outcome? id = _
        rw [asleep, expired]
        exact outcome?_of_settled ends
  · exact ⟨result, run_keeps_outcome tidy [.wake id, .expire id] ended⟩

end Machine

/-- A request is answered with what its call has come to. -/
theorem Shared.handle_of_ended {s : Shared} {request : Request} {result : Except ServiceError Reply}
    (ended : (s.machine.run (.call (.request request) :: (s.ahead.headD [] ++
      [.wake s.machine.started, .expire s.machine.started]))).outcome? s.machine.started =
        some (.reply result)) :
    s.handle request = (.ofResult result, ⟨s.machine.run (.call (.request request) ::
      (s.ahead.headD [] ++ [.wake s.machine.started, .expire s.machine.started])),
      s.ahead.tail⟩) := by
  simp only [handle, ended]

/-- Whatever the others do, a request is handled to its end: the response is worded from the result
that its call has come to, and the machine has gone on by that call and by other events. -/
theorem Shared.handle_ends {s : Shared} (tidy : s.machine.Tidy) (request : Request) :
    ∃ events result,
      (s.machine.run (.call (.request request) :: events)).outcome? s.machine.started =
        some (.reply result) ∧
      s.handle request =
        (.ofResult result, ⟨s.machine.run (.call (.request request) :: events), s.ahead.tail⟩) := by
  have begun := (s.machine.step_step (.call (.request request))).preserves_tidy tidy
  obtain ⟨later, pursues⟩ := Machine.run_keeps_pursuit begun (Machine.start_pursues tidy request)
    (s.ahead.headD [])
  obtain ⟨result, ended⟩ := Machine.wake_then_expire_ends later pursues
  rw [← Machine.run_append] at ended
  exact ⟨_, result, ended, handle_of_ended ended⟩

end StorageBroker
