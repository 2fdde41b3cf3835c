import StorageBroker.Proofs.Registry.InFlight
import StorageBroker.Proofs.Service.Step
import StorageBroker.Proofs.Transfer.Effect

/-! # Whose waits they are

A call that waits does so for what it was asked to do, and calls are numbered in the order in which
they start. So each wait of a machine can be traced back to the request it comes from. -/

set_option autoImplicit false

namespace StorageBroker

def TeardownOrigin.Of (call : Call) (adhoc : AdhocId) : TeardownOrigin → Prop
  | .client => call = .request (.terminateAdhocStorage adhoc)
  | .shutdown _ _ => call = .shutdown

def Waiting.Of (call : Call) : Waiting → Prop
  | .locatingForDeploy plan _ | .deploying plan _ =>
    call = .request (.deployAdhocStorage plan.id)
  | .locatingForTeardown plan _ origin | .tearingDown plan _ origin => origin.Of call plan.id
  | .dispatching transfer _ =>
    call = .request (.transferDatasets transfer.jobId transfer.sources transfer.targets
      transfer.limits transfer.mapping)
  | .awaiting transfer _ => ∃ timeoutMs, call = .request (.waitTransfer transfer timeoutMs)
  | .finalizing job operation _ => call = .request (.finalizeDataOperation job operation)

/-- A place that a call can come to: it may always end. -/
def CallState.Of (call : Call) : CallState → Prop
  | .finished _ => True
  | .waiting wait => wait.Of call

namespace Service

variable {call : Call}

theorem failDeploy_of (s : Service) (plan : DeploymentPlan) (e : ServiceError) :
    (s.failDeploy plan e).1.Of call := by
  unfold failDeploy
  split <;> trivial

theorem completeDeploy_of (s : Service) (plan : DeploymentPlan) (path : String) :
    (s.completeDeploy plan path).1.Of call := by
  unfold completeDeploy
  split <;> trivial

theorem startDeploy_of (s : Service) (adhoc : AdhocId) :
    (s.startDeploy adhoc).1.Of (.request (.deployAdhocStorage adhoc)) := by
  unfold startDeploy
  cases begun : s.registry.beginDeploy adhoc with
  | mk answer r =>
      cases answer with
      | error e => trivial
      | ok plan =>
          obtain ⟨rfl, -, -⟩ := Registry.beginDeploy_ok begun
          simp only
          cases plan.location with
          | address address => rfl
          | host hostname => rfl
          | nowhere => exact failDeploy_of _ plan _

theorem startTeardown_of {s s' : Service} {adhoc : AdhocId} {origin : TeardownOrigin}
    {wait : Waiting} (started : s.startTeardown adhoc origin = (.ok wait, s'))
    (asked : origin.Of call adhoc) : wait.Of call := by
  unfold startTeardown at started
  cases begun : s.registry.beginTeardown adhoc with
  | mk answer r =>
      rw [begun] at started
      cases answer with
      | error e => simp at started
      | ok plan =>
          obtain ⟨rfl, -, -⟩ := Registry.beginTeardown_ok begun
          simp only at started
          cases located : plan.location with
          | address address =>
              rw [located] at started
              obtain rfl := Except.ok.inj (Prod.mk.inj started).1
              exact asked
          | host hostname =>
              rw [located] at started
              obtain rfl := Except.ok.inj (Prod.mk.inj started).1
              exact asked
          | nowhere =>
              rw [located] at started
              simp at started

theorem sweep_of (s : Service) (rest : List AdhocId) (tornDown : Nat) :
    (s.sweep rest tornDown).1.Of .shutdown := by
  induction rest generalizing s with
  | nil => trivial
  | cons adhoc rest ih =>
      unfold sweep
      cases started : s.startTeardown adhoc (.shutdown rest tornDown) with
      | mk answer s' =>
          cases answer with
          | ok wait => exact startTeardown_of started rfl
          | error e => exact ih s'

theorem endTeardown_of (s : Service) {adhoc : AdhocId} {origin : TeardownOrigin}
    (asked : origin.Of call adhoc) (result : Except ServiceError Unit) :
    (s.endTeardown origin result).1.Of call := by
  cases origin with
  | client => cases result <;> trivial
  | shutdown rest tornDown =>
      obtain rfl : call = .shutdown := asked
      cases result <;> exact s.sweep_of rest _

theorem completeTeardown_of (s : Service) {plan : DeploymentPlan} {origin : TeardownOrigin}
    (asked : origin.Of call plan.id) : (s.completeTeardown plan origin).1.Of call := by
  unfold completeTeardown
  split <;> exact endTeardown_of _ asked _

theorem startDispatch_of (s : Service) (job : JobId) (sources targets : List Dataset)
    (limits : List Limit) (mapping : Mapping) :
    (s.startDispatch job sources targets limits mapping).1.Of
      (.request (.transferDatasets job sources targets limits mapping)) := by
  rw [startDispatch_eq]
  cases s.registry.job job with
  | error e => trivial
  | ok owner =>
      rcases TransferLedger.create_outcome ⟨s.ids, s.transfers⟩ job sources targets limits mapping
        with ⟨e, refused⟩ | ⟨raw, ids, transfer, -, -, rfl, done⟩
      · rw [refused]
        trivial
      · rw [done]
        simp only
        cases s.moverAddress owner with
        | none => trivial
        | some address => rfl

theorem startAwait_of (s : Service) (transfer : TransferId) (timeoutMs : Option UInt64) :
    (s.startAwait transfer timeoutMs).1.Of (.request (.waitTransfer transfer timeoutMs)) := by
  unfold startAwait TransferLedger.watch
  cases s.transfers.entries.get? transfer with
  | none => trivial
  | some entry =>
      simp only
      split
      · trivial
      · exact ⟨timeoutMs, rfl⟩

theorem startFinalize_of (s : Service) (job : JobId) (operation : OperationId) :
    (s.startFinalize job operation).1.Of (.request (.finalizeDataOperation job operation)) := by
  unfold startFinalize
  split
  · trivial
  · split
    · trivial
    · split
      · trivial
      · split
        · trivial
        · rfl

/-- A call that starts comes to a wait for what it was asked to do, if to any. -/
theorem start_of (s : Service) (call : Call) : (s.start call).1.Of call := by
  cases call with
  | shutdown => exact s.sweep_of _ 0
  | request request =>
      cases request with
      -- only these requests ever wait
      | deployAdhocStorage adhoc => exact s.startDeploy_of adhoc
      | terminateAdhocStorage adhoc =>
          simp only [start, startRequest]
          cases started : s.startTeardown adhoc .client with
          | mk answer s' =>
              cases answer with
              | ok wait => exact startTeardown_of started rfl
              | error e => trivial
      | transferDatasets job sources targets limits mapping =>
          exact s.startDispatch_of job sources targets limits mapping
      | cancelTransfer transfer =>
          simp only [start, startRequest, ofLedger]
          split <;> trivial
      | transferUpdate transfer status progress =>
          simp only [start, startRequest, ofLedger]
          split <;> trivial
      | waitTransfer transfer timeoutMs => exact s.startAwait_of transfer timeoutMs
      | finalizeDataOperation job operation => exact s.startFinalize_of job operation
      | _ => trivial

/-- A call that goes on after a wait still does what it was asked to do. -/
theorem resume_of {s : Service} {wait : Waiting} {signal : Signal} {r : CallState × Service}
    (asked : wait.Of call) (resumed : s.resume wait signal = some r) : r.1.Of call := by
  unfold resume at resumed
  split at resumed <;> first
    | obtain rfl := Option.some.inj resumed
    | exact absurd resumed (by simp)
  · exact asked
  · exact s.completeDeploy_of _ _
  · exact s.failDeploy_of _ _
  · exact s.failDeploy_of _ _
  · exact s.failDeploy_of _ _
  · exact s.failDeploy_of _ _
  · exact asked
  · exact s.completeTeardown_of asked
  · exact endTeardown_of _ asked _
  · exact endTeardown_of _ asked _
  · exact endTeardown_of _ asked _
  · exact endTeardown_of _ asked _
  all_goals trivial

end Service

namespace Machine

/-- Each wait is one that the call of its number can come to. -/
structure Traced (calls : List Call) (m : Machine) : Prop where
  started : m.started = calls.length
  waits : ∀ id wait, m.waiting.get? id = some wait →
    ∃ call, calls[id]? = some call ∧ wait.Of call

theorem Step.preserves_traced {m m' : Machine} {event : Event} {calls : List Call}
    (step : Step m event m') (traced : Traced calls m) :
    Traced (calls ++ event.call?.toList) m' := by
  have later : ∀ more id wait, m.waiting.get? id = some wait →
      ∃ call, (calls ++ more)[id]? = some call ∧ wait.Of call := by
    intro more id wait held
    obtain ⟨call, known, asked⟩ := traced.waits id wait held
    exact ⟨call, List.getElem?_append_left (List.getElem?_eq_some_iff.mp known).1 ▸ known, asked⟩
  cases step with
  | started call =>
      refine ⟨?_, ?_⟩
      · simp [settle_started, traced.started, Event.call?]
      · intro id wait held
        rw [settle_waiting] at held
        by_cases same : id = m.started
        · have asked := m.service.start_of call
          rw [if_pos same] at held
          cases state : (m.service.start call).1 with
          | finished outcome => simp [state, CallState.wait?] at held
          | waiting other =>
              rw [state] at held asked
              obtain rfl := Option.some.inj held
              exact ⟨call, by simp [same, traced.started, Event.call?], asked⟩
        · rw [if_neg same] at held
          exact later _ id wait held
  | @resumed _ sender before signal r sent held went =>
      have nothing : event.call? = none := by cases sent <;> rfl
      refine ⟨?_, ?_⟩
      · simp [settle_started, traced.started, nothing]
      · intro id wait now
        rw [settle_waiting] at now
        by_cases same : id = sender
        · obtain ⟨call, known, asked⟩ := later event.call?.toList sender before held
          have goes := Service.resume_of asked went
          rw [if_pos same] at now
          cases state : r.1 with
          | finished outcome => simp [state, CallState.wait?] at now
          | waiting other =>
              rw [state] at now goes
              obtain rfl := Option.some.inj now
              exact ⟨call, same ▸ known, goes⟩
        · rw [if_neg same] at now
          exact later _ id wait now
  | idle nothing deaf =>
      rw [nothing]
      exact ⟨by simp [traced.started], later _⟩

theorem run_preserves_traced {m : Machine} {calls : List Call} (traced : Traced calls m)
    (history : List Event) : Traced (calls ++ Event.calls history) (m.run history) := by
  induction history generalizing m calls with
  | nil => simpa [Event.calls, run] using traced
  | cons event rest ih =>
      have now := ih ((m.step_step event).preserves_traced traced)
      have joined : calls ++ event.call?.toList ++ Event.calls rest =
          calls ++ Event.calls (event :: rest) := by
        rw [List.append_assoc, Event.calls, Event.calls, List.filterMap_cons]
        cases event.call? <;> rfl
      exact joined ▸ now

/-- In every state that a machine reaches, each waiting call waits for what it was asked to do. -/
theorem run_traced (config : ServiceConfig) (history : List Event) :
    Traced (Event.calls history) ((fresh config).run history) := by
  have initial : Traced [] (fresh config) := ⟨rfl, by simp [fresh]⟩
  exact run_preserves_traced initial history

end Machine

end StorageBroker
