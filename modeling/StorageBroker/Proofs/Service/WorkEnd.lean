import StorageBroker.Proofs.Registry.InFlight
import StorageBroker.Proofs.Service.Handover
import StorageBroker.Service.Collaborator

/-! # How the work of a controller ends

Work that a controller is asked for ends in one of two ways. It is done, and the registry records
what the controller has answered, or it fails, and the storage is left as it was found: the same
work can be begun again at once. Nothing but the deployment of that one storage is written on the
way. -/

set_option autoImplicit false

namespace StorageBroker

namespace Work

/-- The request that a client asks for work with. -/
def request : Work → Request
  | .deploy plan => .deployAdhocStorage plan.id
  | .teardown plan => .terminateAdhocStorage plan.id

/-- What the client is told once a controller has done the work and answered with a text. -/
def reply (text : String) : Work → Reply
  | .deploy _ => .mountPath text
  | .teardown _ => .empty

/-- The deployment of the storage once a controller has done the work and answered with a text. -/
def result (text : String) : Work → Deployment
  | .deploy _ => .deployed text
  | .teardown _ => .undeployed

/-- What the client is told when the work takes too long. -/
def overdue (afterMs : Nat) : Work → ServiceError
  | .deploy plan => .timeout (.deployment plan.id) afterMs
  | .teardown plan => .timeout (.teardown plan.id) afterMs

end Work

/-! ## What a controller reports -/

/-- A collaborator has done what it was asked for if its response is a success with a reply that can
be read. -/
theorem Request.told_eq_ok {request : Request} {response : Response} {text : String} :
    request.told (.ok response) = .ok text ↔
      response.code = .success ∧ request.read response.reply = .ok text := by
  simp only [told, Except.bind, Response.outcome]
  by_cases succeeds : response.code = .success <;> simp [succeeds]

namespace DeploymentPlan

variable {plan : DeploymentPlan} {response : Response}

theorem told_deployRequest {path : String} : plan.deployRequest.told (.ok response) = .ok path ↔
    response.code = .success ∧ response.reply = .mountPath path := by
  rw [Request.told_eq_ok]
  cases response.reply <;> simp [deployRequest, Request.read, Reply.expectMountPath]

theorem told_terminateRequest : (∃ text, plan.terminateRequest.told (.ok response) = .ok text) ↔
    response.code = .success ∧ response.reply = .empty := by
  simp only [Request.told_eq_ok, exists_and_left]
  cases response.reply <;>
    simp [terminateRequest, Request.read, Reply.expectEmpty, Except.map]

end DeploymentPlan

/-- A wait for the controller that is to do the work; a teardown may be asked for by a client or by
a shutdown. -/
inductive Waiting.Awaits (origin : TeardownOrigin) : Work → Waiting → Prop
  | locatingForDeploy (plan : DeploymentPlan) (hostname : String) :
      Awaits origin (.deploy plan) (.locatingForDeploy plan hostname)
  | deploying (plan : DeploymentPlan) (address : String) :
      Awaits origin (.deploy plan) (.deploying plan address)
  | locatingForTeardown (plan : DeploymentPlan) (hostname : String) :
      Awaits origin (.teardown plan) (.locatingForTeardown plan hostname origin)
  | tearingDown (plan : DeploymentPlan) (address : String) :
      Awaits origin (.teardown plan) (.tearingDown plan address origin)

namespace Waiting.Awaits

variable {origin : TeardownOrigin} {work : Work} {wait : Waiting}

theorem work?_eq (awaits : wait.Awaits origin work) : wait.work? = some work := by
  cases awaits <;> rfl

theorem transfer?_eq (awaits : wait.Awaits origin work) : wait.transfer? = none := by
  cases awaits <;> rfl

theorem of_asked {adhoc : AdhocId} (asked : wait.Of (.request (.deployAdhocStorage adhoc)) ∨
      wait.Of (.request (.terminateAdhocStorage adhoc))) :
    ∃ work : Work, work.storage = adhoc ∧ wait.Awaits .client work := by
  cases wait with
  | locatingForDeploy plan hostname =>
      obtain same | same := asked <;> cases same
      exact ⟨_, rfl, .locatingForDeploy plan hostname⟩
  | deploying plan address =>
      obtain same | same := asked <;> cases same
      exact ⟨_, rfl, .deploying plan address⟩
  | locatingForTeardown plan hostname origin =>
      cases origin <;> obtain same | same := asked <;> cases same
      exact ⟨_, rfl, .locatingForTeardown plan hostname⟩
  | tearingDown plan address origin =>
      cases origin <;> obtain same | same := asked <;> cases same
      exact ⟨_, rfl, .tearingDown plan address⟩
  | dispatching transfer address => obtain same | same := asked <;> cases same
  | awaiting transfer budgetMs => obtain ⟨_, same⟩ | ⟨_, same⟩ := asked <;> cases same
  | finalizing job operation transfer => obtain same | same := asked <;> cases same

end Waiting.Awaits

namespace Registry

/-- How far the deployment of a storage has come, if it is registered. -/
def deployment? (r : Registry) (id : AdhocId) : Option Deployment :=
  (r.adhoc.get? id).map AdhocEntry.deployment

/-- The work can be begun now, with the plan that it has. -/
def Begins (r : Registry) : Work → Prop
  | .deploy plan => (r.beginDeploy plan.id).1 = .ok plan
  | .teardown plan => (r.beginTeardown plan.id).1 = .ok plan

variable {r : Registry} {plan : DeploymentPlan}

theorem deployment?_setDeployment (r : Registry) (id : AdhocId) (entry : AdhocEntry)
    (deployment : Deployment) :
    (r.setDeployment id entry deployment).deployment? id = some deployment := by
  simp [deployment?, setDeployment]

/-- A mark that is taken back at once leaves nothing behind. -/
theorem setDeployment_cancel {id : AdhocId} {entry : AdhocEntry}
    (found : r.adhoc.get? id = some entry) (marked : Deployment) :
    (r.setDeployment id entry marked).setDeployment id { entry with deployment := marked }
      entry.deployment = r := by
  unfold setDeployment
  rw [Table.insert_insert_cancel _ found]

theorem mount?_of_deployment {id : AdhocId} {deployment : Deployment}
    (stands : r.deployment? id = some deployment) : r.mount? id = some deployment.mountPath? := by
  obtain ⟨entry, found, rfl⟩ := Option.map_eq_some_iff.mp stands
  rw [mount?, found, Option.map_some]

theorem begins_deploy : r.Begins (.deploy plan) ↔ ∃ entry, r.adhoc.get? plan.id = some entry ∧
    entry.deployment = .undeployed ∧ plan = entry.plan plan.id none := by
  constructor
  · intro begins
    replace begins : (r.beginDeploy plan.id).1 = .ok plan := begins
    rcases r.beginDeploy_outcome plan.id with ⟨e, refused⟩ | ⟨entry, found, state, done⟩
    · rw [refused] at begins
      exact absurd begins (by simp)
    · rw [done] at begins
      exact ⟨entry, found, state, (Except.ok.inj begins).symm⟩
  · rintro ⟨entry, found, state, same⟩
    simp only [Begins, beginDeploy, found, state]
    exact congrArg Except.ok same.symm

theorem begins_teardown : r.Begins (.teardown plan) ↔ ∃ entry path,
    r.adhoc.get? plan.id = some entry ∧ entry.deployment = .deployed path ∧
      plan = entry.plan plan.id (some path) := by
  constructor
  · intro begins
    replace begins : (r.beginTeardown plan.id).1 = .ok plan := begins
    rcases r.beginTeardown_outcome plan.id with ⟨e, refused⟩ | ⟨entry, path, found, state, done⟩
    · rw [refused] at begins
      exact absurd begins (by simp)
    · rw [done] at begins
      exact ⟨entry, path, found, state, (Except.ok.inj begins).symm⟩
  · rintro ⟨entry, path, found, state, same⟩
    simp only [Begins, beginTeardown, found, state]
    exact congrArg Except.ok same.symm

theorem begins_of_beginDeploy {id : AdhocId} (granted : (r.beginDeploy id).1 = .ok plan) :
    plan.id = id ∧ r.Begins (.deploy plan) := by
  obtain ⟨rfl, -, -⟩ := beginDeploy_ok (Prod.ext granted rfl)
  exact ⟨rfl, granted⟩

theorem begins_of_beginTeardown {id : AdhocId} (granted : (r.beginTeardown id).1 = .ok plan) :
    plan.id = id ∧ r.Begins (.teardown plan) := by
  obtain ⟨rfl, -, -⟩ := beginTeardown_ok (Prod.ext granted rfl)
  exact ⟨rfl, granted⟩

/-- A storage that can be deployed is undeployed. -/
theorem deployment?_of_begins_deploy (begins : r.Begins (.deploy plan)) :
    r.deployment? plan.id = some .undeployed := by
  obtain ⟨entry, found, state, -⟩ := begins_deploy.mp begins
  rw [deployment?, found, Option.map_some, state]

/-- A storage that can be torn down is deployed, with the mount path of the plan. -/
theorem deployment?_of_begins_teardown (begins : r.Begins (.teardown plan)) {path : String}
    (mounted : plan.mountPath = some path) : r.deployment? plan.id = some (.deployed path) := by
  obtain ⟨entry, other, found, state, same⟩ := begins_teardown.mp begins
  rw [same] at mounted
  obtain rfl := Option.some.inj mounted
  rw [deployment?, found, Option.map_some, state]

end Registry

namespace Service

/-- Nothing is written but the deployment of one storage. -/
inductive Redeploys (s : Service) (adhoc : AdhocId) : Service → Prop
  | same : Redeploys s adhoc s
  | set {entry : AdhocEntry} (found : s.registry.adhoc.get? adhoc = some entry)
      (deployment : Deployment) :
      Redeploys s adhoc { s with registry := s.registry.setDeployment adhoc entry deployment }

/-- How work in hand ends: undone, and it can be begun again, or done, and recorded as the
controller has answered it. -/
inductive Ends (s : Service) (work : Work) : Except ServiceError String → Service → Prop
  | undone (e : ServiceError) {s' : Service} (only : s.Redeploys work.storage s')
      (again : s'.registry.Begins work) : Ends s work (.error e) s'
  | done (text : String) {s' : Service} (only : s.Redeploys work.storage s')
      (recorded : s'.registry.deployment? work.storage = some (work.result text)) :
      Ends s work (.ok text) s'

def conclude (s : Service) (origin : TeardownOrigin) :
    Work → Except ServiceError String → CallState × Service
  | .deploy _, result => (.ofResult (result.map .mountPath), s)
  | .teardown _, result => s.endTeardown origin (result.map fun _ => ())

theorem Ends.redeploys {s s' : Service} {work : Work} {result : Except ServiceError String}
    (ends : s.Ends work result s') : s.Redeploys work.storage s' := by
  cases ends <;> assumption

theorem conclude_client (s : Service) (work : Work) (result : Except ServiceError String) :
    s.conclude .client work result = (.ofResult (result.map fun text => work.reply text), s) := by
  cases work <;> cases result <;> rfl

/-! ## The ends of work in hand -/

section

variable {s : Service} {plan : DeploymentPlan}

theorem failDeploy_undone (held : s.registry.inFlight? plan.id = some (.deploy plan))
    (origin : TeardownOrigin) (e : ServiceError) :
    ∃ s', s.failDeploy plan e = s'.conclude origin (.deploy plan) (.error e) ∧
      s.Ends (.deploy plan) (.error e) s' := by
  obtain ⟨entry, found, state, same⟩ := Registry.inFlight?_eq_deploy.mp held
  refine ⟨{ s with registry := s.registry.setDeployment plan.id entry .undeployed }, ?_,
    .undone e (.set found _) (Registry.begins_deploy.mpr ⟨{ entry with deployment := .undeployed },
      by simp [Registry.setDeployment], rfl, same⟩)⟩
  simp only [failDeploy, Registry.abortDeploy, found, state]
  rfl

theorem completeDeploy_done (held : s.registry.inFlight? plan.id = some (.deploy plan))
    (origin : TeardownOrigin) (path : String) :
    ∃ s', s.completeDeploy plan path = s'.conclude origin (.deploy plan) (.ok path) ∧
      s.Ends (.deploy plan) (.ok path) s' := by
  obtain ⟨entry, found, state, -⟩ := Registry.inFlight?_eq_deploy.mp held
  refine ⟨{ s with registry := s.registry.setDeployment plan.id entry (.deployed path) }, ?_,
    .done path (.set found _) (Registry.deployment?_setDeployment _ _ _ _)⟩
  simp only [completeDeploy, Registry.completeDeploy, found, state]
  rfl

theorem failTeardown_undone (held : s.registry.inFlight? plan.id = some (.teardown plan))
    (origin : TeardownOrigin) (e : ServiceError) :
    ∃ s', s.failTeardown plan origin e = s'.conclude origin (.teardown plan) (.error e) ∧
      s.Ends (.teardown plan) (.error e) s' := by
  obtain ⟨entry, path, found, state, same⟩ := Registry.inFlight?_eq_teardown.mp held
  refine ⟨{ s with registry := s.registry.setDeployment plan.id entry (.deployed path) }, ?_,
    .undone e (.set found _) (Registry.begins_teardown.mpr
      ⟨{ entry with deployment := .deployed path }, path,
        by simp [Registry.setDeployment], rfl, same⟩)⟩
  simp only [failTeardown, undoTeardown, Registry.abortTeardown, found, state]
  rfl

theorem completeTeardown_done (held : s.registry.inFlight? plan.id = some (.teardown plan))
    (origin : TeardownOrigin) (text : String) :
    ∃ s', s.completeTeardown plan origin = s'.conclude origin (.teardown plan) (.ok text) ∧
      s.Ends (.teardown plan) (.ok text) s' := by
  obtain ⟨entry, path, found, state, -⟩ := Registry.inFlight?_eq_teardown.mp held
  refine ⟨{ s with registry := s.registry.setDeployment plan.id entry .undeployed }, ?_,
    .done text (.set found _) (Registry.deployment?_setDeployment _ _ _ _)⟩
  simp only [completeTeardown, Registry.completeTeardown, found, state]
  rfl

end

/-- Running on, a call that waits for a controller turns from the search for its address to the
controller itself, or its work ends. Only the answer of the controller gets it done. -/
theorem resume_of_awaits {s : Service} {origin : TeardownOrigin} {work : Work} {wait : Waiting}
    {signal : Signal} {r : CallState × Service} (awaits : wait.Awaits origin work)
    (held : s.registry.inFlight? work.storage = some work)
    (resumed : s.resume wait signal = some r) :
    (∃ later : Waiting, r = (.waiting later, s) ∧ later.Awaits origin work) ∨
    ∃ result s', r = s'.conclude origin work result ∧ s.Ends work result s' ∧
      ∀ text, result = .ok text → signal = .answered (.ok text) ∧ wait.isLocating = false := by
  have undone : ∀ {e}, (∃ s', r = s'.conclude origin work (.error e) ∧
      s.Ends work (.error e) s') → ∃ result s', r = s'.conclude origin work result ∧
        s.Ends work result s' ∧
        ∀ text, result = .ok text → signal = .answered (.ok text) ∧ wait.isLocating = false := by
    rintro e ⟨s', went, ends⟩
    exact ⟨_, s', went, ends, fun text same => absurd same (by simp)⟩
  have done : ∀ {text}, signal = .answered (.ok text) → wait.isLocating = false →
      (∃ s', r = s'.conclude origin work (.ok text) ∧ s.Ends work (.ok text) s') →
      ∃ result s', r = s'.conclude origin work result ∧ s.Ends work result s' ∧
        ∀ text, result = .ok text → signal = .answered (.ok text) ∧ wait.isLocating = false := by
    rintro text answered asking ⟨s', went, ends⟩
    refine ⟨_, s', went, ends, fun other same => ?_⟩
    rw [← Except.ok.inj same]
    exact ⟨answered, asking⟩
  unfold resume at resumed
  split at resumed <;> first
    | obtain rfl := Option.some.inj resumed
    | exact absurd resumed (by simp)
  -- one case for each line of the definition, in its order; the other kind of work drops out
  all_goals cases awaits
  · exact .inl ⟨_, rfl, .deploying _ _⟩
  · exact .inr (done rfl rfl (completeDeploy_done held origin _))
  · exact .inr (undone (failDeploy_undone held origin _))
  · exact .inr (undone (failDeploy_undone held origin _))
  · exact .inr (undone (failDeploy_undone held origin _))
  · exact .inr (undone (failDeploy_undone held origin _))
  · exact .inl ⟨_, rfl, .tearingDown _ _⟩
  · exact .inr (done rfl rfl (completeTeardown_done held origin _))
  · exact .inr (undone (failTeardown_undone held origin _))
  · exact .inr (undone (failTeardown_undone held origin _))
  · exact .inr (undone (failTeardown_undone held origin _))
  · exact .inr (undone (failTeardown_undone held origin _))

/-- An error and a timeout end the work that a call waits for. -/
theorem resume_fails_of_awaits {s : Service} {origin : TeardownOrigin} {work : Work}
    {wait : Waiting} (awaits : wait.Awaits origin work)
    (held : s.registry.inFlight? work.storage = some work) :
    (∀ e, ∃ s' : Service, s.resume wait (.answered (.error e)) =
      some (s'.conclude origin work (.error (.net e)))) ∧
    ∃ s' : Service, s.resume wait .expired =
      some (s'.conclude origin work (.error (work.overdue s.config.controllerMs))) := by
  cases awaits with
  | locatingForDeploy plan _ | deploying plan _ =>
      have fails : ∀ e, ∃ s', some (s.failDeploy plan e) =
          some (conclude s' origin (.deploy plan) (.error e)) :=
        fun e => (failDeploy_undone held origin e).imp fun _ undone => congrArg some undone.1
      exact ⟨fun e => fails (.net e), fails _⟩
  | locatingForTeardown plan _ | tearingDown plan _ =>
      have fails : ∀ e, ∃ s', some (s.failTeardown plan origin e) =
          some (conclude s' origin (.teardown plan) (.error e)) :=
        fun e => (failTeardown_undone held origin e).imp fun _ undone => congrArg some undone.1
      exact ⟨fun e => fails (.net e), fails _⟩

/-! ## The start of work -/

theorem startDeploy_of_begins {s : Service} {plan : DeploymentPlan}
    (begins : s.registry.Begins (.deploy plan)) :
    s.startDeploy plan.id = (.failed (.noController plan.id), s) ∨
    ∃ wait s', s.startDeploy plan.id = (.waiting wait, s') ∧
      wait.Awaits .client (.deploy plan) ∧ s.Redeploys plan.id s' := by
  obtain ⟨entry, found, state, same⟩ := Registry.begins_deploy.mp begins
  have begun : s.registry.beginDeploy plan.id =
      (.ok plan, s.registry.setDeployment plan.id entry .deploying) := by
    simp only [Registry.beginDeploy, found, state, ← same]
  unfold startDeploy
  rw [begun]
  simp only
  cases plan.location with
  | address address => exact .inr ⟨_, _, rfl, .deploying plan address, .set found _⟩
  | host hostname => exact .inr ⟨_, _, rfl, .locatingForDeploy plan hostname, .set found _⟩
  | nowhere =>
      left
      have back := Registry.setDeployment_cancel found .deploying
      rw [state] at back
      have marked : (s.registry.setDeployment plan.id entry .deploying).adhoc.get? plan.id =
          some { entry with deployment := .deploying } := by simp [Registry.setDeployment]
      simp only [failDeploy, Registry.abortDeploy, marked, back]

/-- The service while a storage is being torn down. -/
def tearingDown (s : Service) (id : AdhocId) (entry : AdhocEntry) (path : String) : Service :=
  { s with registry := s.registry.setDeployment id entry (.tearingDown path) }

section

variable {s : Service} {plan : DeploymentPlan} {entry : AdhocEntry} {path : String}
  (found : s.registry.adhoc.get? plan.id = some entry)
  (state : entry.deployment = .deployed path)
include found state

theorem beginTeardown_tearingDown (same : plan = entry.plan plan.id (some path)) :
    s.registry.beginTeardown plan.id =
      (.ok plan, (s.tearingDown plan.id entry path).registry) := by
  simp only [Registry.beginTeardown, found, state, ← same, tearingDown]

/-- A teardown that is taken back at once leaves nothing behind. -/
theorem undoTeardown_tearingDown (e : ServiceError) :
    (s.tearingDown plan.id entry path).undoTeardown plan e = (e, s) := by
  have marked : (s.registry.setDeployment plan.id entry (.tearingDown path)).adhoc.get? plan.id =
      some { entry with deployment := .tearingDown path } := by simp [Registry.setDeployment]
  have back := Registry.setDeployment_cancel found (.tearingDown path)
  rw [state] at back
  simp only [undoTeardown, tearingDown, Registry.abortTeardown, marked, back]

end

theorem startTeardown_of_begins {s : Service} {plan : DeploymentPlan}
    (begins : s.registry.Begins (.teardown plan)) (origin : TeardownOrigin) :
    s.startTeardown plan.id origin = (.error (.noController plan.id), s) ∨
    ∃ wait s', s.startTeardown plan.id origin = (.ok wait, s') ∧
      wait.Awaits origin (.teardown plan) ∧ s.Redeploys plan.id s' := by
  obtain ⟨entry, path, found, state, same⟩ := Registry.begins_teardown.mp begins
  unfold startTeardown
  rw [beginTeardown_tearingDown found state same]
  simp only
  cases plan.location with
  | address address => exact .inr ⟨_, _, rfl, .tearingDown plan address, .set found _⟩
  | host hostname => exact .inr ⟨_, _, rfl, .locatingForTeardown plan hostname, .set found _⟩
  | nowhere =>
      left
      have undone := undoTeardown_tearingDown found state (.noController plan.id)
      rw [tearingDown] at undone
      simp only [tearingDown, undone]

/-- A client whose work can be begun waits for a controller, or there is none and nothing has
happened. -/
theorem startRequest_of_begins {s : Service} {work : Work} (begins : s.registry.Begins work) :
    s.startRequest work.request = (.failed (.noController work.storage), s) ∨
    ∃ wait s', s.startRequest work.request = (.waiting wait, s') ∧
      wait.Awaits .client work ∧ s.Redeploys work.storage s' := by
  cases work with
  | deploy plan => exact startDeploy_of_begins begins
  | teardown plan =>
      simp only [Work.request, startRequest]
      rcases startTeardown_of_begins begins .client with nowhere | ⟨wait, s', went, awaits, only⟩
      · left
        rw [nowhere]
        rfl
      · right
        rw [went]
        exact ⟨wait, s', rfl, awaits, only⟩

theorem startDeploy_redeploys (s : Service) (adhoc : AdhocId) :
    s.Redeploys adhoc (s.startDeploy adhoc).2 := by
  cases begun : s.registry.beginDeploy adhoc with
  | mk answer r =>
      cases answer with
      | error e =>
          obtain rfl := Registry.beginDeploy_error begun
          rw [startDeploy, begun]
          exact .same
      | ok plan =>
          obtain ⟨rfl, begins⟩ := Registry.begins_of_beginDeploy (congrArg Prod.fst begun)
          rcases startDeploy_of_begins begins with nowhere | ⟨wait, s', went, -, only⟩
          · rw [nowhere]
            exact .same
          · rwa [went]

theorem startTeardown_redeploys (s : Service) (adhoc : AdhocId) (origin : TeardownOrigin) :
    s.Redeploys adhoc (s.startTeardown adhoc origin).2 := by
  cases begun : s.registry.beginTeardown adhoc with
  | mk answer r =>
      cases answer with
      | error e =>
          obtain rfl := Registry.beginTeardown_error begun
          rw [startTeardown, begun]
          exact .same
      | ok plan =>
          obtain ⟨rfl, begins⟩ := Registry.begins_of_beginTeardown (congrArg Prod.fst begun)
          rcases startTeardown_of_begins begins origin with nowhere | ⟨wait, s', went, -, only⟩
          · rw [nowhere]
            exact .same
          · rwa [went]

end Service

end StorageBroker
