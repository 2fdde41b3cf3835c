import Mathlib.Logic.ExistsUnique
import StorageBroker.Proofs.Service.MountRecord

/-! # One controller at a time

Put together: a storage is being deployed exactly when one deployment call waits, and it is being
torn down exactly when one teardown call waits. That call can always end, and what the calls of one
storage record alternates. -/

set_option autoImplicit false

namespace StorageBroker

def Work.Of (call : Call) : Work → Prop
  | .deploy plan => call = .request (.deployAdhocStorage plan.id)
  | .teardown plan => call = .request (.terminateAdhocStorage plan.id) ∨ call = .shutdown

/-- The plan tells a controller what the registry says about the storage. -/
def DeploymentPlan.Describes (plan : DeploymentPlan) (entry : AdhocEntry) : Prop :=
  plan.kind = entry.kind ∧ plan.context = entry.context ∧ plan.resources = entry.resources

theorem Waiting.work_of {call : Call} {wait : Waiting} {work : Work} (asked : wait.Of call)
    (works : wait.work? = some work) : work.Of call := by
  have teardown : ∀ {plan : DeploymentPlan} {origin : TeardownOrigin},
      origin.Of call plan.id → Work.Of call (.teardown plan) := by
    intro plan origin asked
    cases origin with
    | client => exact .inl asked
    | shutdown rest tornDown => exact .inr asked
  cases wait with
  | locatingForDeploy plan hostname | deploying plan address =>
      obtain rfl := Option.some.inj works
      exact asked
  | locatingForTeardown plan hostname origin | tearingDown plan address origin =>
      obtain rfl := Option.some.inj works
      exact teardown asked
  | dispatching transfer address | awaiting transfer budgetMs
  | finalizing job operation transfer => exact absurd works (by simp [work?])

namespace Machine

/-- A call waits with the deployment of a storage in hand. -/
def Deploys (m : Machine) (id : Nat) (adhoc : AdhocId) : Prop :=
  ∃ plan, m.work? id = some (.deploy plan) ∧ plan.id = adhoc

/-- A call waits with the teardown of a storage in hand. -/
def TearsDown (m : Machine) (id : Nat) (adhoc : AdhocId) : Prop :=
  ∃ plan, m.work? id = some (.teardown plan) ∧ plan.id = adhoc

variable {m : Machine} (inHand : InHand m)
include inHand

theorem deploying_iff (adhoc : AdhocId) :
    (∃ entry, m.service.registry.adhoc.get? adhoc = some entry ∧
      entry.deployment = .deploying) ↔ ∃! id, m.Deploys id adhoc := by
  constructor
  · rintro ⟨entry, found, state⟩
    have shown := Registry.inFlight?_eq_deploy.mpr ⟨entry, found, state, rfl⟩
    obtain ⟨id, works⟩ := inHand.owned adhoc _ shown
    refine ⟨id, ⟨_, works, rfl⟩, ?_⟩
    rintro other ⟨plan, rivals, same⟩
    exact inHand.single other id _ _ rivals works same
  · rintro ⟨id, ⟨plan, works, rfl⟩, -⟩
    obtain ⟨entry, found, state, -⟩ :=
      Registry.inFlight?_eq_deploy.mp (inHand.held id _ works)
    exact ⟨entry, found, state⟩

theorem tearingDown_iff (adhoc : AdhocId) :
    (∃ entry path, m.service.registry.adhoc.get? adhoc = some entry ∧
      entry.deployment = .tearingDown path) ↔ ∃! id, m.TearsDown id adhoc := by
  constructor
  · rintro ⟨entry, path, found, state⟩
    have shown := Registry.inFlight?_eq_teardown.mpr ⟨entry, path, found, state, rfl⟩
    obtain ⟨id, works⟩ := inHand.owned adhoc _ shown
    refine ⟨id, ⟨_, works, rfl⟩, ?_⟩
    rintro other ⟨plan, rivals, same⟩
    exact inHand.single other id _ _ rivals works same
  · rintro ⟨id, ⟨plan, works, rfl⟩, -⟩
    obtain ⟨entry, path, found, state, -⟩ :=
      Registry.inFlight?_eq_teardown.mp (inHand.held id _ works)
    exact ⟨entry, path, found, state⟩

/-- A storage is not deployed and torn down at once, not even by one call. -/
theorem deploys_not_tearsDown {id other : Nat} {adhoc : AdhocId} (deploys : m.Deploys id adhoc) :
    ¬ m.TearsDown other adhoc := by
  rintro ⟨rival, rivals, same⟩
  obtain ⟨plan, works, rfl⟩ := deploys
  have shown := inHand.held id _ works
  have other := inHand.held other _ rivals
  simp only [Work.storage, Work.plan] at shown other
  rw [same, shown] at other
  exact absurd other (by simp)

/-- While a controller works on a storage, the storage stays as its plan describes it. -/
theorem described (id : Nat) (work : Work) (works : m.work? id = some work) :
    ∃ entry, m.service.registry.adhoc.get? work.storage = some entry ∧
      work.plan.Describes entry := by
  have shown := inHand.held id work works
  cases work with
  | deploy plan =>
      obtain ⟨entry, found, -, same⟩ := Registry.inFlight?_eq_deploy.mp shown
      exact ⟨entry, found, by rw [same]; exact ⟨rfl, rfl, rfl⟩⟩
  | teardown plan =>
      obtain ⟨entry, path, found, -, same⟩ := Registry.inFlight?_eq_teardown.mp shown
      exact ⟨entry, found, by rw [same]; exact ⟨rfl, rfl, rfl⟩⟩

/-- The answer of a controller that has deployed a storage ends the call with success, and the
storage has the mount path. -/
theorem deploy_answered {id : Nat} {plan : DeploymentPlan} {address : String} (path : String)
    (waits : m.waiting.get? id = some (.deploying plan address)) :
    (m.step (.answer id (.ok path))).outcome? id = some (.reply (.ok (.mountPath path))) ∧
    (m.step (.answer id (.ok path))).service.registry.mount? plan.id = some (some path) := by
  have held : m.service.registry.inFlight? plan.id = some (.deploy plan) :=
    inHand.held id (.deploy plan) (by rw [work?, waits]; rfl)
  have stepped : m.step (.answer id (.ok path)) =
      m.settle id (m.service.completeDeploy plan path) := by
    simp only [step, Machine.signal, waits, Option.bind_some, Service.resume]
  rw [stepped, settle_outcome?, if_pos rfl, settle_service]
  refine ⟨by rw [(Service.completeDeploy_spec path held).1]; rfl, ?_⟩
  obtain ⟨storage, r', completed, -, -, set⟩ := Registry.completeDeploy_ok held path
  unfold Service.completeDeploy
  rw [completed]
  exact (set plan.id).trans (if_pos rfl)

/-- The answer of a controller that has torn a storage down for a client ends the call with success,
and the storage has no mount path. -/
theorem teardown_answered {id : Nat} {plan : DeploymentPlan} {address : String} (text : String)
    (waits : m.waiting.get? id = some (.tearingDown plan address .client)) :
    (m.step (.answer id (.ok text))).outcome? id = some (.reply (.ok .empty)) ∧
    (m.step (.answer id (.ok text))).service.registry.mount? plan.id = some none := by
  have held : m.service.registry.inFlight? plan.id = some (.teardown plan) :=
    inHand.held id (.teardown plan) (by rw [work?, waits]; rfl)
  have stepped : m.step (.answer id (.ok text)) =
      m.settle id (m.service.completeTeardown plan .client) := by
    simp only [step, Machine.signal, waits, Option.bind_some, Service.resume]
  obtain ⟨storage, r', completed, -, -, set⟩ := Registry.completeTeardown_ok held
  rw [stepped, settle_outcome?, if_pos rfl, settle_service]
  unfold Service.completeTeardown
  rw [completed]
  exact ⟨rfl, (set plan.id).trans (if_pos rfl)⟩

omit inHand

/-- At every moment of every run, however its calls interleave:

* a storage is being deployed exactly when one deployment call waits, it is being torn down exactly
  when one teardown call waits, and it is never both;
* while a call waits, the storage stays registered and is as the plan of the call describes it, and
  the call is the one of its number in the history;
* the operations that end a deployment or a teardown succeed, also for one that finds no controller
  and is taken back at once, and the success of a controller reaches the client and the registry;
* the recorded deployments and teardowns of a storage alternate, a deployment first, and the last of
  them is the mount path that the registry shows. -/
theorem one_controller_at_a_time (config : ServiceConfig) (history : List Event) :
    let m := (fresh config).run history
    let r := m.service.registry
    ((∀ adhoc, (∃ entry, r.adhoc.get? adhoc = some entry ∧ entry.deployment = .deploying) ↔
        ∃! id, m.Deploys id adhoc) ∧
      (∀ adhoc, (∃ entry path, r.adhoc.get? adhoc = some entry ∧
        entry.deployment = .tearingDown path) ↔ ∃! id, m.TearsDown id adhoc) ∧
      ∀ adhoc id other, ¬ (m.Deploys id adhoc ∧ m.TearsDown other adhoc)) ∧
    (∀ id work, m.work? id = some work →
      (∃ entry, r.adhoc.get? work.storage = some entry ∧ work.plan.Describes entry) ∧
      ∃ call, (Event.calls history)[id]? = some call ∧ work.Of call) ∧
    ((∀ id plan, m.work? id = some (.deploy plan) →
        (∀ path, ∃ storage r', r.completeDeploy plan.id path = (.ok storage, r')) ∧
        ∃ r', r.abortDeploy plan.id = (.ok (), r')) ∧
      (∀ id plan, m.work? id = some (.teardown plan) →
        (∃ storage r', r.completeTeardown plan.id = (.ok storage, r')) ∧
        ∃ r', r.abortTeardown plan.id = (.ok (), r')) ∧
      (∀ (before begun : Registry) adhoc plan, before.beginDeploy adhoc = (.ok plan, begun) →
        ∃ r', begun.abortDeploy plan.id = (.ok (), r')) ∧
      (∀ (before begun : Registry) adhoc plan, before.beginTeardown adhoc = (.ok plan, begun) →
        ∃ r', begun.abortTeardown plan.id = (.ok (), r')) ∧
      (∀ id plan address path, m.waiting.get? id = some (.deploying plan address) →
        let after := m.step (.answer id (.ok path))
        after.outcome? id = some (.reply (.ok (.mountPath path))) ∧
        after.service.registry.mount? plan.id = some (some path)) ∧
      ∀ id plan address text, m.waiting.get? id = some (.tearingDown plan address .client) →
        let after := m.step (.answer id (.ok text))
        after.outcome? id = some (.reply (.ok .empty)) ∧
        after.service.registry.mount? plan.id = some none) ∧
    ∀ adhoc,
      Alternates (MountRecord.pathsOf adhoc ((fresh config).records history)) ∧
      ∀ path, r.mount? adhoc = some path →
        path = (MountRecord.pathsOf adhoc ((fresh config).records history)).getLast?.join := by
  intro m r
  have inHand : InHand m := run_inHand config history
  have traced : Traced (Event.calls history) m := run_traced config history
  have faithful : Faithful ((fresh config).records history) m := run_faithful config history
  refine ⟨⟨deploying_iff inHand, tearingDown_iff inHand, ?_⟩, ?_, ⟨?_, ?_, ?_, ?_, ?_, ?_⟩, ?_⟩
  · rintro adhoc id other ⟨deploys, tearsDown⟩
    exact deploys_not_tearsDown inHand deploys tearsDown
  · intro id work works
    refine ⟨described inHand id work works, ?_⟩
    obtain ⟨wait, waits, does⟩ := Option.bind_eq_some_iff.mp works
    obtain ⟨call, known, asked⟩ := traced.waits id wait waits
    exact ⟨call, known, Waiting.work_of asked does⟩
  · intro id plan works
    have held := inHand.held id _ works
    refine ⟨fun path => ?_, ?_⟩
    · obtain ⟨storage, r', completed, -⟩ := Registry.completeDeploy_ok held path
      exact ⟨storage, r', completed⟩
    · obtain ⟨r', undone, -⟩ := Registry.abortDeploy_ok held
      exact ⟨r', undone⟩
  · intro id plan works
    have held := inHand.held id _ works
    refine ⟨?_, ?_⟩
    · obtain ⟨storage, r', completed, -⟩ := Registry.completeTeardown_ok held
      exact ⟨storage, r', completed⟩
    · obtain ⟨r', undone, -⟩ := Registry.abortTeardown_ok held
      exact ⟨r', undone⟩
  · intro before begun adhoc plan began
    obtain ⟨rfl, -, hands⟩ := Registry.beginDeploy_ok began
    obtain ⟨r', undone, -⟩ := Registry.abortDeploy_ok ((hands plan.id).trans (if_pos rfl))
    exact ⟨r', undone⟩
  · intro before begun adhoc plan began
    obtain ⟨rfl, -, hands⟩ := Registry.beginTeardown_ok began
    obtain ⟨r', undone, -⟩ := Registry.abortTeardown_ok ((hands plan.id).trans (if_pos rfl))
    exact ⟨r', undone⟩
  · intro id plan address path waits
    exact deploy_answered inHand path waits
  · intro id plan address text waits
    exact teardown_answered inHand text waits
  · intro adhoc
    exact ⟨faithful.alternates adhoc, faithful.current adhoc⟩

end Machine

end StorageBroker
