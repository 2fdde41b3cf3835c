import StorageBroker.Registry.Deployment

/-! # Registry operations as data

One constructor per operation, one answer type, and the function that carries an operation out.
A history of the registry is a list of operations. -/

set_option autoImplicit false

namespace StorageBroker.Registry

inductive Operation
  | registerJob (slurmId : UInt64) (resources : JobResources) (requirements : JobRequirements)
  | updateJob (job : JobId) (resources : JobResources) (requirements : Option JobRequirements)
  | removeJob (job : JobId)
  | job (job : JobId)
  | jobBySlurmId (slurmId : UInt64)
  | registerAdhoc (name : String) (kind : AdhocKind) (context : AdhocContext)
      (resources : AdhocResources)
  | updateAdhoc (adhoc : AdhocId) (context : AdhocContext) (caller : Option JobId)
  | removeAdhoc (adhoc : AdhocId) (caller : Option JobId)
  | adhoc (adhoc : AdhocId)
  | registerPfs (name : String) (kind : PfsKind) (context : PfsContext)
  | updatePfs (pfs : PfsId) (context : PfsContext)
  | removePfs (pfs : PfsId)
  | pfs (pfs : PfsId)
  | storage (raw : UInt64)
  | bind (adhoc : AdhocId) (job : JobId)
  | unbind (adhoc : AdhocId)
  | currentClient (adhoc : AdhocId)
  | beginDeploy (adhoc : AdhocId)
  | completeDeploy (adhoc : AdhocId) (mountPath : String)
  | abortDeploy (adhoc : AdhocId)
  | beginTeardown (adhoc : AdhocId)
  | completeTeardown (adhoc : AdhocId)
  | abortTeardown (adhoc : AdhocId)
  deriving DecidableEq, Repr

inductive Answer
  | done
  | job (job : Job)
  | adhoc (storage : AdhocStorage)
  | pfs (storage : PfsStorage)
  | storage (storage : Storage)
  | client (job : Option JobId)
  | plan (plan : DeploymentPlan)
  deriving DecidableEq, Repr

def apply (s : Numbered Registry) : Operation → Except RegistryError Answer × Numbered Registry
  | .registerJob slurmId resources requirements =>
    let (answer, s) := registerJob s slurmId resources requirements
    (answer.map .job, s)
  | .updateJob job resources requirements =>
    let (answer, r) := s.store.updateJob job resources requirements
    (answer.map .job, ⟨s.ids, r⟩)
  | .removeJob job =>
    let (answer, r) := s.store.removeJob job
    (answer.map .job, ⟨s.ids, r⟩)
  | .job job => ((s.store.job job).map .job, s)
  | .jobBySlurmId slurmId => ((s.store.jobBySlurmId slurmId).map .job, s)
  | .registerAdhoc name kind context resources =>
    let (answer, s) := registerAdhoc s name kind context resources
    (answer.map .adhoc, s)
  | .updateAdhoc adhoc context caller =>
    let (answer, r) := s.store.updateAdhoc adhoc context caller
    (answer.map .adhoc, ⟨s.ids, r⟩)
  | .removeAdhoc adhoc caller =>
    let (answer, r) := s.store.removeAdhoc adhoc caller
    (answer.map .adhoc, ⟨s.ids, r⟩)
  | .adhoc adhoc => ((s.store.adhocStorage adhoc).map .adhoc, s)
  | .registerPfs name kind context =>
    let (answer, s) := registerPfs s name kind context
    (answer.map .pfs, s)
  | .updatePfs pfs context =>
    let (answer, r) := s.store.updatePfs pfs context
    (answer.map .pfs, ⟨s.ids, r⟩)
  | .removePfs pfs =>
    let (answer, r) := s.store.removePfs pfs
    (answer.map .pfs, ⟨s.ids, r⟩)
  | .pfs pfs => ((s.store.pfsStorage pfs).map .pfs, s)
  | .storage raw => ((s.store.storage raw).map .storage, s)
  | .bind adhoc job =>
    let (answer, r) := s.store.bind adhoc job
    (answer.map fun _ => .done, ⟨s.ids, r⟩)
  | .unbind adhoc =>
    let (answer, r) := s.store.unbind adhoc
    (answer.map fun _ => .done, ⟨s.ids, r⟩)
  | .currentClient adhoc => ((s.store.currentClient adhoc).map .client, s)
  | .beginDeploy adhoc =>
    let (answer, r) := s.store.beginDeploy adhoc
    (answer.map .plan, ⟨s.ids, r⟩)
  | .completeDeploy adhoc mountPath =>
    let (answer, r) := s.store.completeDeploy adhoc mountPath
    (answer.map .adhoc, ⟨s.ids, r⟩)
  | .abortDeploy adhoc =>
    let (answer, r) := s.store.abortDeploy adhoc
    (answer.map fun _ => .done, ⟨s.ids, r⟩)
  | .beginTeardown adhoc =>
    let (answer, r) := s.store.beginTeardown adhoc
    (answer.map .plan, ⟨s.ids, r⟩)
  | .completeTeardown adhoc =>
    let (answer, r) := s.store.completeTeardown adhoc
    (answer.map .adhoc, ⟨s.ids, r⟩)
  | .abortTeardown adhoc =>
    let (answer, r) := s.store.abortTeardown adhoc
    (answer.map fun _ => .done, ⟨s.ids, r⟩)

def run (s : Numbered Registry) (history : List Operation) : Numbered Registry :=
  history.foldl (fun s op => (apply s op).2) s

end StorageBroker.Registry
