import StorageBroker.Registry.Basic

/-! # Deployment and teardown

Both have two phases. Beginning one marks the storage and gives the plan that its controller
needs; completing or aborting one clears the mark. -/

set_option autoImplicit false

namespace StorageBroker

/-- What a controller needs to deploy or tear down a storage; the mount path is that of the
deployment to tear down. -/
structure DeploymentPlan where
  id : AdhocId
  kind : AdhocKind
  context : AdhocContext
  resources : AdhocResources
  mountPath : Option String
  deriving DecidableEq, Repr

def AdhocEntry.plan (entry : AdhocEntry) (id : AdhocId) (mountPath : Option String) :
    DeploymentPlan :=
  ⟨id, entry.kind, entry.context, entry.resources, mountPath⟩

namespace Registry

def setDeployment (r : Registry) (id : AdhocId) (entry : AdhocEntry) (deployment : Deployment) :
    Registry :=
  { r with adhoc := r.adhoc.insert id { entry with deployment } }

def beginDeploy (r : Registry) (id : AdhocId) : Except RegistryError DeploymentPlan × Registry :=
  match r.adhoc.get? id with
  | none => (.error (.adhocNotFound id), r)
  | some entry =>
    match entry.deployment with
    | .undeployed => (.ok (entry.plan id none), r.setDeployment id entry .deploying)
    | .deploying | .deployed _ => (.error (.alreadyDeployed id), r)
    | .tearingDown _ => (.error (.invalidState id .teardownInProgress), r)

def completeDeploy (r : Registry) (id : AdhocId) (mountPath : String) :
    Except RegistryError AdhocStorage × Registry :=
  match r.adhoc.get? id with
  | none => (.error (.adhocNotFound id), r)
  | some entry =>
    match entry.deployment with
    | .deploying =>
      (.ok (AdhocEntry.view { entry with deployment := .deployed mountPath } id),
        r.setDeployment id entry (.deployed mountPath))
    | _ => (.error (.invalidState id .noDeployment), r)

/-- Takes back the mark of a storage that is being deployed. -/
def abortDeploy (r : Registry) (id : AdhocId) : Except RegistryError Unit × Registry :=
  match r.adhoc.get? id with
  | none => (.error (.adhocNotFound id), r)
  | some entry =>
    match entry.deployment with
    | .deploying => (.ok (), r.setDeployment id entry .undeployed)
    | _ => (.ok (), r)

def beginTeardown (r : Registry) (id : AdhocId) : Except RegistryError DeploymentPlan × Registry :=
  match r.adhoc.get? id with
  | none => (.error (.adhocNotFound id), r)
  | some entry =>
    match entry.deployment with
    | .deployed path => (.ok (entry.plan id (some path)), r.setDeployment id entry (.tearingDown path))
    | .undeployed => (.error (.invalidState id .notDeployed), r)
    | .deploying | .tearingDown _ => (.error (.invalidState id .changeInProgress), r)

/-- Drops the deployment of a storage that is being torn down. -/
def completeTeardown (r : Registry) (id : AdhocId) : Except RegistryError AdhocStorage × Registry :=
  match r.adhoc.get? id with
  | none => (.error (.adhocNotFound id), r)
  | some entry =>
    match entry.deployment with
    | .tearingDown _ =>
      (.ok (AdhocEntry.view { entry with deployment := .undeployed } id),
        r.setDeployment id entry .undeployed)
    | _ => (.error (.invalidState id .noTeardown), r)

/-- Takes back the mark of a storage that is being torn down. -/
def abortTeardown (r : Registry) (id : AdhocId) : Except RegistryError Unit × Registry :=
  match r.adhoc.get? id with
  | none => (.error (.adhocNotFound id), r)
  | some entry =>
    match entry.deployment with
    | .tearingDown path => (.ok (), r.setDeployment id entry (.deployed path))
    | _ => (.ok (), r)

end Registry

end StorageBroker
