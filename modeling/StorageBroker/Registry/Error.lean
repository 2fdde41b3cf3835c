import StorageBroker.StatusCode
import StorageBroker.Storage

/-! # Registry errors

Each way in which a registry operation can be refused, its text and its status code. -/

set_option autoImplicit false

namespace StorageBroker

/-- Why the deployment state of an ad-hoc storage does not allow an operation. -/
inductive DeploymentObstacle
  | changeInProgress
  | teardownInProgress
  | notDeployed
  | noDeployment
  | noTeardown
  deriving DecidableEq, Repr

def DeploymentObstacle.text : DeploymentObstacle → String
  | .changeInProgress => "deployment change in progress"
  | .teardownInProgress => "teardown in progress"
  | .notDeployed => "not deployed"
  | .noDeployment => "no deployment in progress"
  | .noTeardown => "no teardown in progress"

/-- Why a registry operation is refused. -/
inductive RegistryError
  | jobNotFound (job : JobId)
  | slurmJobNotFound (slurmId : UInt64)
  | adhocNotFound (adhoc : AdhocId)
  | pfsNotFound (pfs : PfsId)
  | storageNotFound (raw : UInt64)
  | slurmJobTaken (slurmId : UInt64)
  | unknownAdhoc (adhoc : AdhocId)
  | adhocInUse (adhoc : AdhocId) (client : JobId)
  | jobAlreadyBound (job : JobId) (adhoc : AdhocId)
  | alreadyDeployed (adhoc : AdhocId)
  | invalidState (adhoc : AdhocId) (obstacle : DeploymentObstacle)
  | idsExhausted
  deriving DecidableEq, Repr

namespace RegistryError

def code : RegistryError → StatusCode
  | .jobNotFound _ | .slurmJobNotFound _ | .adhocNotFound _ | .pfsNotFound _
  | .storageNotFound _ => .notFound
  | .slurmJobTaken _ | .unknownAdhoc _ => .badArguments
  | .adhocInUse _ _ | .jobAlreadyBound _ _ => .adhocInUse
  | .alreadyDeployed _ => .alreadyDeployed
  | .invalidState _ _ => .invalidState
  | .idsExhausted => .resourceExhausted

def message : RegistryError → String
  | .jobNotFound job => s!"job {job} not found"
  | .slurmJobNotFound slurmId => s!"no job registered for slurm job {slurmId}"
  | .adhocNotFound adhoc => s!"adhoc storage {adhoc} not found"
  | .pfsNotFound pfs => s!"pfs storage {pfs} not found"
  | .storageNotFound raw => s!"storage {raw} not found"
  | .slurmJobTaken slurmId => s!"bad arguments: slurm job {slurmId} is already registered"
  | .unknownAdhoc adhoc => s!"bad arguments: unknown adhoc storage {adhoc}"
  | .adhocInUse adhoc client => s!"adhoc storage {adhoc} is in use by job {client}"
  | .jobAlreadyBound job adhoc => s!"job {job} is already bound to adhoc storage {adhoc}"
  | .alreadyDeployed adhoc => s!"adhoc storage {adhoc} is already deployed"
  | .invalidState adhoc obstacle => s!"adhoc storage {adhoc}: " ++ obstacle.text
  | .idsExhausted => "out of identifiers"

end RegistryError

end StorageBroker
