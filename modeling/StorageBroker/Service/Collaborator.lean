import StorageBroker.Net.Client
import StorageBroker.Service.Waiting

/-! # Collaborators over the network

Controllers and data movers are reached at addresses: a collaborator call sends a request there, and
what is told to the call that waits is read from the answer. -/

set_option autoImplicit false

namespace StorageBroker

def DeploymentPlan.deployRequest (plan : DeploymentPlan) : Request :=
  .adhocDeploy plan.id plan.kind plan.context plan.resources

/-- The request that a controller tears down on. -/
def DeploymentPlan.terminateRequest (plan : DeploymentPlan) : Request :=
  .adhocTerminate plan.id plan.kind plan.resources

/-- The address that a collaborator call goes to and the request that it sends there; the search for
the address of a host sends none. -/
def Outbound.asked? : Outbound → Option (String × Request)
  | .resolve _ _ => none
  | .deploy address plan => some (address, plan.deployRequest)
  | .terminate address plan => some (address, plan.terminateRequest)
  | .startTransfer address transfer => some (address, .startTransfer transfer)

end StorageBroker
