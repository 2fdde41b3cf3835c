import StorageBroker.DataOperation.Pipeline
import StorageBroker.Limit.Store
import StorageBroker.Net.Error
import StorageBroker.Registry.Error
import StorageBroker.Text.Span
import StorageBroker.Transfer.Ledger

/-! # Service errors

What a call to the service can fail with: the refusal of a store, the failure of a collaborator, or
one of the service's own. -/

set_option autoImplicit false

namespace StorageBroker

/-- Work that the service gives a limited time. -/
inductive TimedTask
  | deployment (adhoc : AdhocId)
  | teardown (adhoc : AdhocId)
  | dispatch (transfer : TransferId)
  | transfer (transfer : TransferId)
  deriving DecidableEq, Repr

def TimedTask.text : TimedTask → String
  | .deployment id => s!"deployment of adhoc storage {id}"
  | .teardown id => s!"teardown of adhoc storage {id}"
  | .dispatch id => s!"dispatch of transfer {id}"
  | .transfer id => s!"transfer {id}"

inductive ServiceError
  | registry (e : RegistryError)
  | transfer (e : TransferError)
  | limit (e : LimitError)
  | pipeline (e : PipelineError)
  | net (e : NetError)
  | transferNotInJob (transfer : TransferId) (job : JobId)
  | transferTerminal (transfer : TransferId) (status : TransferStatus)
  | noController (adhoc : AdhocId)
  | notServed
  | timeout (task : TimedTask) (afterMs : Nat)
  deriving DecidableEq, Repr

namespace ServiceError

def code : ServiceError → StatusCode
  | .registry e => e.code
  | .transfer e => e.code
  | .limit e => e.code
  | .pipeline e => e.code
  | .net e => e.code
  | .transferNotInJob _ _ => .notFound
  | .transferTerminal _ _ => .invalidState
  | .noController _ | .notServed => .badArguments
  | .timeout _ _ => .timeout

def message : ServiceError → String
  | .registry e => e.message
  | .transfer e => e.message
  | .limit e => e.message
  | .pipeline e => e.message
  | .net e => "network error: " ++ e.message
  | .transferNotInJob id job => s!"transfer {id} does not belong to job {job}"
  | .transferTerminal id status => s!"transfer {id} is already {status}"
  | .noController adhoc =>
    s!"bad arguments: adhoc storage {adhoc} has no controller address and no nodes"
  | .notServed => "bad arguments: operation is not served by the reef service"
  | .timeout task afterMs => task.text ++ " did not complete within " ++ Text.span afterMs

end ServiceError

end StorageBroker
