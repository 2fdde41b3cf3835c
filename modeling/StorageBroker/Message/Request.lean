import StorageBroker.DataOperation
import StorageBroker.Storage
import StorageBroker.Transfer

/-! # Requests

What clients ask of the service, and what the service asks of controllers and data movers.
The order of the constructors is that of the wire format. -/

set_option autoImplicit false

namespace StorageBroker

/-- A request to the service, to a controller or to a data mover. -/
inductive Request
  | ping
  | registerJob (slurmId : UInt64) (resources : JobResources) (requirements : JobRequirements)
  | updateJob (job : JobId) (resources : JobResources) (requirements : Option JobRequirements)
  | removeJob (job : JobId)
  | getJob (job : JobId)
  | query (slurmId : UInt64)
  | registerAdhocStorage (name : String) (kind : AdhocKind) (context : AdhocContext)
      (resources : AdhocResources)
  | updateAdhocStorage (adhoc : AdhocId) (context : AdhocContext) (caller : Option JobId)
  | removeAdhocStorage (adhoc : AdhocId) (caller : Option JobId)
  | getAdhocStorage (adhoc : AdhocId)
  | deployAdhocStorage (adhoc : AdhocId)
  | terminateAdhocStorage (adhoc : AdhocId)
  | bindAdhocStorage (adhoc : AdhocId) (job : JobId)
  | unbindAdhocStorage (adhoc : AdhocId)
  | currentClient (adhoc : AdhocId)
  | registerPfsStorage (name : String) (kind : PfsKind) (context : PfsContext)
  | updatePfsStorage (pfs : PfsId) (context : PfsContext)
  | removePfsStorage (pfs : PfsId)
  | getPfsStorage (pfs : PfsId)
  | transferDatasets (job : JobId) (sources targets : List Dataset) (limits : List Limit)
      (mapping : Mapping)
  | getPendingTransfers (job : JobId)
  | setTransferPriority (transfer : TransferId) (delta : Int64)
  | getTransferPriority (transfer : TransferId)
  | cancelTransfer (transfer : TransferId)
  | transferUpdate (transfer : TransferId) (status : TransferStatus) (progress : Progress)
  | transferStatus (transfer : TransferId)
  | waitTransfer (transfer : TransferId) (timeoutMs : Option UInt64)
  | setLimit (job : JobId) (limit : Limit)
  | getLimits (job : JobId) (scope : LimitScope) (entity : LimitEntity)
  | removeLimits (job : JobId) (entity : LimitEntity) (limitClass : Option LimitClass)
  | defineDataOperation (job : JobId) (executable : String) (arguments : List Argument)
  | connectDataOperation (job : JobId) (operation : OperationId) (connection : Connection)
  | linkTransfer (job : JobId) (operation : OperationId) (link : Link)
  | finalizeDataOperation (job : JobId) (operation : OperationId)
  | getStatistics (job : JobId)
  | adhocDeploy (adhoc : AdhocId) (kind : AdhocKind) (context : AdhocContext)
      (resources : AdhocResources)
  | adhocTerminate (adhoc : AdhocId) (kind : AdhocKind) (resources : AdhocResources)
  | startTransfer (transfer : Transfer)
  deriving DecidableEq, Repr

def Request.name : Request → String
  | .ping => "ping"
  | .registerJob .. => "register_job"
  | .updateJob .. => "update_job"
  | .removeJob .. => "remove_job"
  | .getJob .. => "get_job"
  | .query .. => "query"
  | .registerAdhocStorage .. => "register_adhoc_storage"
  | .updateAdhocStorage .. => "update_adhoc_storage"
  | .removeAdhocStorage .. => "remove_adhoc_storage"
  | .getAdhocStorage .. => "get_adhoc_storage"
  | .deployAdhocStorage .. => "deploy_adhoc_storage"
  | .terminateAdhocStorage .. => "terminate_adhoc_storage"
  | .bindAdhocStorage .. => "bind_adhoc_storage"
  | .unbindAdhocStorage .. => "unbind_adhoc_storage"
  | .currentClient .. => "current_client"
  | .registerPfsStorage .. => "register_pfs_storage"
  | .updatePfsStorage .. => "update_pfs_storage"
  | .removePfsStorage .. => "remove_pfs_storage"
  | .getPfsStorage .. => "get_pfs_storage"
  | .transferDatasets .. => "transfer_datasets"
  | .getPendingTransfers .. => "get_pending_transfers"
  | .setTransferPriority .. => "set_transfer_priority"
  | .getTransferPriority .. => "get_transfer_priority"
  | .cancelTransfer .. => "cancel_transfer"
  | .transferUpdate .. => "transfer_update"
  | .transferStatus .. => "transfer_status"
  | .waitTransfer .. => "wait_transfer"
  | .setLimit .. => "set_qos_constraints"
  | .getLimits .. => "get_qos_constraints"
  | .removeLimits .. => "remove_qos_constraints"
  | .defineDataOperation .. => "define_data_operation"
  | .connectDataOperation .. => "connect_data_operation"
  | .linkTransfer .. => "link_transfer_to_data_operation"
  | .finalizeDataOperation .. => "finalize_data_operation"
  | .getStatistics .. => "get_statistics"
  | .adhocDeploy .. => "adhoc_deploy"
  | .adhocTerminate .. => "adhoc_terminate"
  | .startTransfer .. => "start_transfer"

end StorageBroker
