import StorageBroker.Limit.Store
import StorageBroker.Message.Reply
import StorageBroker.Text.Form

/-! # The text form of replies

Messages about unexpected replies show the reply in its one-line form. -/

set_option autoImplicit false

namespace StorageBroker

open Form (form tuple record)

instance : Form JobId := ⟨fun id => tuple "JobId" [form id.raw]⟩
instance : Form AdhocId := ⟨fun id => tuple "AdhocStorageId" [form id.raw]⟩
instance : Form PfsId := ⟨fun id => tuple "PfsStorageId" [form id.raw]⟩
instance : Form TransferId := ⟨fun id => tuple "TransferId" [form id.raw]⟩
instance : Form OperationId := ⟨fun id => tuple "DataOperationId" [form id.raw]⟩

instance : Form NodeKind :=
  ⟨fun
    | .regular => "Regular"
    | .administrative => "Administrative"⟩

instance : Form Node :=
  ⟨fun n => record "Node" [("hostname", form n.hostname), ("kind", form n.kind)]⟩

instance : Form Dataset := ⟨fun d => record "Dataset" [("id", form d.id)]⟩

instance : Form DatasetRoute :=
  ⟨fun r => record "DatasetRoute" [("source", form r.source), ("target", form r.target)]⟩

instance : Form JobResources := ⟨fun r => record "JobResources" [("nodes", form r.nodes)]⟩

instance : Form JobRequirements :=
  ⟨fun r => record "JobRequirements"
    [("inputs", form r.inputs), ("outputs", form r.outputs),
     ("expected_outputs", form r.expectedOutputs), ("adhoc_storage", form r.adhocStorage)]⟩

instance : Form Job :=
  ⟨fun j => record "Job"
    [("id", form j.id), ("slurm_id", form j.slurmId), ("resources", form j.resources),
     ("requirements", form j.requirements)]⟩

instance : Form JobInfo :=
  ⟨fun i => record "JobInfo"
    [("job_id", form i.jobId), ("adhoc_controller_address", form i.controllerAddress),
     ("io_procs", form i.ioProcs)]⟩

instance : Form AdhocKind :=
  ⟨fun
    | .gekkofs => "Gekkofs"
    | .dataclay => "Dataclay"
    | .expand => "Expand"
    | .hercules => "Hercules"⟩

instance : Form ExecutionMode :=
  ⟨fun
    | .inJobShared => "InJobShared"
    | .inJobDedicated => "InJobDedicated"
    | .separateNew => "SeparateNew"
    | .separateExisting => "SeparateExisting"⟩

instance : Form AccessMode :=
  ⟨fun
    | .readOnly => "ReadOnly"
    | .writeOnly => "WriteOnly"
    | .readWrite => "ReadWrite"⟩

instance : Form AdhocContext :=
  ⟨fun c => record "AdhocStorageCtx"
    [("controller_address", form c.controllerAddress), ("data_mover_address", form c.moverAddress),
     ("execution_mode", form c.executionMode), ("access_mode", form c.accessMode),
     ("walltime", form c.walltime), ("should_flush", form c.shouldFlush)]⟩

instance : Form AdhocResources :=
  ⟨fun r => record "AdhocStorageResources" [("nodes", form r.nodes)]⟩

instance : Form AdhocStorage :=
  ⟨fun s => record "AdhocStorage"
    [("id", form s.id), ("name", form s.name), ("kind", form s.kind), ("ctx", form s.context),
     ("resources", form s.resources), ("client", form s.client),
     ("mount_path", form s.mountPath)]⟩

instance : Form PfsKind :=
  ⟨fun
    | .lustre => "Lustre"
    | .gpfs => "Gpfs"⟩

instance : Form PfsContext :=
  ⟨fun c => record "PfsStorageCtx" [("mount_point", form c.mountPoint)]⟩

instance : Form PfsStorage :=
  ⟨fun s => record "PfsStorage"
    [("id", form s.id), ("name", form s.name), ("kind", form s.kind), ("ctx", form s.context)]⟩

instance : Form LimitScope := ⟨LimitScope.name⟩

instance : Form LimitClass :=
  ⟨fun
    | .bandwidth => "Bandwidth"
    | .iops => "Iops"⟩

instance : Form LimitEntity :=
  ⟨fun
    | .dataset d => tuple "Dataset" [form d]
    | .node hostname => tuple "Node" [form hostname]
    | .job id => tuple "Job" [form id]⟩

instance : Form Limit :=
  ⟨fun l => record "QosLimit"
    [("entity", form l.entity), ("class", form l.limitClass), ("value", form l.value)]⟩

instance : Form Mapping := ⟨Mapping.name⟩

instance : Form TransferStatus :=
  ⟨fun
    | .pending => "Pending"
    | .inProgress => "InProgress"
    | .finished => "Finished"
    | .failed => "Failed"
    | .cancelled => "Cancelled"⟩

instance : Form Progress :=
  ⟨fun p => record "TransferProgress"
    [("bytes_transferred", form p.bytesTransferred), ("total_bytes", form p.totalBytes),
     ("error", form p.error)]⟩

instance : Form Transfer :=
  ⟨fun t => record "Transfer"
    [("id", form t.id), ("job_id", form t.jobId), ("sources", form t.sources),
     ("targets", form t.targets), ("qos_limits", form t.limits), ("mapping", form t.mapping),
     ("priority", form t.priority), ("status", form t.status), ("progress", form t.progress)]⟩

instance : Form Argument :=
  ⟨fun
    | .int i => tuple "Int" [form i]
    | .uint n => tuple "UInt" [form n]
    | .float f => tuple "Float" [form f.bits]
    | .text s => tuple "Text" [form s]
    | .flag b => tuple "Flag" [form b]⟩

instance : Form OperationStatus :=
  ⟨fun
    | .defined => "Defined"
    | .connected => "Connected"
    | .linked => "Linked"
    | .finalized => "Finalized"⟩

instance : Form OperationOutcome :=
  ⟨fun
    | .succeeded => "Succeeded"
    | .failed => "Failed"⟩

instance : Form Connection :=
  ⟨fun c => record "OperationConnection"
    [("inputs", form c.inputs), ("outputs", form c.outputs), ("streaming", form c.streaming),
     ("arguments", form c.arguments)]⟩

instance : Form Link :=
  ⟨fun l => record "OperationLink"
    [("transfer", form l.transfer), ("streaming", form l.streaming),
     ("arguments", form l.arguments)]⟩

instance : Form DataOperation :=
  ⟨fun o => record "DataOperation"
    [("id", form o.id), ("job_id", form o.jobId), ("executable", form o.executable),
     ("arguments", form o.arguments), ("status", form o.status),
     ("connection", form o.connection), ("link", form o.link), ("outcome", form o.outcome)]⟩

instance : Form JobStatistics :=
  ⟨fun s => record "JobStatistics"
    [("pending_transfers", form s.pendingTransfers),
     ("in_progress_transfers", form s.inProgressTransfers),
     ("finished_transfers", form s.finishedTransfers),
     ("failed_transfers", form s.failedTransfers),
     ("cancelled_transfers", form s.cancelledTransfers),
     ("data_operations", form s.dataOperations), ("qos_limits", form s.limits)]⟩

instance : Form Reply :=
  ⟨fun
    | .empty => "Empty"
    | .job job => tuple "Job" [form job]
    | .jobInfo info => tuple "JobInfo" [form info]
    | .adhocStorage storage => tuple "AdhocStorage" [form storage]
    | .pfsStorage storage => tuple "PfsStorage" [form storage]
    | .mountPath path => tuple "MountPath" [form path]
    | .client job => tuple "Client" [form job]
    | .transfer transfer => tuple "Transfer" [form transfer]
    | .transfers transfers => tuple "Transfers" [form transfers]
    | .priority value => tuple "Priority" [form value]
    | .transferStatus status progress =>
      record "TransferStatus" [("status", form status), ("progress", form progress)]
    | .limits limits => tuple "Limits" [form limits]
    | .removed count => tuple "Removed" [form count]
    | .dataOperation operation => tuple "DataOperation" [form operation]
    | .outcome outcome => tuple "Outcome" [form outcome]
    | .statistics statistics => tuple "Statistics" [form statistics]⟩

end StorageBroker
