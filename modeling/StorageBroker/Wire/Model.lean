import StorageBroker.Message.Reply
import StorageBroker.Wire.Scalar

/-! # Written forms of the domain

A record is written field after field, a choice as the place of its constructor and then the
fields of that constructor. -/

set_option autoImplicit false

namespace StorageBroker.Wire

/-! ## Identifiers and enumerations -/

instance : Wire JobId where
  encode id := encode id.raw
  decode := do return ⟨← decode⟩

instance : Wire AdhocId where
  encode id := encode id.raw
  decode := do return ⟨← decode⟩

instance : Wire PfsId where
  encode id := encode id.raw
  decode := do return ⟨← decode⟩

instance : Wire TransferId where
  encode id := encode id.raw
  decode := do return ⟨← decode⟩

instance : Wire OperationId where
  encode id := encode id.raw
  decode := do return ⟨← decode⟩

instance : Wire StatusCode := enumeration StatusCode.all
instance : Wire NodeKind := enumeration [.regular, .administrative]
instance : Wire AdhocKind := enumeration AdhocKind.all

instance : Wire ExecutionMode :=
  enumeration [.inJobShared, .inJobDedicated, .separateNew, .separateExisting]

instance : Wire AccessMode := enumeration [.readOnly, .writeOnly, .readWrite]
instance : Wire PfsKind := enumeration [.lustre, .gpfs]
instance : Wire LimitScope := enumeration [.dataset, .node, .job]
instance : Wire LimitClass := enumeration LimitClass.all
instance : Wire Mapping := enumeration [.oneToOne, .oneToN, .nToN]

instance : Wire TransferStatus :=
  enumeration [.pending, .inProgress, .finished, .failed, .cancelled]

instance : Wire OperationStatus := enumeration [.defined, .connected, .linked, .finalized]
instance : Wire OperationOutcome := enumeration [.succeeded, .failed]

/-! ## Jobs -/

instance : Wire Node where
  encode n := encode n.hostname ++ encode n.kind
  decode := do return ⟨← decode, ← decode⟩

instance : Wire Dataset where
  encode d := encode d.id
  decode := do return ⟨← decode⟩

instance : Wire DatasetRoute where
  encode r := encode r.source ++ encode r.target
  decode := do return ⟨← decode, ← decode⟩

instance : Wire JobResources where
  encode r := encode r.nodes
  decode := do return ⟨← decode⟩

instance : Wire JobRequirements where
  encode r :=
    encode r.inputs ++ encode r.outputs ++ encode r.expectedOutputs ++ encode r.adhocStorage
  decode := do return ⟨← decode, ← decode, ← decode, ← decode⟩

instance : Wire Job where
  encode j := encode j.id ++ encode j.slurmId ++ encode j.resources ++ encode j.requirements
  decode := do return ⟨← decode, ← decode, ← decode, ← decode⟩

instance : Wire JobInfo where
  encode i := encode i.jobId ++ encode i.controllerAddress ++ encode i.ioProcs
  decode := do return ⟨← decode, ← decode, ← decode⟩

/-! ## Storage -/

instance : Wire AdhocContext where
  encode c :=
    encode c.controllerAddress ++ encode c.moverAddress ++ encode c.executionMode ++
      encode c.accessMode ++ encode c.walltime ++ encode c.shouldFlush
  decode := do return ⟨← decode, ← decode, ← decode, ← decode, ← decode, ← decode⟩

instance : Wire AdhocResources where
  encode r := encode r.nodes
  decode := do return ⟨← decode⟩

instance : Wire AdhocStorage where
  encode s :=
    encode s.id ++ encode s.name ++ encode s.kind ++ encode s.context ++ encode s.resources ++
      encode s.client ++ encode s.mountPath
  decode := do return ⟨← decode, ← decode, ← decode, ← decode, ← decode, ← decode, ← decode⟩

instance : Wire PfsContext where
  encode c := encode c.mountPoint
  decode := do return ⟨← decode⟩

instance : Wire PfsStorage where
  encode s := encode s.id ++ encode s.name ++ encode s.kind ++ encode s.context
  decode := do return ⟨← decode, ← decode, ← decode, ← decode⟩

/-! ## Limits and transfers -/

instance : Wire LimitEntity where
  encode
    | .dataset d => encodeNat 0 ++ encode d
    | .node hostname => encodeNat 1 ++ encode hostname
    | .job id => encodeNat 2 ++ encode id
  decode := do
    match ← decodeNat32 with
    | 0 => return .dataset (← decode)
    | 1 => return .node (← decode)
    | 2 => return .job (← decode)
    | _ => Decoder.fail .unknownVariant

instance : Wire Limit where
  encode l := encode l.entity ++ encode l.limitClass ++ encode l.value
  decode := do return ⟨← decode, ← decode, ← decode⟩

instance : Wire Progress where
  encode p := encode p.bytesTransferred ++ encode p.totalBytes ++ encode p.error
  decode := do return ⟨← decode, ← decode, ← decode⟩

instance : Wire Transfer where
  encode t :=
    encode t.id ++ encode t.jobId ++ encode t.sources ++ encode t.targets ++ encode t.limits ++
      encode t.mapping ++ encode t.priority ++ encode t.status ++ encode t.progress
  decode := do
    return ⟨← decode, ← decode, ← decode, ← decode, ← decode, ← decode, ← decode, ← decode,
      ← decode⟩

/-! ## Data operations -/

instance : Wire Argument where
  encode
    | .int i => encodeNat 0 ++ encode i
    | .uint n => encodeNat 1 ++ encode n
    | .float f => encodeNat 2 ++ encode f
    | .text s => encodeNat 3 ++ encode s
    | .flag b => encodeNat 4 ++ encode b
  decode := do
    match ← decodeNat32 with
    | 0 => return .int (← decode)
    | 1 => return .uint (← decode)
    | 2 => return .float (← decode)
    | 3 => return .text (← decode)
    | 4 => return .flag (← decode)
    | _ => Decoder.fail .unknownVariant

instance : Wire Connection where
  encode c := encode c.inputs ++ encode c.outputs ++ encode c.streaming ++ encode c.arguments
  decode := do return ⟨← decode, ← decode, ← decode, ← decode⟩

instance : Wire Link where
  encode l := encode l.transfer ++ encode l.streaming ++ encode l.arguments
  decode := do return ⟨← decode, ← decode, ← decode⟩

instance : Wire DataOperation where
  encode o :=
    encode o.id ++ encode o.jobId ++ encode o.executable ++ encode o.arguments ++
      encode o.status ++ encode o.connection ++ encode o.link ++ encode o.outcome
  decode := do
    return ⟨← decode, ← decode, ← decode, ← decode, ← decode, ← decode, ← decode, ← decode⟩

instance : Wire JobStatistics where
  encode s :=
    encode s.pendingTransfers ++ encode s.inProgressTransfers ++ encode s.finishedTransfers ++
      encode s.failedTransfers ++ encode s.cancelledTransfers ++ encode s.dataOperations ++
      encode s.limits
  decode := do return ⟨← decode, ← decode, ← decode, ← decode, ← decode, ← decode, ← decode⟩

end StorageBroker.Wire
