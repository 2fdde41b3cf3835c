import StorageBroker.Job

/-! # Data operations

A data operation runs an executable on datasets of a job. It is defined, then connected to its
datasets, perhaps linked to a transfer, and finalized. -/

set_option autoImplicit false

namespace StorageBroker

/-- A 64-bit floating-point number, kept as its bits so that every payload survives. -/
structure FloatBits where
  bits : UInt64
  deriving DecidableEq, Repr

inductive Argument
  | int (value : Int64)
  | uint (value : UInt64)
  | float (value : FloatBits)
  | text (value : String)
  | flag (value : Bool)
  deriving DecidableEq, Repr

inductive OperationStatus
  | defined
  | connected
  | linked
  | finalized
  deriving DecidableEq, Repr

namespace OperationStatus

def name : OperationStatus → String
  | .defined => "defined"
  | .connected => "connected"
  | .linked => "linked"
  | .finalized => "finalized"

def isFinalizable : OperationStatus → Bool
  | .connected | .linked => true
  | .defined | .finalized => false

instance : ToString OperationStatus := ⟨name⟩

end OperationStatus

inductive OperationOutcome
  | succeeded
  | failed
  deriving DecidableEq, Repr

structure Connection where
  inputs : List Dataset
  outputs : List Dataset
  streaming : Bool
  arguments : List Argument
  deriving DecidableEq, Repr

structure Link where
  transfer : TransferId
  streaming : Bool
  arguments : List Argument
  deriving DecidableEq, Repr

structure DataOperation where
  id : OperationId
  jobId : JobId
  executable : String
  arguments : List Argument
  status : OperationStatus
  connection : Option Connection
  link : Option Link
  outcome : Option OperationOutcome
  deriving DecidableEq, Repr

structure JobStatistics where
  pendingTransfers : UInt64
  inProgressTransfers : UInt64
  finishedTransfers : UInt64
  failedTransfers : UInt64
  cancelledTransfers : UInt64
  dataOperations : UInt64
  limits : UInt64
  deriving DecidableEq, Repr

end StorageBroker
