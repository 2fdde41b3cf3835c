import StorageBroker.Limit

/-! # Transfers

A transfer moves datasets for a job. Its status only moves forward: pending, then in progress,
then one of three terminal ones. -/

set_option autoImplicit false

namespace StorageBroker

/-- How the sources of a transfer pair up with its targets. -/
inductive Mapping
  | oneToOne
  | oneToN
  | nToN
  deriving DecidableEq, Repr

namespace Mapping

/-- Whether these many sources and targets pair up: equal and non-zero, or one source fanned out. -/
def accepts : Mapping → Nat → Nat → Bool
  | .oneToN, sources, targets => sources = 1 && 0 < targets
  | _, sources, targets => 0 < sources && sources = targets

def name : Mapping → String
  | .oneToOne => "OneToOne"
  | .oneToN => "OneToN"
  | .nToN => "NToN"

end Mapping

inductive TransferStatus
  | pending
  | inProgress
  | finished
  | failed
  | cancelled
  deriving DecidableEq, Repr

namespace TransferStatus

def isTerminal : TransferStatus → Bool
  | .pending | .inProgress => false
  | .finished | .failed | .cancelled => true

/-- The position along the only direction of travel. -/
def rank : TransferStatus → Nat
  | .pending => 0
  | .inProgress => 1
  | .finished | .failed | .cancelled => 2

def name : TransferStatus → String
  | .pending => "pending"
  | .inProgress => "in_progress"
  | .finished => "finished"
  | .failed => "failed"
  | .cancelled => "cancelled"

instance : ToString TransferStatus := ⟨name⟩

end TransferStatus

/-- What the data mover last reported. -/
structure Progress where
  bytesTransferred : UInt64
  totalBytes : Option UInt64
  error : Option String
  deriving DecidableEq, Repr

def Progress.none : Progress := ⟨0, Option.none, Option.none⟩

structure Transfer where
  id : TransferId
  jobId : JobId
  sources : List Dataset
  targets : List Dataset
  limits : List Limit
  mapping : Mapping
  priority : Int64
  status : TransferStatus
  progress : Progress
  deriving DecidableEq, Repr

end StorageBroker
