import StorageBroker.DataOperation
import StorageBroker.StatusCode
import StorageBroker.Storage
import StorageBroker.Transfer

/-! # Replies and responses

A response carries a status code, a text for failures, and a reply. The order of the constructors
is that of the wire format. -/

set_option autoImplicit false

namespace StorageBroker

inductive Reply
  | empty
  | job (job : Job)
  | jobInfo (info : JobInfo)
  | adhocStorage (storage : AdhocStorage)
  | pfsStorage (storage : PfsStorage)
  | mountPath (path : String)
  | client (job : Option JobId)
  | transfer (transfer : Transfer)
  | transfers (transfers : List Transfer)
  | priority (value : Int64)
  | transferStatus (status : TransferStatus) (progress : Progress)
  | limits (limits : List Limit)
  | removed (count : UInt64)
  | dataOperation (operation : DataOperation)
  | outcome (outcome : OperationOutcome)
  | statistics (statistics : JobStatistics)
  deriving DecidableEq, Repr

structure Response where
  code : StatusCode
  message : Option String
  reply : Reply
  deriving DecidableEq, Repr

namespace Response

def ok (reply : Reply) : Response := ⟨.success, none, reply⟩

def error (code : StatusCode) (message : String) : Response := ⟨code, some message, .empty⟩

end Response

end StorageBroker
