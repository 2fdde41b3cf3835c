import StorageBroker.Main
import StorageBroker.Net.Peer
import StorageBroker.Registry.Operation
import StorageBroker.Proofs.Registry.Outcome
import StorageBroker.Proofs.Registry.Link
import StorageBroker.Proofs.Drawn
import StorageBroker.Proofs.Registry.Numbers
import StorageBroker.Proofs.Transfer.Effect
import StorageBroker.Proofs.Transfer.Index
import StorageBroker.Proofs.Transfer.Drop
import StorageBroker.Proofs.DataOperation.Effect
import StorageBroker.Proofs.Service.Moved
import StorageBroker.Proofs.Service.Change
import StorageBroker.Proofs.Service.Numbers
import StorageBroker.Proofs.Service.References
import StorageBroker.Proofs.Registry.InFlight
import StorageBroker.Proofs.Service.Origin
import StorageBroker.Proofs.Service.Handover
import StorageBroker.Proofs.Service.InFlight
import StorageBroker.Proofs.Service.MountRecord
import StorageBroker.Proofs.Service.ControllerWork
import StorageBroker.Proofs.Service.Fate
import StorageBroker.Proofs.Service.Await
import StorageBroker.Proofs.Wire.Slack
import StorageBroker.Proofs.Wire.Model
import StorageBroker.Proofs.Wire.Message
import StorageBroker.Proofs.Service.Outbound
import StorageBroker.Proofs.Service.Dispatch
import StorageBroker.Proofs.Service.DispatchAnswer
import StorageBroker.Proofs.DataOperation.Stage
import StorageBroker.Proofs.Service.OperationFate
import StorageBroker.Proofs.Service.Finalize
import StorageBroker.Proofs.Service.FinalizeAnswer
import StorageBroker.Proofs.Transfer.Forward
import StorageBroker.Proofs.Wire.Size
import StorageBroker.Proofs.Net.Framing
import StorageBroker.Proofs.Wire.Content
import StorageBroker.Proofs.Net.Sending
import StorageBroker.Proofs.Net.Truncation
import StorageBroker.Proofs.Net.Gate
import StorageBroker.Proofs.Net.Pairing
import StorageBroker.Service.Shared
import StorageBroker.Proofs.Service.Ending
import StorageBroker.Proofs.Service.Answering
import StorageBroker.Proofs.Registry.Entry
import StorageBroker.Proofs.Registry.Ownership
import StorageBroker.Proofs.Service.Begun
import StorageBroker.Proofs.Service.Gain
import StorageBroker.Proofs.Service.Creation
import StorageBroker.Proofs.Limit.Value
import StorageBroker.Proofs.Limit.Map
import StorageBroker.Proofs.Service.LimitOrigin
import StorageBroker.Proofs.Service.Instances
import StorageBroker.Proofs.Service.Shutdown
import StorageBroker.Proofs.Registry.Refusal
import StorageBroker.Proofs.Transfer.Record
import StorageBroker.Proofs.Transfer.Pending
import StorageBroker.Service.Collaborator
import StorageBroker.Proofs.Net.Failure
import StorageBroker.Proofs.Service.CollaboratorFailure
import StorageBroker.Proofs.Service.WellFormed
import StorageBroker.Proofs.Service.Checked
import StorageBroker.Proofs.Service.Directed
import StorageBroker.Proofs.Service.Admitted
import StorageBroker.Proofs.Transfer.Listing
import StorageBroker.Proofs.Transfer.Clearing
import StorageBroker.Proofs.Transfer.Waiter
import StorageBroker.Proofs.Text.Scan
import StorageBroker.Proofs.Shell.Dollar
import StorageBroker.Proofs.Shell.Quoting
import StorageBroker.Proofs.Shell.Argument
import StorageBroker.Proofs.Controller.Expansion
import StorageBroker.Proofs.Controller.Hostnames
import StorageBroker.Proofs.Service.WorkEnd
import StorageBroker.Proofs.Service.Undo
import StorageBroker.Proofs.History
import StorageBroker.Proofs.DataOperation.Record
import StorageBroker.Proofs.DataOperation.Count
import StorageBroker.Proofs.DataOperation.Finalizable
import StorageBroker.Proofs.Registry.Deployed
import StorageBroker.Proofs.Registry.Phase
import StorageBroker.Proofs.Registry.MountPath
import StorageBroker.Proofs.Registry.Alteration
import StorageBroker.Proofs.Registry.Lifetime
import StorageBroker.Proofs.Registry.Scheduler
import StorageBroker.Proofs.Service.Query
import StorageBroker.Proofs.Service.Statistics
import StorageBroker.Proofs.Service.Attempt
import StorageBroker.Proofs.Service.Sweep
