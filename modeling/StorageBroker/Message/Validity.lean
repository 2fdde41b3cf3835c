import StorageBroker.Message.Request
import StorageBroker.Text.Blank

/-! # Well-formed requests

What can be checked of a request without any state: names, host names, dataset names, mount points
and executables must be there. -/

set_option autoImplicit false

namespace StorageBroker

inductive Malformation
  | emptyHostname
  | emptyDataset
  | emptyStorageName
  | noNodes
  | emptyMountPoint
  | emptyExecutable
  deriving DecidableEq, Repr

def Malformation.text : Malformation → String
  | .emptyHostname => "empty node hostname"
  | .emptyDataset => "empty dataset identifier"
  | .emptyStorageName => "empty storage name"
  | .noNodes => "ad-hoc storage needs at least one node"
  | .emptyMountPoint => "empty mount point"
  | .emptyExecutable => "empty executable path"

def complain (bad : Bool) (complaint : Malformation) : Option Malformation :=
  if bad then some complaint else none

def Node.complaint? (nodes : List Node) : Option Malformation :=
  complain (nodes.any fun node => Text.isBlank node.hostname) .emptyHostname

def Dataset.complaint? (datasets : List Dataset) : Option Malformation :=
  complain (datasets.any fun dataset => dataset.id.isEmpty) .emptyDataset

def LimitEntity.complaint? : LimitEntity → Option Malformation
  | .dataset d => complain d.id.isEmpty .emptyDataset
  | .node hostname => complain (Text.isBlank hostname) .emptyHostname
  | .job _ => none

/-- What is missing from a request, the first complaint that applies. -/
def Request.complaint? : Request → Option Malformation
  | .registerJob _ resources _ | .updateJob _ resources _ => Node.complaint? resources.nodes
  | .registerAdhocStorage name _ _ resources =>
    complain (Text.isBlank name) .emptyStorageName
      <|> complain resources.nodes.isEmpty .noNodes
      <|> Node.complaint? resources.nodes
  | .registerPfsStorage name _ context =>
    complain (Text.isBlank name) .emptyStorageName
      <|> complain context.mountPoint.isEmpty .emptyMountPoint
  | .updatePfsStorage _ context => complain context.mountPoint.isEmpty .emptyMountPoint
  | .transferDatasets _ sources targets limits _ =>
    Dataset.complaint? sources
      <|> Dataset.complaint? targets
      <|> limits.findSome? fun limit => limit.entity.complaint?
  | .setLimit _ limit => limit.entity.complaint?
  | .getLimits _ _ entity | .removeLimits _ entity _ => entity.complaint?
  | .defineDataOperation _ executable _ => complain (Text.isBlank executable) .emptyExecutable
  | .connectDataOperation _ _ connection =>
    Dataset.complaint? connection.inputs <|> Dataset.complaint? connection.outputs
  | .adhocDeploy _ _ _ resources | .adhocTerminate _ _ resources =>
    Node.complaint? resources.nodes
  | _ => none

def Request.isValid (request : Request) : Bool := request.complaint?.isNone

end StorageBroker
