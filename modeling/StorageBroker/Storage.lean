import StorageBroker.Job

/-! # Storage

Ad-hoc storage is launched on a set of nodes for the jobs that use it; a parallel file system is
always there. -/

set_option autoImplicit false

namespace StorageBroker

/-- The ad-hoc storage systems that can be launched. -/
inductive AdhocKind
  | gekkofs
  | dataclay
  | expand
  | hercules
  deriving DecidableEq, Repr

namespace AdhocKind

/-- Every kind, in the order of the wire format. -/
def all : List AdhocKind := [.gekkofs, .dataclay, .expand, .hercules]

def name : AdhocKind → String
  | .gekkofs => "gekkofs"
  | .dataclay => "dataclay"
  | .expand => "expand"
  | .hercules => "hercules"

def ofName? (name : String) : Option AdhocKind := all.find? fun kind => kind.name == name

instance : ToString AdhocKind := ⟨name⟩

end AdhocKind

/-- Where an ad-hoc storage runs with respect to the nodes of its job. -/
inductive ExecutionMode
  | inJobShared
  | inJobDedicated
  | separateNew
  | separateExisting
  deriving DecidableEq, Repr

/-- What clients may do with an ad-hoc storage. -/
inductive AccessMode
  | readOnly
  | writeOnly
  | readWrite
  deriving DecidableEq, Repr

/-- How an ad-hoc storage is run; an empty address means that none is set. -/
structure AdhocContext where
  controllerAddress : String
  moverAddress : String
  executionMode : ExecutionMode
  accessMode : AccessMode
  walltime : UInt32
  shouldFlush : Bool
  deriving DecidableEq, Repr

/-- The nodes that an ad-hoc storage runs on. -/
structure AdhocResources where
  nodes : List Node
  deriving DecidableEq, Repr

/-- An ad-hoc storage as clients see it; `mountPath` is set while it is deployed. -/
structure AdhocStorage where
  id : AdhocId
  name : String
  kind : AdhocKind
  context : AdhocContext
  resources : AdhocResources
  client : Option JobId
  mountPath : Option String
  deriving DecidableEq, Repr

def AdhocStorage.isDeployed (s : AdhocStorage) : Bool := s.mountPath.isSome

/-- The parallel file systems that can be registered. -/
inductive PfsKind
  | lustre
  | gpfs
  deriving DecidableEq, Repr

/-- Where a parallel file system is mounted. -/
structure PfsContext where
  mountPoint : String
  deriving DecidableEq, Repr

/-- A registered parallel file system. -/
structure PfsStorage where
  id : PfsId
  name : String
  kind : PfsKind
  context : PfsContext
  deriving DecidableEq, Repr

inductive Storage
  | adhoc (storage : AdhocStorage)
  | pfs (storage : PfsStorage)
  deriving DecidableEq, Repr

namespace Storage

def rawId : Storage → UInt64
  | .adhoc s => s.id.raw
  | .pfs s => s.id.raw

def name : Storage → String
  | .adhoc s => s.name
  | .pfs s => s.name

end Storage

end StorageBroker
