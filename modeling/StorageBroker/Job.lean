import StorageBroker.Ident

/-! # Jobs

A job runs on nodes, moves datasets in and out, and may hold one ad-hoc storage. -/

set_option autoImplicit false

namespace StorageBroker

inductive NodeKind
  | regular
  | administrative
  deriving DecidableEq, Repr

/-- A machine, known by its host name. -/
structure Node where
  hostname : String
  kind : NodeKind
  deriving DecidableEq, Repr

/-- A dataset, written `tier:path` or just as a path. -/
structure Dataset where
  id : String
  deriving DecidableEq, Repr

/-- The part before the first colon, if both it and the rest are non-empty. -/
def Dataset.tier? (d : Dataset) : Option String :=
  let before := d.id.toList.takeWhile (· ≠ ':')
  match before, d.id.toList.dropWhile (· ≠ ':') with
  | _ :: _, _ :: _ :: _ => some (String.ofList before)
  | _, _ => none

instance : ToString Dataset := ⟨Dataset.id⟩

structure DatasetRoute where
  source : Dataset
  target : Dataset
  deriving DecidableEq, Repr

structure JobResources where
  nodes : List Node
  deriving DecidableEq, Repr

/-- What a job needs: datasets staged in and out, and at most one ad-hoc storage. -/
structure JobRequirements where
  inputs : List DatasetRoute
  outputs : List DatasetRoute
  expectedOutputs : List DatasetRoute
  adhocStorage : Option AdhocId
  deriving DecidableEq, Repr

/-- A registered job; `slurmId` is the number that the batch scheduler knows it by. -/
structure Job where
  id : JobId
  slurmId : UInt64
  resources : JobResources
  requirements : JobRequirements
  deriving DecidableEq, Repr

/-- What a job learns about its storage when it starts. -/
structure JobInfo where
  jobId : JobId
  controllerAddress : String
  ioProcs : UInt32
  deriving DecidableEq, Repr

end StorageBroker
