import StorageBroker.Job

/-! # Service limits

A limit caps one class of traffic of one entity: a dataset, a node or a job. -/

set_option autoImplicit false

namespace StorageBroker

/-- The kinds of entity that a limit can be set on. -/
inductive LimitScope
  | dataset
  | node
  | job
  deriving DecidableEq, Repr

inductive LimitClass
  | bandwidth
  | iops
  deriving DecidableEq, Repr

def LimitClass.all : List LimitClass := [.bandwidth, .iops]

inductive LimitEntity
  | dataset (dataset : Dataset)
  | node (hostname : String)
  | job (job : JobId)
  deriving DecidableEq, Repr

namespace LimitEntity

def scope : LimitEntity → LimitScope
  | .dataset _ => .dataset
  | .node _ => .node
  | .job _ => .job

def text : LimitEntity → String
  | .dataset d => "dataset:" ++ d.id
  | .node hostname => "node:" ++ hostname
  | .job id => "job:" ++ toString id

instance : ToString LimitEntity := ⟨text⟩

end LimitEntity

/-- A cap on one class of traffic of one entity. -/
structure Limit where
  entity : LimitEntity
  limitClass : LimitClass
  value : UInt64
  deriving DecidableEq, Repr

def Limit.scope (l : Limit) : LimitScope := l.entity.scope

end StorageBroker
