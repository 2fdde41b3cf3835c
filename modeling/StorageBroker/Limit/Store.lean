import StorageBroker.Limit
import StorageBroker.StatusCode
import StorageBroker.Table

/-! # The limit store

The limits of each entity, at most one of each class. -/

set_option autoImplicit false

namespace StorageBroker

/-- The name of a kind of entity, as messages show it. -/
def LimitScope.name : LimitScope → String
  | .dataset => "Dataset"
  | .node => "Node"
  | .job => "Job"

/-- Why a limit operation is refused. -/
inductive LimitError
  | scopeMismatch (scope : LimitScope) (entity : LimitEntity)
  | notFound (entity : LimitEntity)
  deriving DecidableEq, Repr

namespace LimitError

def code : LimitError → StatusCode
  | .scopeMismatch _ _ => .badArguments
  | .notFound _ => .notFound

def message : LimitError → String
  | .scopeMismatch scope entity => s!"entity {entity} is not in scope " ++ scope.name
  | .notFound entity => s!"no limits recorded for {entity}"

end LimitError

/-- The limits of each entity by class; an entity without limits has no row. -/
@[ext]
structure LimitStore where
  rows : Table LimitEntity (Table LimitClass UInt64)
  deriving DecidableEq

namespace LimitStore

def empty : LimitStore := ⟨.empty⟩

instance : Inhabited LimitStore := ⟨empty⟩

def classes (s : LimitStore) (entity : LimitEntity) : Table LimitClass UInt64 :=
  (s.rows.get? entity).getD .empty

def set (s : LimitStore) (limit : Limit) : Option UInt64 × LimitStore :=
  let classes := s.classes limit.entity
  (classes.get? limit.limitClass,
    ⟨s.rows.insert limit.entity (classes.insert limit.limitClass limit.value)⟩)

def get (s : LimitStore) (scope : LimitScope) (entity : LimitEntity) :
    Except LimitError (List Limit) :=
  if entity.scope = scope then
    .ok (LimitClass.all.filterMap fun limitClass =>
      ((s.classes entity).get? limitClass).map fun value => ⟨entity, limitClass, value⟩)
  else .error (.scopeMismatch scope entity)

/-- Removes the limit of one class, or every limit, of an entity and counts them. -/
def remove (s : LimitStore) (entity : LimitEntity) (limitClass : Option LimitClass) :
    Except LimitError Nat × LimitStore :=
  match s.rows.get? entity with
  | none => (.error (.notFound entity), s)
  | some classes =>
    match limitClass with
    | none => (.ok classes.size, ⟨s.rows.erase entity⟩)
    | some limitClass =>
      if classes.contains limitClass then
        let rest := classes.erase limitClass
        (.ok 1, ⟨if rest.size = 0 then s.rows.erase entity else s.rows.insert entity rest⟩)
      else (.error (.notFound entity), s)

def countForJob (s : LimitStore) (job : JobId) : Nat := (s.classes (.job job)).size

def purgeJob (s : LimitStore) (job : JobId) : Nat × LimitStore :=
  (s.countForJob job, ⟨s.rows.erase (.job job)⟩)

/-! ## Operations as data -/

inductive Operation
  | set (limit : Limit)
  | get (scope : LimitScope) (entity : LimitEntity)
  | remove (entity : LimitEntity) (limitClass : Option LimitClass)
  | purgeJob (job : JobId)
  | countForJob (job : JobId)
  deriving DecidableEq, Repr

inductive Answer
  | previous (value : Option UInt64)
  | limits (limits : List Limit)
  | count (n : Nat)
  deriving DecidableEq, Repr

def apply (s : LimitStore) : Operation → Except LimitError Answer × LimitStore
  | .set limit =>
    let (previous, s) := s.set limit
    (.ok (.previous previous), s)
  | .get scope entity => ((s.get scope entity).map .limits, s)
  | .remove entity limitClass =>
    let (answer, s) := s.remove entity limitClass
    (answer.map .count, s)
  | .purgeJob job =>
    let (n, s) := s.purgeJob job
    (.ok (.count n), s)
  | .countForJob job => (.ok (.count (s.countForJob job)), s)

def run (s : LimitStore) (history : List Operation) : LimitStore :=
  history.foldl (fun s op => (apply s op).2) s

end LimitStore

end StorageBroker
