import StorageBroker.Proofs.Registry.Applied

/-! # The effects of the registry

`Effect` lists the ways in which a registry can change in one operation, whichever operation it
is. What every effect keeps, every operation keeps, and so does every history. -/

set_option autoImplicit false

namespace StorageBroker

namespace Registry

/-! ## What an operation is for -/

namespace Operation

def removed? : Operation → Option JobId
  | .removeJob id => some id
  | _ => none

/-- Whether an operation records that a controller has done its work. -/
def completes : Operation → Bool
  | .completeDeploy _ _ | .completeTeardown _ => true
  | _ => false

/-- Whether an operation is for the deployment of a storage. -/
def moves : Operation → Bool
  | .beginDeploy _ | .abortDeploy _ | .beginTeardown _ | .abortTeardown _ => true
  | op => op.completes

end Operation

/-! ## Effects -/

/-- What an operation can do to a registry and its allocator. -/
inductive Effect (op : Operation) (s : Numbered Registry) : Numbered Registry → Prop
  | nothing : Effect op s s
  | number {raw : UInt64} {ids : IdAllocator} (drawn : s.ids.allocate = some (raw, ids)) :
      Effect op s ⟨ids, s.store⟩
  | jobAdded {raw : UInt64} {ids : IdAllocator} {job : Job} {entries : Table AdhocId AdhocEntry}
      (drawn : s.ids.allocate = some (raw, ids)) (numbered : job.id = ⟨raw⟩)
      (unused : ∀ other ∈ s.store.jobs.values, other.slurmId ≠ job.slurmId)
      (claims : Claims s.store.adhoc ⟨raw⟩ job.requirements.adhocStorage entries) :
      Effect op s ⟨ids, { s.store with jobs := s.store.jobs.insert ⟨raw⟩ job, adhoc := entries }⟩
  | jobUpdated {id : JobId} {job updated : Job} {entries : Table AdhocId AdhocEntry}
      (found : s.store.jobs.get? id = some job)
      (kept : updated.id = job.id ∧ updated.slurmId = job.slurmId)
      (moved : rebind s.store.adhoc id job.requirements.adhocStorage
        updated.requirements.adhocStorage = .ok entries) :
      Effect op s ⟨s.ids, { s.store with jobs := s.store.jobs.insert id updated, adhoc := entries }⟩
  | jobRemoved {id : JobId} {job : Job} (asked : op = .removeJob id)
      (found : s.store.jobs.get? id = some job) :
      Effect op s ⟨s.ids, { s.store with
        jobs := s.store.jobs.erase id
        adhoc := s.store.adhoc.mapValues fun _ entry => entry.release id }⟩
  | adhocAdded {raw : UInt64} {ids : IdAllocator} {entry : AdhocEntry}
      (drawn : s.ids.allocate = some (raw, ids)) (unclaimed : entry.client = none)
      (down : entry.deployment = .undeployed) :
      Effect op s ⟨ids, { s.store with adhoc := s.store.adhoc.insert ⟨raw⟩ entry }⟩
  | contextSet {id : AdhocId} {entry : AdhocEntry} (context : AdhocContext)
      (found : s.store.adhoc.get? id = some entry)
      (still : entry.deployment.isChanging = false) :
      Effect op s ⟨s.ids, { s.store with adhoc := s.store.adhoc.insert id { entry with context } }⟩
  | adhocRemoved {id : AdhocId} {entry : AdhocEntry} (found : s.store.adhoc.get? id = some entry)
      (still : entry.deployment.isChanging = false) :
      Effect op s ⟨s.ids, { s.store with
        jobs := s.store.jobs.mapValues fun _ job => job.forget id
        adhoc := s.store.adhoc.erase id }⟩
  | bound {id : AdhocId} {job : JobId} {holder : Job} {entries : Table AdhocId AdhocEntry}
      (found : s.store.jobs.get? job = some holder)
      (only : ∀ held, holder.requirements.adhocStorage = some held → held = id)
      (claims : Claims s.store.adhoc job (some id) entries) :
      Effect op s ⟨s.ids, { s.store with
        jobs := s.store.jobs.insert job (holder.hold id)
        adhoc := entries }⟩
  | unbound {id : AdhocId} {entry : AdhocEntry} {jobs : Table JobId Job}
      (found : s.store.adhoc.get? id = some entry)
      (sides : (entry.client.bind s.store.jobs.get? = none ∧ jobs = s.store.jobs) ∨
        ∃ client job, entry.client = some client ∧ s.store.jobs.get? client = some job ∧
          jobs = s.store.jobs.insert client (job.forget id)) :
      Effect op s ⟨s.ids, { s.store with
        jobs, adhoc := s.store.adhoc.insert id { entry with client := none } }⟩
  | deploymentSet {id : AdhocId} {entry : AdhocEntry} {deployment : Deployment}
      (found : s.store.adhoc.get? id = some entry)
      (moves : Operation.Moves id op entry.deployment deployment) :
      Effect op s ⟨s.ids, s.store.setDeployment id entry deployment⟩
  | pfsAdded {raw : UInt64} {ids : IdAllocator} {pfs : PfsStorage}
      (drawn : s.ids.allocate = some (raw, ids)) (numbered : pfs.id = ⟨raw⟩) :
      Effect op s ⟨ids, { s.store with pfs := s.store.pfs.insert ⟨raw⟩ pfs }⟩
  | pfsUpdated {id : PfsId} {pfs : PfsStorage} (context : PfsContext)
      (found : s.store.pfs.get? id = some pfs) :
      Effect op s ⟨s.ids, { s.store with pfs := s.store.pfs.insert id { pfs with context } }⟩
  | pfsRemoved {id : PfsId} {pfs : PfsStorage} (found : s.store.pfs.get? id = some pfs) :
      Effect op s ⟨s.ids, { s.store with pfs := s.store.pfs.erase id }⟩

theorem Applied.effect {s : Numbered Registry} {op : Operation}
    {result : Except RegistryError Answer × Numbered Registry} (applied : Applied s op result) :
    Effect op s result.2 := by
  cases applied with
  | refused e => exact .nothing
  | denied named found held drawn => exact .number drawn
  | read answer reads => exact .nothing
  | jobRegistered drawn unused claims => exact .jobAdded drawn rfl unused claims
  | jobUpdated found moved => exact .jobUpdated found ⟨rfl, rfl⟩ moved
  | jobRemoved found => exact .jobRemoved rfl found
  | adhocRegistered drawn => exact .adhocAdded drawn rfl rfl
  | @adhocUpdated id context caller entry found clear =>
      exact .contextSet context found (isChanging_of_no_obstacle clear)
  | adhocRemoved found clear => exact .adhocRemoved found (isChanging_of_no_obstacle clear)
  | bound found only claims => exact .bound found only claims
  | unbound found sides => exact .unbound found sides
  | moved answer found moves => exact .deploymentSet found moves
  | idled found idles => exact .nothing
  | pfsRegistered drawn => exact .pfsAdded drawn rfl
  | @pfsUpdated id context pfs found => exact .pfsUpdated context found
  | pfsRemoved found => exact .pfsRemoved found

theorem apply_effect (s : Numbered Registry) (op : Operation) :
    Effect op s (apply s op).2 :=
  (apply_applied s op).effect

/-- Only a removal takes a job off the registry. -/
theorem Effect.keeps_jobs {op : Operation} {s s' : Numbered Registry} (effect : Effect op s s')
    (stays : op.removed? = none) (id : JobId) (registered : (s.store.jobs.get? id).isSome) :
    (s'.store.jobs.get? id).isSome := by
  have inserted : ∀ (x : JobId) (job : Job), ((s.store.jobs.insert x job).get? id).isSome := by
    intro x job
    rw [Table.get?_insert]
    split
    · rfl
    · exact registered
  cases effect with
  | jobAdded drawn numbered unused claims => exact inserted _ _
  | jobUpdated found kept moved => exact inserted _ _
  | jobRemoved asked found => exact absurd stays (by simp [asked, Operation.removed?])
  | adhocRemoved found still =>
      simp only [Table.get?_mapValues, Option.isSome_map]
      exact registered
  | bound found only claims => exact inserted _ _
  | unbound found sides =>
      rcases sides with ⟨-, rfl⟩ | ⟨client, job, -, -, rfl⟩
      · exact registered
      · exact inserted _ _
  | nothing | number drawn | adhocAdded drawn unclaimed down | contextSet context found still
  | deploymentSet found moves | pfsAdded drawn numbered | pfsUpdated context found
  | pfsRemoved found => exact registered

theorem run_invariant {P : Numbered Registry → Prop}
    (kept : ∀ op s s', Effect op s s' → P s → P s') (s : Numbered Registry) (initial : P s)
    (history : List Operation) : P (run s history) := by
  induction history generalizing s with
  | nil => exact initial
  | cons op rest ih => exact ih (apply s op).2 (kept op s _ (apply_effect s op) initial)

end Registry

end StorageBroker
