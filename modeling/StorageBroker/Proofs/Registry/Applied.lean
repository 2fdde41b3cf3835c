import StorageBroker.Proofs.Registry.Outcome

/-! # How operations end

`Applied` lists once, for every operation, how it can end: what it answers and the registry that it
leaves behind. What later proofs say of all operations they say case by case of this list. -/

set_option autoImplicit false

namespace StorageBroker.Registry

namespace Operation

/-- The moves of a storage between the states of its deployment, and the operations that make
them. -/
inductive Moves (id : AdhocId) : Operation → Deployment → Deployment → Prop
  | begin : Moves id (.beginDeploy id) .undeployed .deploying
  | complete (path : String) : Moves id (.completeDeploy id path) .deploying (.deployed path)
  | abort : Moves id (.abortDeploy id) .deploying .undeployed
  | beginTeardown (path : String) :
      Moves id (.beginTeardown id) (.deployed path) (.tearingDown path)
  | completeTeardown (path : String) :
      Moves id (.completeTeardown id) (.tearingDown path) .undeployed
  | abortTeardown (path : String) :
      Moves id (.abortTeardown id) (.tearingDown path) (.deployed path)

/-- The operations that take a mark back, and find a storage without one. -/
inductive Idles (id : AdhocId) : Operation → Deployment → Prop
  | abort {state : Deployment} (idle : state ≠ .deploying) : Idles id (.abortDeploy id) state
  | abortTeardown {state : Deployment} (idle : ∀ path, state ≠ .tearingDown path) :
      Idles id (.abortTeardown id) state

def reads : Operation → Bool
  | .job _ | .jobBySlurmId _ | .adhoc _ | .pfs _ | .storage _ | .currentClient _ => true
  | _ => false

end Operation

open Operation

/-- The ends of an operation: its answer, and what it leaves behind. -/
inductive Applied (s : Numbered Registry) :
    Operation → Except RegistryError Answer × Numbered Registry → Prop
  | refused {op : Operation} (e : RegistryError) : Applied s op (.error e, s)
  | denied {slurmId : UInt64} {resources : JobResources} {requirements : JobRequirements}
      {adhoc : AdhocId} {entry : AdhocEntry} {client : JobId} {raw : UInt64} {ids : IdAllocator}
      (named : requirements.adhocStorage = some adhoc)
      (found : s.store.adhoc.get? adhoc = some entry) (held : entry.client = some client)
      (drawn : s.ids.allocate = some (raw, ids)) :
      Applied s (.registerJob slurmId resources requirements)
        (.error (.adhocInUse adhoc client), ⟨ids, s.store⟩)
  | read {op : Operation} (answer : Answer) (reads : op.reads = true) : Applied s op (.ok answer, s)
  | jobRegistered {slurmId : UInt64} {resources : JobResources} {requirements : JobRequirements}
      {raw : UInt64} {ids : IdAllocator} {entries : Table AdhocId AdhocEntry}
      (drawn : s.ids.allocate = some (raw, ids))
      (unused : ∀ job ∈ s.store.jobs.values, job.slurmId ≠ slurmId)
      (claims : Claims s.store.adhoc ⟨raw⟩ requirements.adhocStorage entries) :
      Applied s (.registerJob slurmId resources requirements)
        (.ok (.job ⟨⟨raw⟩, slurmId, resources, requirements⟩),
          ⟨ids, { s.store with
            jobs := s.store.jobs.insert ⟨raw⟩ ⟨⟨raw⟩, slurmId, resources, requirements⟩
            adhoc := entries }⟩)
  | jobUpdated {id : JobId} {resources : JobResources} {requirements : Option JobRequirements}
      {job : Job} {entries : Table AdhocId AdhocEntry} (found : s.store.jobs.get? id = some job)
      (moved : rebind s.store.adhoc id job.requirements.adhocStorage
        (requirements.getD job.requirements).adhocStorage = .ok entries) :
      Applied s (.updateJob id resources requirements)
        (.ok (.job { job with resources, requirements := requirements.getD job.requirements }),
          ⟨s.ids, { s.store with
            jobs := s.store.jobs.insert id
              { job with resources, requirements := requirements.getD job.requirements }
            adhoc := entries }⟩)
  | jobRemoved {id : JobId} {job : Job} (found : s.store.jobs.get? id = some job) :
      Applied s (.removeJob id) (.ok (.job job), ⟨s.ids, { s.store with
        jobs := s.store.jobs.erase id
        adhoc := s.store.adhoc.mapValues fun _ entry => entry.release id }⟩)
  | adhocRegistered {name : String} {kind : AdhocKind} {context : AdhocContext}
      {resources : AdhocResources} {raw : UInt64} {ids : IdAllocator}
      (drawn : s.ids.allocate = some (raw, ids)) :
      Applied s (.registerAdhoc name kind context resources)
        (.ok (.adhoc (AdhocEntry.view ⟨name, kind, context, resources, none, .undeployed⟩ ⟨raw⟩)),
          ⟨ids, { s.store with
            adhoc := s.store.adhoc.insert ⟨raw⟩
              ⟨name, kind, context, resources, none, .undeployed⟩ }⟩)
  | adhocUpdated {id : AdhocId} {context : AdhocContext} {caller : Option JobId}
      {entry : AdhocEntry} (found : s.store.adhoc.get? id = some entry)
      (clear : entry.obstacle? id caller = none) :
      Applied s (.updateAdhoc id context caller)
        (.ok (.adhoc (AdhocEntry.view { entry with context } id)),
          ⟨s.ids, { s.store with adhoc := s.store.adhoc.insert id { entry with context } }⟩)
  | adhocRemoved {id : AdhocId} {caller : Option JobId} {entry : AdhocEntry}
      (found : s.store.adhoc.get? id = some entry) (clear : entry.obstacle? id caller = none) :
      Applied s (.removeAdhoc id caller) (.ok (.adhoc (entry.view id)), ⟨s.ids, { s.store with
        jobs := s.store.jobs.mapValues fun _ job => job.forget id
        adhoc := s.store.adhoc.erase id }⟩)
  | bound {id : AdhocId} {job : JobId} {holder : Job} {entries : Table AdhocId AdhocEntry}
      (found : s.store.jobs.get? job = some holder)
      (only : ∀ held, holder.requirements.adhocStorage = some held → held = id)
      (claims : Claims s.store.adhoc job (some id) entries) :
      Applied s (.bind id job) (.ok .done, ⟨s.ids, { s.store with
        jobs := s.store.jobs.insert job (holder.hold id)
        adhoc := entries }⟩)
  | unbound {id : AdhocId} {entry : AdhocEntry} {jobs : Table JobId Job}
      (found : s.store.adhoc.get? id = some entry)
      (sides : (entry.client.bind s.store.jobs.get? = none ∧ jobs = s.store.jobs) ∨
        ∃ client job, entry.client = some client ∧ s.store.jobs.get? client = some job ∧
          jobs = s.store.jobs.insert client (job.forget id)) :
      Applied s (.unbind id) (.ok .done, ⟨s.ids, { s.store with
        jobs, adhoc := s.store.adhoc.insert id { entry with client := none } }⟩)
  | moved {op : Operation} {id : AdhocId} {entry : AdhocEntry} {deployment : Deployment}
      (answer : Answer) (found : s.store.adhoc.get? id = some entry)
      (moves : Moves id op entry.deployment deployment) :
      Applied s op (.ok answer, ⟨s.ids, s.store.setDeployment id entry deployment⟩)
  | idled {op : Operation} {id : AdhocId} {entry : AdhocEntry}
      (found : s.store.adhoc.get? id = some entry) (idles : Idles id op entry.deployment) :
      Applied s op (.ok .done, s)
  | pfsRegistered {name : String} {kind : PfsKind} {context : PfsContext} {raw : UInt64}
      {ids : IdAllocator} (drawn : s.ids.allocate = some (raw, ids)) :
      Applied s (.registerPfs name kind context) (.ok (.pfs ⟨⟨raw⟩, name, kind, context⟩),
        ⟨ids, { s.store with pfs := s.store.pfs.insert ⟨raw⟩ ⟨⟨raw⟩, name, kind, context⟩ }⟩)
  | pfsUpdated {id : PfsId} {context : PfsContext} {pfs : PfsStorage}
      (found : s.store.pfs.get? id = some pfs) :
      Applied s (.updatePfs id context) (.ok (.pfs { pfs with context }),
        ⟨s.ids, { s.store with pfs := s.store.pfs.insert id { pfs with context } }⟩)
  | pfsRemoved {id : PfsId} {pfs : PfsStorage} (found : s.store.pfs.get? id = some pfs) :
      Applied s (.removePfs id) (.ok (.pfs pfs),
        ⟨s.ids, { s.store with pfs := s.store.pfs.erase id }⟩)

theorem Applied.of_reads {α : Type} {s : Numbered Registry} {op : Operation}
    (reads : op.reads = true) (result : Except RegistryError α) (form : α → Answer) :
    Applied s op (result.map form, s) := by
  cases result with
  | error e => exact .refused e
  | ok value => exact .read (form value) reads

theorem apply_applied (s : Numbered Registry) (op : Operation) : Applied s op (apply s op) := by
  cases op with
  | registerJob slurmId resources requirements =>
      simp only [apply]
      rcases registerJob_outcome s slurmId resources requirements with
        ⟨e, refused⟩ | ⟨adhoc, entry, client, raw, ids, named, found, held, drawn, denied⟩ |
        ⟨raw, ids, entries, drawn, unused, claims, done⟩
      · rw [refused]
        exact .refused e
      · rw [denied]
        exact .denied named found held drawn
      · rw [done]
        exact .jobRegistered drawn unused claims
  | updateJob id resources requirements =>
      simp only [apply]
      rcases s.store.updateJob_outcome id resources requirements with
        ⟨e, refused⟩ | ⟨job, entries, found, moved, done⟩
      · rw [refused]
        exact .refused e
      · rw [done]
        exact .jobUpdated found moved
  | removeJob id =>
      simp only [apply]
      rcases s.store.removeJob_outcome id with ⟨-, refused⟩ | ⟨job, found, done⟩
      · rw [refused]
        exact .refused _
      · rw [done]
        exact .jobRemoved found
  | registerAdhoc name kind context resources =>
      simp only [apply]
      rcases registerAdhoc_outcome s name kind context resources with
        ⟨e, refused⟩ | ⟨raw, ids, drawn, done⟩
      · rw [refused]
        exact .refused e
      · rw [done]
        exact .adhocRegistered drawn
  | updateAdhoc id context caller =>
      simp only [apply]
      rcases s.store.updateAdhoc_outcome id context caller with
        ⟨e, refused⟩ | ⟨entry, found, clear, done⟩
      · rw [refused]
        exact .refused e
      · rw [done]
        exact .adhocUpdated found clear
  | removeAdhoc id caller =>
      simp only [apply]
      rcases s.store.removeAdhoc_outcome id caller with ⟨e, refused⟩ | ⟨entry, found, clear, done⟩
      · rw [refused]
        exact .refused e
      · rw [done]
        exact .adhocRemoved found clear
  | bind id job =>
      simp only [apply]
      rcases s.store.bind_outcome id job with
        ⟨e, refused⟩ | ⟨holder, entries, found, only, claims, done⟩
      · rw [refused]
        exact .refused e
      · rw [done]
        exact .bound found only claims
  | unbind id =>
      simp only [apply]
      rcases s.store.unbind_outcome id with ⟨e, refused⟩ | ⟨entry, jobs, found, sides, done⟩
      · rw [refused]
        exact .refused e
      · rw [done]
        exact .unbound found sides
  | beginDeploy id =>
      simp only [apply]
      rcases s.store.beginDeploy_outcome id with ⟨e, refused⟩ | ⟨entry, found, state, done⟩
      · rw [refused]
        exact .refused e
      · rw [done]
        exact .moved _ found (state ▸ .begin)
  | completeDeploy id path =>
      simp only [apply]
      rcases s.store.completeDeploy_outcome id path with ⟨e, refused⟩ | ⟨entry, found, state, done⟩
      · rw [refused]
        exact .refused e
      · rw [done]
        exact .moved _ found (state ▸ .complete path)
  | abortDeploy id =>
      simp only [apply]
      rcases s.store.abortDeploy_outcome id with
        ⟨-, refused⟩ | ⟨entry, found, ⟨state, done⟩ | ⟨idle, done⟩⟩
      · rw [refused]
        exact .refused _
      · rw [done]
        exact .moved _ found (state ▸ .abort)
      · rw [done]
        exact .idled found (.abort idle)
  | beginTeardown id =>
      simp only [apply]
      rcases s.store.beginTeardown_outcome id with ⟨e, refused⟩ | ⟨entry, path, found, state, done⟩
      · rw [refused]
        exact .refused e
      · rw [done]
        exact .moved _ found (state ▸ .beginTeardown path)
  | completeTeardown id =>
      simp only [apply]
      rcases s.store.completeTeardown_outcome id with
        ⟨e, refused⟩ | ⟨entry, path, found, state, done⟩
      · rw [refused]
        exact .refused e
      · rw [done]
        exact .moved _ found (state ▸ .completeTeardown path)
  | abortTeardown id =>
      simp only [apply]
      rcases s.store.abortTeardown_outcome id with
        ⟨-, refused⟩ | ⟨entry, found, ⟨path, state, done⟩ | ⟨idle, done⟩⟩
      · rw [refused]
        exact .refused _
      · rw [done]
        exact .moved _ found (state ▸ .abortTeardown path)
      · rw [done]
        exact .idled found (.abortTeardown idle)
  | registerPfs name kind context =>
      simp only [apply]
      rcases registerPfs_outcome s name kind context with ⟨e, refused⟩ | ⟨raw, ids, drawn, done⟩
      · rw [refused]
        exact .refused e
      · rw [done]
        exact .pfsRegistered drawn
  | updatePfs id context =>
      simp only [apply]
      rcases s.store.updatePfs_outcome id context with ⟨e, refused⟩ | ⟨pfs, found, done⟩
      · rw [refused]
        exact .refused e
      · rw [done]
        exact .pfsUpdated found
  | removePfs id =>
      simp only [apply]
      rcases s.store.removePfs_outcome id with ⟨e, refused⟩ | ⟨pfs, found, done⟩
      · rw [refused]
        exact .refused e
      · rw [done]
        exact .pfsRemoved found
  | job id | jobBySlurmId slurmId | adhoc id | pfs id | storage raw | currentClient id =>
      exact .of_reads rfl _ _

end StorageBroker.Registry
