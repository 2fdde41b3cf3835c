import StorageBroker.Registry.Error
import StorageBroker.Table

/-! # The registry

Jobs, ad-hoc storage and parallel file systems by id. The link between a job and the ad-hoc storage
that it holds is written on both sides: the storage names its client, and the job's requirements
name the storage. Every operation answers, or refuses with an error, and gives the registry that
it leaves behind. -/

set_option autoImplicit false

namespace StorageBroker

/-- Where an ad-hoc storage is on its way up or down. -/
inductive Deployment
  | undeployed
  | deploying
  | deployed (mountPath : String)
  | tearingDown (mountPath : String)
  deriving DecidableEq, Repr

namespace Deployment

def mountPath? : Deployment → Option String
  | .deployed path | .tearingDown path => some path
  | .undeployed | .deploying => none

def isChanging : Deployment → Bool
  | .deploying | .tearingDown _ => true
  | .undeployed | .deployed _ => false

end Deployment

/-- What the registry keeps of an ad-hoc storage. -/
structure AdhocEntry where
  name : String
  kind : AdhocKind
  context : AdhocContext
  resources : AdhocResources
  client : Option JobId
  deployment : Deployment
  deriving DecidableEq, Repr

namespace AdhocEntry

def view (entry : AdhocEntry) (id : AdhocId) : AdhocStorage :=
  ⟨id, entry.name, entry.kind, entry.context, entry.resources, entry.client,
    entry.deployment.mountPath?⟩

def claim (entry : AdhocEntry) (id : AdhocId) (job : JobId) : Except RegistryError AdhocEntry :=
  match entry.client with
  | some client => .error (.adhocInUse id client)
  | none => .ok { entry with client := some job }

def release (entry : AdhocEntry) (job : JobId) : AdhocEntry :=
  if entry.client = some job then { entry with client := none } else entry

/-- What keeps a caller from changing or removing a storage: another client, or a controller. -/
def obstacle? (entry : AdhocEntry) (id : AdhocId) (caller : Option JobId) : Option RegistryError :=
  match entry.client with
  | some client =>
    if caller ≠ some client then some (.adhocInUse id client)
    else if entry.deployment.isChanging then some (.invalidState id .changeInProgress)
    else none
  | none => if entry.deployment.isChanging then some (.invalidState id .changeInProgress) else none

end AdhocEntry

def Job.forget (job : Job) (adhoc : AdhocId) : Job :=
  if job.requirements.adhocStorage = some adhoc then
    { job with requirements := { job.requirements with adhocStorage := none } }
  else job

def Job.hold (job : Job) (adhoc : AdhocId) : Job :=
  { job with requirements := { job.requirements with adhocStorage := some adhoc } }

/-- Jobs, ad-hoc storage and parallel file systems by id. -/
@[ext]
structure Registry where
  jobs : Table JobId Job
  adhoc : Table AdhocId AdhocEntry
  pfs : Table PfsId PfsStorage
  deriving DecidableEq

namespace Registry

def empty : Registry := ⟨.empty, .empty, .empty⟩

instance : Inhabited Registry := ⟨empty⟩

/-! ## Jobs -/

/-- Registers a job under a scheduler number that no other job has. A storage named by its
requirements must be registered and free; the number is drawn before the storage is claimed. -/
def registerJob (s : Numbered Registry) (slurmId : UInt64) (resources : JobResources)
    (requirements : JobRequirements) : Except RegistryError Job × Numbered Registry :=
  if s.store.jobs.values.any fun job => job.slurmId = slurmId then
    (.error (.slurmJobTaken slurmId), s)
  else
    match requirements.adhocStorage with
    | none =>
      match s.ids.allocate with
      | none => (.error .idsExhausted, s)
      | some (raw, ids) =>
        let job : Job := ⟨⟨raw⟩, slurmId, resources, requirements⟩
        (.ok job, ⟨ids, { s.store with jobs := s.store.jobs.insert job.id job }⟩)
    | some adhoc =>
      match s.store.adhoc.get? adhoc with
      | none => (.error (.unknownAdhoc adhoc), s)
      | some entry =>
        match s.ids.allocate with
        | none => (.error .idsExhausted, s)
        | some (raw, ids) =>
          match entry.claim adhoc ⟨raw⟩ with
          | .error e => (.error e, ⟨ids, s.store⟩)
          | .ok claimed =>
            let job : Job := ⟨⟨raw⟩, slurmId, resources, requirements⟩
            (.ok job,
              ⟨ids, { s.store with
                jobs := s.store.jobs.insert job.id job
                adhoc := s.store.adhoc.insert adhoc claimed }⟩)

/-- Releases a storage from a job, if it is registered and the job is its client. -/
def releaseFrom (entries : Table AdhocId AdhocEntry) (adhoc : AdhocId) (job : JobId) :
    Table AdhocId AdhocEntry :=
  match entries.get? adhoc with
  | none => entries
  | some entry => entries.insert adhoc (entry.release job)

/-- Moves a job from one storage to another: claims the new one first, then releases the old. -/
def rebind (entries : Table AdhocId AdhocEntry) (job : JobId) (old new : Option AdhocId) :
    Except RegistryError (Table AdhocId AdhocEntry) :=
  if old = new then .ok entries
  else
    let claimed : Except RegistryError (Table AdhocId AdhocEntry) :=
      match new with
      | none => .ok entries
      | some adhoc =>
        match entries.get? adhoc with
        | none => .error (.unknownAdhoc adhoc)
        | some entry => (entry.claim adhoc job).map (entries.insert adhoc)
    match claimed, old with
    | .ok now, some adhoc => .ok (releaseFrom now adhoc job)
    | result, _ => result

def updateJob (r : Registry) (id : JobId) (resources : JobResources)
    (requirements : Option JobRequirements) : Except RegistryError Job × Registry :=
  match r.jobs.get? id with
  | none => (.error (.jobNotFound id), r)
  | some job =>
    match requirements with
    | none =>
      let updated := { job with resources }
      (.ok updated, { r with jobs := r.jobs.insert id updated })
    | some requirements =>
      match rebind r.adhoc id job.requirements.adhocStorage requirements.adhocStorage with
      | .error e => (.error e, r)
      | .ok adhoc =>
        let updated := { job with resources, requirements }
        (.ok updated, { r with jobs := r.jobs.insert id updated, adhoc })

/-- Removes a job and releases whatever storage has it as client. -/
def removeJob (r : Registry) (id : JobId) : Except RegistryError Job × Registry :=
  match r.jobs.get? id with
  | none => (.error (.jobNotFound id), r)
  | some job =>
    (.ok job, { r with
      jobs := r.jobs.erase id
      adhoc := r.adhoc.mapValues fun _ entry => entry.release id })

def job (r : Registry) (id : JobId) : Except RegistryError Job :=
  match r.jobs.get? id with
  | none => .error (.jobNotFound id)
  | some job => .ok job

def jobBySlurmId (r : Registry) (slurmId : UInt64) : Except RegistryError Job :=
  match r.jobs.values.find? fun job => job.slurmId = slurmId with
  | none => .error (.slurmJobNotFound slurmId)
  | some job => .ok job

/-! ## Ad-hoc storage -/

def registerAdhoc (s : Numbered Registry) (name : String) (kind : AdhocKind)
    (context : AdhocContext) (resources : AdhocResources) :
    Except RegistryError AdhocStorage × Numbered Registry :=
  match s.ids.allocate with
  | none => (.error .idsExhausted, s)
  | some (raw, ids) =>
    let entry : AdhocEntry := ⟨name, kind, context, resources, none, .undeployed⟩
    (.ok (entry.view ⟨raw⟩), ⟨ids, { s.store with adhoc := s.store.adhoc.insert ⟨raw⟩ entry }⟩)

def updateAdhoc (r : Registry) (id : AdhocId) (context : AdhocContext) (caller : Option JobId) :
    Except RegistryError AdhocStorage × Registry :=
  match r.adhoc.get? id with
  | none => (.error (.adhocNotFound id), r)
  | some entry =>
    match entry.obstacle? id caller with
    | some e => (.error e, r)
    | none =>
      let updated := { entry with context }
      (.ok (updated.view id), { r with adhoc := r.adhoc.insert id updated })

/-- Removes a storage, for a caller that nothing keeps from it; jobs forget it. -/
def removeAdhoc (r : Registry) (id : AdhocId) (caller : Option JobId) :
    Except RegistryError AdhocStorage × Registry :=
  match r.adhoc.get? id with
  | none => (.error (.adhocNotFound id), r)
  | some entry =>
    match entry.obstacle? id caller with
    | some e => (.error e, r)
    | none =>
      (.ok (entry.view id), { r with
        jobs := r.jobs.mapValues fun _ job => job.forget id
        adhoc := r.adhoc.erase id })

def adhocStorage (r : Registry) (id : AdhocId) : Except RegistryError AdhocStorage :=
  match r.adhoc.get? id with
  | none => .error (.adhocNotFound id)
  | some entry => .ok (entry.view id)

def adhocStorages (r : Registry) : List AdhocStorage :=
  (r.adhoc.rows.map fun row => row.2.view row.1).mergeSort fun a b => a.id.raw ≤ b.id.raw

/-! ## The link between a job and its storage -/

/-- Makes a job the client of a free storage, unless the job holds another one. -/
def bind (r : Registry) (adhoc : AdhocId) (job : JobId) : Except RegistryError Unit × Registry :=
  match r.jobs.get? job with
  | none => (.error (.jobNotFound job), r)
  | some holder =>
    match r.adhoc.get? adhoc with
    | none => (.error (.adhocNotFound adhoc), r)
    | some entry =>
      match holder.requirements.adhocStorage.filter (· ≠ adhoc) with
      | some held => (.error (.jobAlreadyBound job held), r)
      | none =>
        match entry.claim adhoc job with
        | .error e => (.error e, r)
        | .ok claimed => (.ok (), { r with
            jobs := r.jobs.insert job (holder.hold adhoc)
            adhoc := r.adhoc.insert adhoc claimed })

/-- Drops the client of a storage, whoever it is; that job forgets the storage. -/
def unbind (r : Registry) (adhoc : AdhocId) : Except RegistryError Unit × Registry :=
  match r.adhoc.get? adhoc with
  | none => (.error (.adhocNotFound adhoc), r)
  | some entry =>
    let freed := r.adhoc.insert adhoc { entry with client := none }
    match entry.client with
    | none => (.ok (), { r with adhoc := freed })
    | some client =>
      match r.jobs.get? client with
      | none => (.ok (), { r with adhoc := freed })
      | some job =>
        (.ok (), { r with jobs := r.jobs.insert client (job.forget adhoc), adhoc := freed })

def currentClient (r : Registry) (adhoc : AdhocId) : Except RegistryError (Option JobId) :=
  match r.adhoc.get? adhoc with
  | none => .error (.adhocNotFound adhoc)
  | some entry => .ok entry.client

/-! ## Parallel file systems -/

def registerPfs (s : Numbered Registry) (name : String) (kind : PfsKind) (context : PfsContext) :
    Except RegistryError PfsStorage × Numbered Registry :=
  match s.ids.allocate with
  | none => (.error .idsExhausted, s)
  | some (raw, ids) =>
    let pfs : PfsStorage := ⟨⟨raw⟩, name, kind, context⟩
    (.ok pfs, ⟨ids, { s.store with pfs := s.store.pfs.insert pfs.id pfs }⟩)

/-- Replaces the context of a parallel file system. -/
def updatePfs (r : Registry) (id : PfsId) (context : PfsContext) :
    Except RegistryError PfsStorage × Registry :=
  match r.pfs.get? id with
  | none => (.error (.pfsNotFound id), r)
  | some pfs =>
    let updated := { pfs with context }
    (.ok updated, { r with pfs := r.pfs.insert id updated })

def removePfs (r : Registry) (id : PfsId) : Except RegistryError PfsStorage × Registry :=
  match r.pfs.get? id with
  | none => (.error (.pfsNotFound id), r)
  | some pfs => (.ok pfs, { r with pfs := r.pfs.erase id })

def pfsStorage (r : Registry) (id : PfsId) : Except RegistryError PfsStorage :=
  match r.pfs.get? id with
  | none => .error (.pfsNotFound id)
  | some pfs => .ok pfs

def storage (r : Registry) (raw : UInt64) : Except RegistryError Storage :=
  match r.adhoc.get? ⟨raw⟩ with
  | some entry => .ok (.adhoc (entry.view ⟨raw⟩))
  | none =>
    match r.pfs.get? ⟨raw⟩ with
    | some pfs => .ok (.pfs pfs)
    | none => .error (.storageNotFound raw)

end Registry

end StorageBroker
