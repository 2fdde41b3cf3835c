import StorageBroker.Registry.Operation

/-! # What an operation of the registry can do

One theorem for each operation lists all that it can do: it is refused and leaves the registry as
it was, or it is carried out and the registry it leaves behind is written out in terms of the one
before. Later proofs open an operation by its outcome and never by its definition. -/

set_option autoImplicit false

namespace StorageBroker.Registry

/-- The storages after a job has claimed the one that it names, if it names one. -/
inductive Claims (entries : Table AdhocId AdhocEntry) (job : JobId) :
    Option AdhocId → Table AdhocId AdhocEntry → Prop
  | nothing : Claims entries job none entries
  | free {adhoc : AdhocId} {entry : AdhocEntry} (found : entries.get? adhoc = some entry)
      (unclaimed : entry.client = none) :
      Claims entries job (some adhoc) (entries.insert adhoc { entry with client := some job })

theorem claim_ok {entry claimed : AdhocEntry} {id : AdhocId} {job : JobId}
    (granted : entry.claim id job = .ok claimed) :
    entry.client = none ∧ claimed = { entry with client := some job } := by
  simp only [AdhocEntry.claim] at granted
  cases held : entry.client with
  | some client => simp [held] at granted
  | none =>
      rw [held] at granted
      exact ⟨rfl, (Except.ok.inj granted).symm⟩

theorem claim_error {entry : AdhocEntry} {id : AdhocId} {job : JobId} {e : RegistryError}
    (denied : entry.claim id job = .error e) :
    ∃ client, entry.client = some client ∧ e = .adhocInUse id client := by
  simp only [AdhocEntry.claim] at denied
  cases held : entry.client with
  | some client =>
      rw [held] at denied
      exact ⟨client, rfl, (Except.error.inj denied).symm⟩
  | none => simp [held] at denied

/-! ## Jobs -/

/-- A registration is refused, or draws a number in vain because its storage has a client, or is
carried out. -/
theorem registerJob_outcome (s : Numbered Registry) (slurmId : UInt64) (resources : JobResources)
    (requirements : JobRequirements) :
    (∃ e, registerJob s slurmId resources requirements = (.error e, s)) ∨
    (∃ adhoc entry client raw ids,
      requirements.adhocStorage = some adhoc ∧ s.store.adhoc.get? adhoc = some entry ∧
      entry.client = some client ∧ s.ids.allocate = some (raw, ids) ∧
      registerJob s slurmId resources requirements =
        (.error (.adhocInUse adhoc client), ⟨ids, s.store⟩)) ∨
    ∃ raw ids entries,
      s.ids.allocate = some (raw, ids) ∧
      (∀ job ∈ s.store.jobs.values, job.slurmId ≠ slurmId) ∧
      Claims s.store.adhoc ⟨raw⟩ requirements.adhocStorage entries ∧
      registerJob s slurmId resources requirements =
        (.ok ⟨⟨raw⟩, slurmId, resources, requirements⟩,
          ⟨ids, { s.store with
            jobs := s.store.jobs.insert ⟨raw⟩ ⟨⟨raw⟩, slurmId, resources, requirements⟩
            adhoc := entries }⟩) := by
  unfold registerJob
  by_cases taken : (s.store.jobs.values.any fun job => job.slurmId = slurmId) = true
  · exact .inl ⟨_, if_pos taken⟩
  rw [if_neg taken]
  have unused : ∀ job ∈ s.store.jobs.values, job.slurmId ≠ slurmId := by
    simpa using taken
  cases named : requirements.adhocStorage with
  | none =>
      cases drawn : s.ids.allocate with
      | none => exact .inl ⟨_, rfl⟩
      | some next => exact .inr (.inr ⟨next.1, next.2, _, rfl, unused, .nothing, rfl⟩)
  | some adhoc =>
      cases found : s.store.adhoc.get? adhoc with
      | none => exact .inl ⟨_, by simp only [found]; rfl⟩
      | some entry =>
          cases drawn : s.ids.allocate with
          | none => exact .inl ⟨_, by simp only [found]; rfl⟩
          | some next =>
              cases granted : entry.claim adhoc ⟨next.1⟩ with
              | error e =>
                  obtain ⟨client, held, rfl⟩ := claim_error granted
                  refine .inr (.inl ⟨adhoc, entry, client, next.1, next.2, rfl, found, held,
                    rfl, ?_⟩)
                  simp only [found, granted]
              | ok claimed =>
                  obtain ⟨free, rfl⟩ := claim_ok granted
                  refine .inr (.inr ⟨next.1, next.2, _, rfl, unused, .free found free, ?_⟩)
                  simp only [found, granted]

/-- A registration that is refused because the storage has a client has drawn a number. -/
theorem registerJob_in_use {s : Numbered Registry} {slurmId : UInt64} {resources : JobResources}
    {requirements : JobRequirements} {adhoc : AdhocId} {client : JobId}
    (denied :
      (registerJob s slurmId resources requirements).1 = .error (.adhocInUse adhoc client)) :
    ∃ raw ids, s.ids.allocate = some (raw, ids) ∧
      (registerJob s slurmId resources requirements).2 = ⟨ids, s.store⟩ := by
  unfold registerJob at denied ⊢
  by_cases taken : (s.store.jobs.values.any fun job => job.slurmId = slurmId) = true
  · rw [if_pos taken] at denied
    exact absurd denied (by simp)
  · rw [if_neg taken] at denied ⊢
    cases named : requirements.adhocStorage with
    | none => cases drawn : s.ids.allocate <;> simp [named, drawn] at denied
    | some target =>
        cases found : s.store.adhoc.get? target with
        | none => simp [named, found] at denied
        | some entry =>
            cases drawn : s.ids.allocate with
            | none => simp [named, found, drawn] at denied
            | some next =>
                cases granted : entry.claim target ⟨next.1⟩ with
                | error e => exact ⟨next.1, next.2, rfl, by simp only [found, granted]⟩
                | ok claimed => simp [named, found, drawn, granted] at denied

/-- A job that stays with its storage changes no storage; one that moves claims the new storage
first and then releases the old one. -/
theorem rebind_ok {entries now : Table AdhocId AdhocEntry} {job : JobId} {old new : Option AdhocId}
    (moved : rebind entries job old new = .ok now) :
    (old = new ∧ now = entries) ∨
    (old ≠ new ∧ ∃ claimed, Claims entries job new claimed ∧
      now = old.elim claimed fun adhoc => releaseFrom claimed adhoc job) := by
  unfold rebind at moved
  by_cases stays : old = new
  · rw [if_pos stays] at moved
    exact .inl ⟨stays, (Except.ok.inj moved).symm⟩
  rw [if_neg stays] at moved
  refine .inr ⟨stays, ?_⟩
  cases new with
  | none =>
      refine ⟨entries, .nothing, ?_⟩
      cases old with
      | none => exact absurd rfl stays
      | some adhoc => exact (Except.ok.inj moved).symm
  | some target =>
      cases found : entries.get? target with
      | none => cases old <;> simp [found] at moved
      | some entry =>
          cases granted : entry.claim target job with
          | error e => cases old <;> simp [found, granted, Except.map] at moved
          | ok claimed =>
              obtain ⟨free, rfl⟩ := claim_ok granted
              refine ⟨_, .free found free, ?_⟩
              cases old <;> simp only [found, granted, Except.map] at moved <;>
                exact (Except.ok.inj moved).symm

/-- An update is refused, or moves the job to the storage that it requires from now on. -/
theorem updateJob_outcome (r : Registry) (id : JobId) (resources : JobResources)
    (requirements : Option JobRequirements) :
    (∃ e, r.updateJob id resources requirements = (.error e, r)) ∨
    ∃ job entries, r.jobs.get? id = some job ∧
      rebind r.adhoc id job.requirements.adhocStorage
        (requirements.getD job.requirements).adhocStorage = .ok entries ∧
      r.updateJob id resources requirements =
        (.ok { job with resources, requirements := requirements.getD job.requirements },
          { r with
            jobs := r.jobs.insert id
              { job with resources, requirements := requirements.getD job.requirements }
            adhoc := entries }) := by
  unfold updateJob
  cases found : r.jobs.get? id with
  | none => exact .inl ⟨_, rfl⟩
  | some job =>
      cases requirements with
      | none => exact .inr ⟨job, r.adhoc, rfl, if_pos rfl, rfl⟩
      | some needs =>
          cases moved : rebind r.adhoc id job.requirements.adhocStorage needs.adhocStorage with
          | error e => exact .inl ⟨e, by simp only [moved]⟩
          | ok entries =>
              exact .inr ⟨job, entries, rfl, moved, by simp only [moved, Option.getD_some]⟩

/-- A removal is refused, or drops the job and releases its storage. -/
theorem removeJob_outcome (r : Registry) (id : JobId) :
    (r.jobs.get? id = none ∧ r.removeJob id = (.error (.jobNotFound id), r)) ∨
    ∃ job, r.jobs.get? id = some job ∧
      r.removeJob id = (.ok job, { r with
        jobs := r.jobs.erase id
        adhoc := r.adhoc.mapValues fun _ entry => entry.release id }) := by
  unfold removeJob
  cases found : r.jobs.get? id with
  | none => exact .inl ⟨rfl, rfl⟩
  | some job => exact .inr ⟨job, rfl, rfl⟩

/-! ## Ad-hoc storage -/

/-- A registration is refused, or records an unclaimed and undeployed storage under a new number. -/
theorem registerAdhoc_outcome (s : Numbered Registry) (name : String) (kind : AdhocKind)
    (context : AdhocContext) (resources : AdhocResources) :
    (∃ e, registerAdhoc s name kind context resources = (.error e, s)) ∨
    ∃ raw ids, s.ids.allocate = some (raw, ids) ∧
      registerAdhoc s name kind context resources =
        (.ok (AdhocEntry.view ⟨name, kind, context, resources, none, .undeployed⟩ ⟨raw⟩),
          ⟨ids, { s.store with
            adhoc := s.store.adhoc.insert ⟨raw⟩
              ⟨name, kind, context, resources, none, .undeployed⟩ }⟩) := by
  unfold registerAdhoc
  cases drawn : s.ids.allocate with
  | none => exact .inl ⟨_, rfl⟩
  | some next => exact .inr ⟨next.1, next.2, rfl, rfl⟩

/-- Nothing keeps a caller from a storage only while no controller is at work on it. -/
theorem isChanging_of_no_obstacle {entry : AdhocEntry} {id : AdhocId} {caller : Option JobId}
    (clear : entry.obstacle? id caller = none) : entry.deployment.isChanging = false := by
  unfold AdhocEntry.obstacle? at clear
  cases held : entry.client with
  | none =>
      rw [held] at clear
      by_cases changing : entry.deployment.isChanging = true
      · simp [changing] at clear
      · exact Bool.eq_false_iff.mpr changing
  | some client =>
      rw [held] at clear
      by_cases changing : entry.deployment.isChanging = true
      · by_cases stranger : caller ≠ some client <;> simp [changing, stranger] at clear
      · exact Bool.eq_false_iff.mpr changing

/-- An update is refused, or sets the context of a storage that nothing keeps the caller from. -/
theorem updateAdhoc_outcome (r : Registry) (id : AdhocId) (context : AdhocContext)
    (caller : Option JobId) :
    (∃ e, r.updateAdhoc id context caller = (.error e, r)) ∨
    ∃ entry, r.adhoc.get? id = some entry ∧ entry.obstacle? id caller = none ∧
      r.updateAdhoc id context caller =
        (.ok (AdhocEntry.view { entry with context } id),
          { r with adhoc := r.adhoc.insert id { entry with context } }) := by
  unfold updateAdhoc
  cases found : r.adhoc.get? id with
  | none => exact .inl ⟨_, rfl⟩
  | some entry =>
      cases clear : entry.obstacle? id caller with
      | some e => exact .inl ⟨e, by simp only [clear]⟩
      | none => exact .inr ⟨entry, rfl, clear, by simp only [clear]⟩

/-- A removal is refused, or drops a storage that nothing keeps the caller from; jobs forget it. -/
theorem removeAdhoc_outcome (r : Registry) (id : AdhocId) (caller : Option JobId) :
    (∃ e, r.removeAdhoc id caller = (.error e, r)) ∨
    ∃ entry, r.adhoc.get? id = some entry ∧ entry.obstacle? id caller = none ∧
      r.removeAdhoc id caller =
        (.ok (entry.view id), { r with
          jobs := r.jobs.mapValues fun _ job => job.forget id
          adhoc := r.adhoc.erase id }) := by
  unfold removeAdhoc
  cases found : r.adhoc.get? id with
  | none => exact .inl ⟨_, rfl⟩
  | some entry =>
      cases clear : entry.obstacle? id caller with
      | some e => exact .inl ⟨e, by simp only [clear]⟩
      | none => exact .inr ⟨entry, rfl, clear, by simp only [clear]⟩

/-! ## The link between a job and its storage -/

/-- Binding is refused, or makes a job that holds no other storage the client of a free one. -/
theorem bind_outcome (r : Registry) (adhoc : AdhocId) (job : JobId) :
    (∃ e, r.bind adhoc job = (.error e, r)) ∨
    ∃ holder entries, r.jobs.get? job = some holder ∧
      (∀ held, holder.requirements.adhocStorage = some held → held = adhoc) ∧
      Claims r.adhoc job (some adhoc) entries ∧
      r.bind adhoc job = (.ok (), { r with
        jobs := r.jobs.insert job (holder.hold adhoc)
        adhoc := entries }) := by
  unfold bind
  cases registered : r.jobs.get? job with
  | none => exact .inl ⟨_, rfl⟩
  | some holder =>
      cases found : r.adhoc.get? adhoc with
      | none => exact .inl ⟨_, rfl⟩
      | some entry =>
          cases other : holder.requirements.adhocStorage.filter (· ≠ adhoc) with
          | some held => exact .inl ⟨_, by simp only [other]; rfl⟩
          | none =>
              cases granted : entry.claim adhoc job with
              | error e => exact .inl ⟨e, by simp only [other, granted]⟩
              | ok claimed =>
                  obtain ⟨free, rfl⟩ := claim_ok granted
                  refine .inr ⟨holder, _, rfl, ?_, .free found free, by simp only [other, granted]⟩
                  intro held holds
                  rw [holds, Option.filter_some] at other
                  by_cases same : held = adhoc
                  · exact same
                  · simp [same] at other

/-- Unbinding is refused, or drops the client of a storage; a registered client forgets it. -/
theorem unbind_outcome (r : Registry) (adhoc : AdhocId) :
    (∃ e, r.unbind adhoc = (.error e, r)) ∨
    ∃ entry jobs, r.adhoc.get? adhoc = some entry ∧
      ((entry.client.bind r.jobs.get? = none ∧ jobs = r.jobs) ∨
        ∃ client job, entry.client = some client ∧ r.jobs.get? client = some job ∧
          jobs = r.jobs.insert client (job.forget adhoc)) ∧
      r.unbind adhoc = (.ok (), { r with
        jobs, adhoc := r.adhoc.insert adhoc { entry with client := none } }) := by
  unfold unbind
  cases found : r.adhoc.get? adhoc with
  | none => exact .inl ⟨_, rfl⟩
  | some entry =>
      refine .inr ⟨entry, ?_⟩
      cases held : entry.client with
      | none => exact ⟨r.jobs, rfl, .inl ⟨rfl, rfl⟩, by simp only [held]⟩
      | some client =>
          cases registered : r.jobs.get? client with
          | none =>
              exact ⟨r.jobs, rfl, .inl ⟨registered, rfl⟩, by simp only [held, registered]⟩
          | some job =>
              exact ⟨_, rfl, .inr ⟨client, job, rfl, registered, rfl⟩,
                by simp only [held, registered]⟩

/-! ## Deployment and teardown -/

/-- Beginning a deployment is refused or marks an undeployed storage. -/
theorem beginDeploy_outcome (r : Registry) (id : AdhocId) :
    (∃ e, r.beginDeploy id = (.error e, r)) ∨
    ∃ entry, r.adhoc.get? id = some entry ∧ entry.deployment = .undeployed ∧
      r.beginDeploy id = (.ok (entry.plan id none), r.setDeployment id entry .deploying) := by
  unfold beginDeploy
  cases found : r.adhoc.get? id with
  | none => exact .inl ⟨_, rfl⟩
  | some entry =>
      cases state : entry.deployment with
      | undeployed => exact .inr ⟨entry, rfl, state, by simp only [state]⟩
      | deploying => exact .inl ⟨_, by simp only [state]; rfl⟩
      | deployed path => exact .inl ⟨_, by simp only [state]; rfl⟩
      | tearingDown path => exact .inl ⟨_, by simp only [state]; rfl⟩

/-- Completing a deployment is refused or records the mount path of a storage being deployed. -/
theorem completeDeploy_outcome (r : Registry) (id : AdhocId) (path : String) :
    (∃ e, r.completeDeploy id path = (.error e, r)) ∨
    ∃ entry, r.adhoc.get? id = some entry ∧ entry.deployment = .deploying ∧
      r.completeDeploy id path =
        (.ok (AdhocEntry.view { entry with deployment := .deployed path } id),
          r.setDeployment id entry (.deployed path)) := by
  unfold completeDeploy
  cases found : r.adhoc.get? id with
  | none => exact .inl ⟨_, rfl⟩
  | some entry =>
      cases state : entry.deployment with
      | undeployed => exact .inl ⟨_, by simp only [state]; rfl⟩
      | deploying => exact .inr ⟨entry, rfl, state, by simp only [state]⟩
      | deployed path => exact .inl ⟨_, by simp only [state]; rfl⟩
      | tearingDown path => exact .inl ⟨_, by simp only [state]; rfl⟩

/-- Aborting a deployment fails for an unknown storage only; it takes back a mark, if any. -/
theorem abortDeploy_outcome (r : Registry) (id : AdhocId) :
    (r.adhoc.get? id = none ∧ r.abortDeploy id = (.error (.adhocNotFound id), r)) ∨
    ∃ entry, r.adhoc.get? id = some entry ∧
      ((entry.deployment = .deploying ∧
          r.abortDeploy id = (.ok (), r.setDeployment id entry .undeployed)) ∨
        (entry.deployment ≠ .deploying ∧ r.abortDeploy id = (.ok (), r))) := by
  unfold abortDeploy
  cases found : r.adhoc.get? id with
  | none => exact .inl ⟨rfl, rfl⟩
  | some entry =>
      refine .inr ⟨entry, rfl, ?_⟩
      cases state : entry.deployment with
      | undeployed => exact .inr ⟨by simp, by simp only [state]⟩
      | deploying => exact .inl ⟨rfl, by simp only [state]⟩
      | deployed path => exact .inr ⟨by simp, by simp only [state]⟩
      | tearingDown path => exact .inr ⟨by simp, by simp only [state]⟩

/-- Beginning a teardown is refused or marks a deployed storage. -/
theorem beginTeardown_outcome (r : Registry) (id : AdhocId) :
    (∃ e, r.beginTeardown id = (.error e, r)) ∨
    ∃ entry path, r.adhoc.get? id = some entry ∧ entry.deployment = .deployed path ∧
      r.beginTeardown id =
        (.ok (entry.plan id (some path)), r.setDeployment id entry (.tearingDown path)) := by
  unfold beginTeardown
  cases found : r.adhoc.get? id with
  | none => exact .inl ⟨_, rfl⟩
  | some entry =>
      cases state : entry.deployment with
      | undeployed => exact .inl ⟨_, by simp only [state]; rfl⟩
      | deploying => exact .inl ⟨_, by simp only [state]; rfl⟩
      | deployed path => exact .inr ⟨entry, path, rfl, state, by simp only [state]⟩
      | tearingDown path => exact .inl ⟨_, by simp only [state]; rfl⟩

/-- Completing a teardown is refused or drops the deployment of a storage being torn down. -/
theorem completeTeardown_outcome (r : Registry) (id : AdhocId) :
    (∃ e, r.completeTeardown id = (.error e, r)) ∨
    ∃ entry path, r.adhoc.get? id = some entry ∧ entry.deployment = .tearingDown path ∧
      r.completeTeardown id =
        (.ok (AdhocEntry.view { entry with deployment := .undeployed } id),
          r.setDeployment id entry .undeployed) := by
  unfold completeTeardown
  cases found : r.adhoc.get? id with
  | none => exact .inl ⟨_, rfl⟩
  | some entry =>
      cases state : entry.deployment with
      | undeployed => exact .inl ⟨_, by simp only [state]; rfl⟩
      | deploying => exact .inl ⟨_, by simp only [state]; rfl⟩
      | deployed path => exact .inl ⟨_, by simp only [state]; rfl⟩
      | tearingDown path => exact .inr ⟨entry, path, rfl, state, by simp only [state]⟩

/-- Aborting a teardown fails for an unknown storage only; it takes back a mark, if any. -/
theorem abortTeardown_outcome (r : Registry) (id : AdhocId) :
    (r.adhoc.get? id = none ∧ r.abortTeardown id = (.error (.adhocNotFound id), r)) ∨
    ∃ entry, r.adhoc.get? id = some entry ∧
      ((∃ path, entry.deployment = .tearingDown path ∧
          r.abortTeardown id = (.ok (), r.setDeployment id entry (.deployed path))) ∨
        ((∀ path, entry.deployment ≠ .tearingDown path) ∧ r.abortTeardown id = (.ok (), r))) := by
  unfold abortTeardown
  cases found : r.adhoc.get? id with
  | none => exact .inl ⟨rfl, rfl⟩
  | some entry =>
      refine .inr ⟨entry, rfl, ?_⟩
      cases state : entry.deployment with
      | undeployed => exact .inr ⟨by simp, by simp only [state]⟩
      | deploying => exact .inr ⟨by simp, by simp only [state]⟩
      | deployed path => exact .inr ⟨by simp, by simp only [state]⟩
      | tearingDown path => exact .inl ⟨path, rfl, by simp only [state]⟩

/-! ## Parallel file systems -/

/-- Registering a parallel file system is refused or records it under a new number. -/
theorem registerPfs_outcome (s : Numbered Registry) (name : String) (kind : PfsKind)
    (context : PfsContext) :
    (∃ e, registerPfs s name kind context = (.error e, s)) ∨
    ∃ raw ids, s.ids.allocate = some (raw, ids) ∧
      registerPfs s name kind context = (.ok ⟨⟨raw⟩, name, kind, context⟩,
        ⟨ids, { s.store with pfs := s.store.pfs.insert ⟨raw⟩ ⟨⟨raw⟩, name, kind, context⟩ }⟩) := by
  unfold registerPfs
  cases drawn : s.ids.allocate with
  | none => exact .inl ⟨_, rfl⟩
  | some next => exact .inr ⟨next.1, next.2, rfl, rfl⟩

/-- Updating a parallel file system is refused or replaces its context. -/
theorem updatePfs_outcome (r : Registry) (id : PfsId) (context : PfsContext) :
    (∃ e, r.updatePfs id context = (.error e, r)) ∨
    ∃ pfs, r.pfs.get? id = some pfs ∧ r.updatePfs id context =
      (.ok { pfs with context }, { r with pfs := r.pfs.insert id { pfs with context } }) := by
  unfold updatePfs
  cases found : r.pfs.get? id with
  | none => exact .inl ⟨_, rfl⟩
  | some pfs => exact .inr ⟨pfs, rfl, rfl⟩

/-- Removing a parallel file system is refused or drops it. -/
theorem removePfs_outcome (r : Registry) (id : PfsId) :
    (∃ e, r.removePfs id = (.error e, r)) ∨
    ∃ pfs, r.pfs.get? id = some pfs ∧
      r.removePfs id = (.ok pfs, { r with pfs := r.pfs.erase id }) := by
  unfold removePfs
  cases found : r.pfs.get? id with
  | none => exact .inl ⟨_, rfl⟩
  | some pfs => exact .inr ⟨pfs, rfl, rfl⟩

/-! ## Reading -/

theorem job_eq_ok {r : Registry} {id : JobId} {job : Job} :
    r.job id = .ok job ↔ r.jobs.get? id = some job := by
  unfold Registry.job
  cases r.jobs.get? id <;> simp

theorem adhocStorage_eq_ok {r : Registry} {id : AdhocId} {storage : AdhocStorage} :
    r.adhocStorage id = .ok storage ↔
      ∃ entry, r.adhoc.get? id = some entry ∧ storage = entry.view id := by
  unfold adhocStorage
  cases r.adhoc.get? id <;> simp [eq_comm]

theorem pfsStorage_eq_ok {r : Registry} {id : PfsId} {pfs : PfsStorage} :
    r.pfsStorage id = .ok pfs ↔ r.pfs.get? id = some pfs := by
  unfold pfsStorage
  cases r.pfs.get? id <;> simp

end StorageBroker.Registry
