import StorageBroker.Proofs.Registry.Numbers

/-! # The link between jobs and storage

The link is written twice: a storage names its client, and a job names the storage that it holds.
`Linked` says that the two sides agree. Every operation keeps it, so every history does. -/

set_option autoImplicit false

namespace StorageBroker.Registry

/-! ## The two sides of the link -/

def clientOf (entries : Table AdhocId AdhocEntry) (adhoc : AdhocId) : Option JobId :=
  (entries.get? adhoc).bind AdhocEntry.client

def heldBy (jobs : Table JobId Job) (job : JobId) : Option AdhocId :=
  (jobs.get? job).bind fun holder => holder.requirements.adhocStorage

/-- A storage names a job exactly when the job names the storage. -/
def Linked (r : Registry) : Prop :=
  ∀ adhoc job, clientOf r.adhoc adhoc = some job ↔ heldBy r.jobs job = some adhoc

theorem clientOf_insert (entries : Table AdhocId AdhocEntry) (id adhoc : AdhocId)
    (entry : AdhocEntry) :
    clientOf (entries.insert id entry) adhoc =
      if adhoc = id then entry.client else clientOf entries adhoc := by
  unfold clientOf
  rw [Table.get?_insert]
  split <;> rfl

theorem clientOf_erase (entries : Table AdhocId AdhocEntry) (id adhoc : AdhocId) :
    clientOf (entries.erase id) adhoc = if adhoc = id then none else clientOf entries adhoc := by
  unfold clientOf
  rw [Table.get?_erase]
  split <;> rfl

theorem release_client (entry : AdhocEntry) (job : JobId) :
    (entry.release job).client = if entry.client = some job then none else entry.client := by
  unfold AdhocEntry.release
  split <;> rfl

theorem clientOf_release (entries : Table AdhocId AdhocEntry) (job : JobId) (adhoc : AdhocId) :
    clientOf (entries.mapValues fun _ entry => entry.release job) adhoc =
      if clientOf entries adhoc = some job then none else clientOf entries adhoc := by
  unfold clientOf
  rw [Table.get?_mapValues]
  cases entries.get? adhoc with
  | none => simp
  | some entry => simp [release_client]

theorem clientOf_releaseFrom (entries : Table AdhocId AdhocEntry) (id adhoc : AdhocId)
    (job : JobId) :
    clientOf (releaseFrom entries id job) adhoc =
      if adhoc = id ∧ clientOf entries id = some job then none else clientOf entries adhoc := by
  unfold releaseFrom
  cases found : entries.get? id with
  | none => simp [clientOf, found]
  | some entry =>
      have named : clientOf entries id = entry.client := by simp [clientOf, found]
      simp only [clientOf_insert, release_client]
      by_cases same : adhoc = id
      · subst same
        simp [named]
      · simp [same]

theorem heldBy_insert (jobs : Table JobId Job) (id job : JobId) (holder : Job) :
    heldBy (jobs.insert id holder) job =
      if job = id then holder.requirements.adhocStorage else heldBy jobs job := by
  unfold heldBy
  rw [Table.get?_insert]
  split <;> rfl

theorem heldBy_erase (jobs : Table JobId Job) (id job : JobId) :
    heldBy (jobs.erase id) job = if job = id then none else heldBy jobs job := by
  unfold heldBy
  rw [Table.get?_erase]
  split <;> rfl

theorem forget_adhocStorage (job : Job) (adhoc : AdhocId) :
    (job.forget adhoc).requirements.adhocStorage =
      if job.requirements.adhocStorage = some adhoc then none
      else job.requirements.adhocStorage := by
  unfold Job.forget
  split <;> rfl

theorem heldBy_forget (jobs : Table JobId Job) (adhoc : AdhocId) (job : JobId) :
    heldBy (jobs.mapValues fun _ holder => holder.forget adhoc) job =
      if heldBy jobs job = some adhoc then none else heldBy jobs job := by
  unfold heldBy
  rw [Table.get?_mapValues]
  cases jobs.get? job with
  | none => simp
  | some holder => simp [forget_adhocStorage]

theorem Claims.clientOf_eq {entries now : Table AdhocId AdhocEntry} {job : JobId}
    {named : Option AdhocId} (claims : Claims entries job named now) (adhoc : AdhocId) :
    clientOf now adhoc = if named = some adhoc then some job else clientOf entries adhoc := by
  cases claims with
  | nothing => simp
  | @free id entry found unclaimed =>
      rw [clientOf_insert]
      simp only [Option.some.injEq, eq_comm]

theorem Claims.clientOf_before {entries now : Table AdhocId AdhocEntry} {job : JobId}
    {adhoc : AdhocId} (claims : Claims entries job (some adhoc) now) :
    clientOf entries adhoc = none := by
  cases claims with
  | free found unclaimed => simp [clientOf, found, unclaimed]

/-! ## Every operation keeps the link -/

theorem rebind_clientOf {entries now : Table AdhocId AdhocEntry} {job : JobId}
    {old new : Option AdhocId} (moved : rebind entries job old new = .ok now) (adhoc : AdhocId) :
    clientOf now adhoc =
      if old = new then clientOf entries adhoc
      else if new = some adhoc then some job
      else if old = some adhoc ∧ clientOf entries adhoc = some job then none
      else clientOf entries adhoc := by
  rcases rebind_ok moved with ⟨stays, rfl⟩ | ⟨moves, claimed, claims, rfl⟩
  · rw [if_pos stays]
  · rw [if_neg moves]
    cases old with
    | none => simp [claims.clientOf_eq]
    | some left =>
        simp only [Option.elim_some, clientOf_releaseFrom, claims.clientOf_eq]
        grind

theorem rebind_clientOf_before {entries now : Table AdhocId AdhocEntry} {job : JobId}
    {old : Option AdhocId} {new : Option AdhocId} (moved : rebind entries job old new = .ok now)
    (adhoc : AdhocId) (moves : old ≠ new) (target : new = some adhoc) :
    clientOf entries adhoc = none := by
  rcases rebind_ok moved with ⟨stays, -⟩ | ⟨-, claimed, claims, -⟩
  · exact absurd stays moves
  · subst target
    exact claims.clientOf_before

/-- Rewriting a storage without touching its client keeps the link. -/
theorem rewrite_preserves_linked (r : Registry) {id : AdhocId} {entry : AdhocEntry}
    (updated : AdhocEntry) (found : r.adhoc.get? id = some entry)
    (kept : updated.client = entry.client) (linked : r.Linked) :
    Linked { r with adhoc := r.adhoc.insert id updated } := by
  have named : clientOf r.adhoc id = entry.client := by simp [clientOf, found]
  intro adhoc job
  have before := linked adhoc job
  simp only [clientOf_insert, kept]
  grind

theorem Effect.preserves_linked {op : Operation} {s s' : Numbered Registry}
    (effect : Effect op s s')
    (issued : Issued s) (linked : s.store.Linked) : s'.store.Linked := by
  cases effect with
  | nothing => exact linked
  | number drawn => exact linked
  | @jobAdded raw ids job entries drawn numbered unused claims =>
      -- the number is fresh, so no storage can name it yet
      have unheld : heldBy s.store.jobs ⟨raw⟩ = none := by
        simp [heldBy, issued.jobs.fresh drawn]
      intro adhoc holder
      have before := linked adhoc holder
      simp only [heldBy_insert, claims.clientOf_eq]
      cases named : job.requirements.adhocStorage with
      | none => grind
      | some target =>
          rw [named] at claims
          have free := claims.clientOf_before
          grind
  | @jobUpdated id job updated entries found kept moved =>
      have held : heldBy s.store.jobs id = job.requirements.adhocStorage := by
        simp [heldBy, found]
      have free := rebind_clientOf_before moved
      intro adhoc holder
      have before := linked adhoc holder
      have mine := linked adhoc id
      simp only [heldBy_insert, rebind_clientOf moved]
      rw [← held] at free ⊢
      grind
  | jobRemoved asked found =>
      intro adhoc holder
      have before := linked adhoc holder
      simp only [heldBy_erase, clientOf_release]
      grind
  | @adhocAdded raw ids entry drawn unclaimed down =>
      have unknown : clientOf s.store.adhoc ⟨raw⟩ = none := by
        simp [clientOf, issued.adhoc.fresh drawn]
      intro adhoc job
      have before := linked adhoc job
      simp only [clientOf_insert, unclaimed]
      grind
  | contextSet context found still =>
      exact rewrite_preserves_linked s.store _ found rfl linked
  | adhocRemoved found still =>
      intro adhoc job
      have before := linked adhoc job
      simp only [clientOf_erase, heldBy_forget]
      grind
  | @bound id job holder entries found only claims =>
      have held : heldBy s.store.jobs job = holder.requirements.adhocStorage := by
        simp [heldBy, found]
      have free := claims.clientOf_before
      intro adhoc other
      have before := linked adhoc other
      have mine := linked adhoc job
      simp only [heldBy_insert, claims.clientOf_eq, Job.hold]
      grind
  | @unbound id entry jobs found sides =>
      have named : clientOf s.store.adhoc id = entry.client := by simp [clientOf, found]
      intro adhoc other
      have before := linked adhoc other
      simp only [clientOf_insert]
      rcases sides with ⟨nobody, rfl⟩ | ⟨client, job, holds, registered, rfl⟩
      · cases holds : entry.client with
        | none => grind
        | some client =>
            -- the link says that the client is registered, so this case does not arise
            have unregistered : s.store.jobs.get? client = none := by simpa [holds] using nobody
            have names : heldBy s.store.jobs client = some id :=
              (linked id client).mp (named.trans holds)
            simp [heldBy, unregistered] at names
      · have held : heldBy s.store.jobs client = job.requirements.adhocStorage := by
          simp [heldBy, registered]
        have mine := linked id client
        simp only [heldBy_insert, forget_adhocStorage]
        grind
  | deploymentSet found moves => exact rewrite_preserves_linked s.store _ found rfl linked
  | pfsAdded drawn numbered => exact linked
  | pfsUpdated context found => exact linked
  | pfsRemoved found => exact linked

theorem linked_empty : Linked empty := by
  intro adhoc job
  simp [clientOf, heldBy, empty]

theorem run_linked (ids : IdAllocator) (history : List Operation) :
    (run ⟨ids, empty⟩ history).store.Linked := by
  have kept : ∀ op s s', Effect op s s' → Issued s ∧ s.store.Linked →
      Issued s' ∧ s'.store.Linked := by
    rintro op s s' effect ⟨issued, linked⟩
    exact ⟨effect.preserves_issued issued, effect.preserves_linked issued linked⟩
  exact (run_invariant kept ⟨ids, empty⟩ ⟨issued_empty ids, linked_empty⟩ history).2

/-! ## The link as clients see it -/

theorem currentClient_eq_ok {r : Registry} {adhoc : AdhocId} {job : JobId} :
    r.currentClient adhoc = .ok (some job) ↔ clientOf r.adhoc adhoc = some job := by
  unfold currentClient clientOf
  cases r.adhoc.get? adhoc with
  | none => simp
  | some entry => simp

theorem exists_holder {r : Registry} {adhoc : AdhocId} {job : JobId} :
    (∃ holder, r.job job = .ok holder ∧ holder.requirements.adhocStorage = some adhoc) ↔
      heldBy r.jobs job = some adhoc := by
  unfold Registry.job heldBy
  cases r.jobs.get? job with
  | none => simp
  | some holder => simp

theorem registered_of_clientOf {r : Registry} {adhoc : AdhocId} {job : JobId}
    (named : clientOf r.adhoc adhoc = some job) :
    ∃ storage, r.adhocStorage adhoc = .ok storage := by
  unfold clientOf at named
  unfold adhocStorage
  cases found : r.adhoc.get? adhoc with
  | none => simp [found] at named
  | some entry => exact ⟨_, rfl⟩

/-- After any history, a storage has a job as client exactly when the job is registered and requires
that storage. So clients and holders pair up one to one, and both sides are registered. -/
theorem client_iff_holder (ids : IdAllocator) (history : List Operation) :
    let r := (run ⟨ids, empty⟩ history).store
    (∀ adhoc job, r.currentClient adhoc = .ok (some job) ↔
      ∃ holder, r.job job = .ok holder ∧ holder.requirements.adhocStorage = some adhoc) ∧
    (∀ adhoc job other holder rival, r.job job = .ok holder → r.job other = .ok rival →
      holder.requirements.adhocStorage = some adhoc →
      rival.requirements.adhocStorage = some adhoc → job = other) ∧
    (∀ adhoc other job, r.currentClient adhoc = .ok (some job) →
      r.currentClient other = .ok (some job) → adhoc = other) ∧
    (∀ adhoc job, r.currentClient adhoc = .ok (some job) → ∃ holder, r.job job = .ok holder) ∧
    (∀ adhoc job holder, r.job job = .ok holder → holder.requirements.adhocStorage = some adhoc →
      ∃ storage, r.adhocStorage adhoc = .ok storage) := by
  intro r
  have linked : r.Linked := run_linked ids history
  refine ⟨?_, ?_, ?_, ?_, ?_⟩
  · intro adhoc job
    rw [currentClient_eq_ok, exists_holder]
    exact linked adhoc job
  · intro adhoc job other holder rival found rivalFound holds rivalHolds
    have mine := (linked adhoc job).mpr (exists_holder.mp ⟨holder, found, holds⟩)
    have theirs := (linked adhoc other).mpr (exists_holder.mp ⟨rival, rivalFound, rivalHolds⟩)
    exact Option.some.inj (mine.symm.trans theirs)
  · intro adhoc other job first second
    have mine := (linked adhoc job).mp (currentClient_eq_ok.mp first)
    have theirs := (linked other job).mp (currentClient_eq_ok.mp second)
    exact Option.some.inj (mine.symm.trans theirs)
  · intro adhoc job client
    obtain ⟨holder, found, -⟩ :=
      exists_holder.mpr ((linked adhoc job).mp (currentClient_eq_ok.mp client))
    exact ⟨holder, found⟩
  · intro adhoc job holder found holds
    exact registered_of_clientOf ((linked adhoc job).mpr (exists_holder.mp ⟨holder, found, holds⟩))

end StorageBroker.Registry
