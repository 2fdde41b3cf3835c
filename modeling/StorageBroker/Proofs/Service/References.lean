import StorageBroker.Proofs.Registry.Link
import StorageBroker.Proofs.Service.Numbers

/-! # References between the stores

Transfers and data operations name their jobs, and a linked operation names a transfer. Each store
keeps its references without looking at the other stores; `Coherent` says that they resolve all the
same. Every change keeps it, and after a removal nothing refers to the removed job any more. -/

set_option autoImplicit false

namespace StorageBroker

namespace Service

variable {allowed : Registry.Operation → Prop}

/-- Jobs and storage agree on their link, and every reference from one store to another resolves. -/
structure Coherent (s : Service) : Prop where
  linked : s.registry.Linked
  owned : ∀ id entry, s.transfers.entries.get? id = some entry →
    s.Registered entry.transfer.jobId
  operated : ∀ id operation, s.pipeline.operations.get? id = some operation →
    s.Registered operation.jobId
  tied : ∀ id operation link, s.pipeline.operations.get? id = some operation →
    operation.link = some link → ∃ entry, s.transfers.entries.get? link.transfer = some entry ∧
      entry.transfer.jobId = operation.jobId

theorem coherent_fresh (config : ServiceConfig) : Coherent (fresh config) where
  linked := Registry.linked_empty
  owned := by intro id entry found; simp [fresh, TransferLedger.empty] at found
  operated := by intro id operation found; simp [fresh, Pipeline.empty] at found
  tied := by intro id operation link found; simp [fresh, Pipeline.empty] at found

/-! ## One change -/

theorem registered_dropJob {s : Service} {job other : JobId} :
    (s.dropJob job).Registered other ↔ other ≠ job ∧ s.Registered other := by
  unfold Registered dropJob
  rw [Table.get?_erase]
  by_cases same : other = job <;> simp [same]

/-- The operations of other jobs are all that a removal leaves. -/
theorem operation_dropJob {s : Service} {job : JobId} {id : OperationId}
    {operation : DataOperation} :
    (s.dropJob job).pipeline.operations.get? id = some operation ↔
      s.pipeline.operations.get? id = some operation ∧ operation.jobId ≠ job := by
  unfold dropJob Pipeline.purgeJob
  rw [Table.get?_filter, Option.filter_eq_some_iff]
  simp

theorem transfer_dropJob {s : Service} (sound : s.transfers.Sound) {job : JobId}
    {id : TransferId} {entry : LedgerEntry} :
    (s.dropJob job).transfers.entries.get? id = some entry ↔
      s.transfers.entries.get? id = some entry ∧ entry.transfer.jobId ≠ job := by
  have dropped := TransferLedger.dropJob_get? sound job id
  unfold dropJob
  rw [dropped, Option.filter_eq_some_iff]
  simp

theorem dropJob_preserves_coherent {s : Service} {job : JobId} (registered : s.Registered job)
    (orderly : Orderly s) (coherent : Coherent s) : Coherent (s.dropJob job) where
  linked := by
    obtain ⟨holder, found⟩ := Option.isSome_iff_exists.mp registered
    exact (Registry.Effect.jobRemoved rfl found).preserves_linked orderly.registry coherent.linked
  owned := by
    intro id entry found
    obtain ⟨found, other⟩ := (transfer_dropJob orderly.sound).mp found
    exact registered_dropJob.mpr ⟨other, coherent.owned id entry found⟩
  operated := by
    intro id operation found
    obtain ⟨found, other⟩ := operation_dropJob.mp found
    exact registered_dropJob.mpr ⟨other, coherent.operated id operation found⟩
  tied := by
    intro id operation link found links
    obtain ⟨found, other⟩ := operation_dropJob.mp found
    obtain ⟨entry, tracked, same⟩ := coherent.tied id operation link found links
    exact ⟨entry, (transfer_dropJob orderly.sound).mpr ⟨tracked, same ▸ other⟩, same⟩

theorem Change.preserves_coherent {s s' : Service} (change : Change allowed s s')
    (orderly : Orderly s) (coherent : Coherent s) : Coherent s' := by
  cases change with
  | registry may stays effect =>
      exact ⟨effect.preserves_linked orderly.registry coherent.linked,
        fun id entry found => effect.keeps_jobs stays _ (coherent.owned id entry found),
        fun id operation found => effect.keeps_jobs stays _ (coherent.operated id operation found),
        coherent.tied⟩
  | jobRemoved registered => exact dropJob_preserves_coherent registered orderly coherent
  | transfers registered effect =>
      refine ⟨coherent.linked, ?_, coherent.operated, ?_⟩
      · intro id entry found
        rcases effect.origin orderly.sound found with ⟨before, tracked, task⟩ | asked
        · exact task.jobId ▸ coherent.owned id before tracked
        · exact registered _ asked
      · intro id operation link found links
        obtain ⟨entry, tracked, same⟩ := coherent.tied id operation link found links
        obtain ⟨after, still, later, -⟩ := effect.keeps orderly.transfers orderly.sound tracked
        exact ⟨after, still, later.task.jobId.trans same⟩
  | @operations owner tie n registered tied effect =>
      refine ⟨coherent.linked, coherent.owned, ?_, ?_⟩
      · intro id operation found
        rcases effect.origin found with ⟨before, known, same, -⟩ | ⟨asked, -⟩
        · exact same ▸ coherent.operated id before known
        · exact registered _ asked
      · intro id operation link found links
        rcases effect.origin found with ⟨before, known, same, kept | asked⟩ | ⟨-, unlinked⟩
        · exact same ▸ coherent.tied id before link known (kept ▸ links)
        · rw [links] at asked
          obtain ⟨entry, tracked, mine, -⟩ := tied operation.jobId link asked.symm
          exact ⟨entry, tracked, mine⟩
        · rw [unlinked] at links
          exact absurd links (by simp)
  | limitSet registered limit | limitsRemoved registered entity limitClass =>
      exact ⟨coherent.linked, coherent.owned, coherent.operated, coherent.tied⟩

end Service

/-! ## Whole runs -/

theorem Service.registered_iff {s : Service} {job : JobId} :
    s.Registered job ↔ ∃ owner, s.registry.job job = .ok owner := by
  unfold Service.Registered Registry.job
  cases s.registry.jobs.get? job with
  | none => simp
  | some owner => simp

theorem Service.job_of_unregistered {s : Service} {job : JobId} (gone : ¬ s.Registered job) :
    s.registry.job job = .error (.jobNotFound job) := by
  unfold Service.Registered at gone
  unfold Registry.job
  rw [Option.not_isSome_iff_eq_none.mp gone]

namespace Machine

theorem run_coherent (config : ServiceConfig) (history : List Event) :
    ((fresh config).run history).service.Coherent := by
  have kept : ∀ s s', Service.Change (fun _ => True) s s' →
      s.Orderly ∧ s.Coherent → s'.Orderly ∧ s'.Coherent := by
    rintro s s' change ⟨orderly, coherent⟩
    exact ⟨change.preserves_orderly orderly, change.preserves_coherent orderly coherent⟩
  exact (((fresh config).run_changes history).invariant kept
    ⟨Service.orderly_fresh config, Service.coherent_fresh config⟩).2

/-- A removal that is answered with success has dropped the job. -/
theorem removeJob_step {m : Machine} {job : JobId} {reply : Reply}
    (done : (m.step (.call (.request (.removeJob job)))).outcome? m.started =
      some (.reply (.ok reply))) :
    m.service.Registered job ∧
      (m.step (.call (.request (.removeJob job)))).service = m.service.dropJob job := by
  simp only [step, Service.start, Service.startRequest] at done ⊢
  rw [settle_service]
  rcases m.service.removeJob_outcome job with ⟨-, refused⟩ | ⟨removed, found, dropped⟩
  · rw [refused] at done
    simp [Service.finish, CallState.ofResult, settle, outcome?, Except.map] at done
  · rw [dropped]
    exact ⟨by simp [Service.Registered, found], rfl⟩

/-- A job that a call has removed is not registered at any later time. -/
theorem unregistered_after_removal {config : ServiceConfig} {before after : List Event}
    {job : JobId} {reply : Reply}
    (done : (((fresh config).run before).step (.call (.request (.removeJob job)))).outcome?
      ((fresh config).run before).started = some (.reply (.ok reply))) :
    ¬ ((fresh config).run
      (before ++ .call (.request (.removeJob job)) :: after)).service.Registered job := by
  have orderly := run_orderly config before
  obtain ⟨registered, dropped⟩ := removeJob_step done
  -- the job had a number, and nothing else is given that number afterwards
  have spent := orderly.registry.jobs job registered
  have gone : ¬ (((fresh config).run before).step
      (.call (.request (.removeJob job)))).service.Registered job := by
    rw [dropped]
    exact fun still => (Service.registered_dropJob.mp still).1 rfl
  have changed := ((fresh config).run before).step_changes (.call (.request (.removeJob job)))
  have later := (changed.draws orderly).registry.later
  rw [run_append]
  exact (run_changes _ after).unregistered (changed.preserve_orderly orderly) gone
    (Nat.le_trans spent later)

/-- In every state that a service reaches, the job of each transfer and of each data operation is
registered, and a link of an operation names a transfer that is tracked for the same job. Once a job
has been removed, no transfer, no operation and no storage is left or comes to be there for it. -/
theorem references_resolve (config : ServiceConfig) (history : List Event) :
    let s := ((fresh config).run history).service
    (∀ id transfer, s.transfers.transfer id = .ok transfer →
      ∃ owner, s.registry.job transfer.jobId = .ok owner) ∧
    (∀ id operation, s.pipeline.operations.get? id = some operation →
      ∃ owner, s.registry.job operation.jobId = .ok owner) ∧
    (∀ id operation link, s.pipeline.operations.get? id = some operation →
      operation.link = some link → ∃ transfer,
        s.transfers.transfer link.transfer = .ok transfer ∧ transfer.jobId = operation.jobId) ∧
    ∀ before after job reply,
      history = before ++ .call (.request (.removeJob job)) :: after →
      (((fresh config).run before).step (.call (.request (.removeJob job)))).outcome?
        ((fresh config).run before).started = some (.reply (.ok reply)) →
      s.registry.job job = .error (.jobNotFound job) ∧
      (∀ id transfer, s.transfers.transfer id = .ok transfer → transfer.jobId ≠ job) ∧
      (∀ id operation, s.pipeline.operations.get? id = some operation →
        operation.jobId ≠ job) ∧
      ∀ adhoc, s.registry.currentClient adhoc ≠ .ok (some job) := by
  intro s
  have coherent : s.Coherent := run_coherent config history
  have owned : ∀ id transfer, s.transfers.transfer id = .ok transfer →
      s.Registered transfer.jobId := by
    intro id transfer found
    obtain ⟨entry, tracked, rfl⟩ := TransferLedger.transfer_eq_ok.mp found
    exact coherent.owned id entry tracked
  refine ⟨?_, ?_, ?_, ?_⟩
  · intro id transfer found
    exact Service.registered_iff.mp (owned id transfer found)
  · intro id operation found
    exact Service.registered_iff.mp (coherent.operated id operation found)
  · intro id operation link found links
    obtain ⟨entry, tracked, same⟩ := coherent.tied id operation link found links
    exact ⟨entry.transfer, TransferLedger.transfer_eq_ok.mpr ⟨entry, tracked, rfl⟩, same⟩
  · intro before after job reply rfl done
    have gone : ¬ s.Registered job := unregistered_after_removal done
    refine ⟨Service.job_of_unregistered gone, ?_, ?_, ?_⟩
    · rintro id transfer found rfl
      exact gone (owned id transfer found)
    · rintro id operation found rfl
      exact gone (coherent.operated id operation found)
    · intro adhoc client
      have named := Registry.currentClient_eq_ok.mp client
      obtain ⟨holder, found, -⟩ := Registry.exists_holder.mpr ((coherent.linked adhoc job).mp named)
      exact gone (Service.registered_iff.mpr ⟨holder, found⟩)

end Machine

end StorageBroker
