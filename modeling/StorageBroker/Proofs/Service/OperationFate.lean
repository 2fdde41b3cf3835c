import StorageBroker.Proofs.DataOperation.Stage
import StorageBroker.Proofs.Service.References

/-! # What becomes of a data operation

A data operation stays on record as long as its job is registered, and is dropped with it. While it
is on record it only moves on through its stages. -/

set_option autoImplicit false

namespace StorageBroker

namespace Service

variable {allowed : Registry.Operation → Prop}

/-- What has become of an operation that was on record: it is there still, or it was dropped with
its job. -/
inductive OperationFate (id : OperationId) (operation : DataOperation) (s : Service) : Prop
  | recorded (now : DataOperation) (found : s.pipeline.operations.get? id = some now)
      (later : operation.Later now)
  | dropped (gone : s.pipeline.operations.get? id = none)
      (unregistered : ¬ s.Registered operation.jobId)

theorem Change.fate_of_recorded {s s' : Service} (change : Change allowed s s')
    (orderly : Orderly s) {id : OperationId} {operation : DataOperation}
    (found : s.pipeline.operations.get? id = some operation) : OperationFate id operation s' := by
  cases change with
  | @jobRemoved job registered =>
      by_cases mine : operation.jobId = job
      · refine .dropped ?_ (mine ▸ fun still => (registered_dropJob.mp still).1 rfl)
        rw [← Option.not_isSome_iff_eq_none]
        intro left
        obtain ⟨other, still⟩ := Option.isSome_iff_exists.mp left
        obtain ⟨known, stranger⟩ := operation_dropJob.mp still
        obtain rfl := Option.some.inj (known.symm.trans found)
        exact stranger mine
      · exact .recorded operation (operation_dropJob.mpr ⟨found, mine⟩) (.refl _)
  | operations registered tied effect =>
      obtain ⟨after, still, later⟩ := effect.keeps orderly.operations found
      exact .recorded after still later
  | registry may stays effect | transfers registered effect | limitSet registered limit
  | limitsRemoved registered entity limitClass => exact .recorded operation found (.refl _)

theorem OperationFate.change {s s' : Service} {id : OperationId} {operation : DataOperation}
    (fate : OperationFate id operation s) (change : Change allowed s s') (orderly : Orderly s)
    (number : id.raw.toNat ≤ s.ids.issued) (spent : operation.jobId.raw.toNat ≤ s.ids.issued) :
    OperationFate id operation s' := by
  cases fate with
  | recorded now found later =>
      cases change.fate_of_recorded orderly found with
      | recorded after still next => exact .recorded after still (later.trans next)
      | dropped gone unregistered => exact .dropped gone (later.jobId ▸ unregistered)
  | dropped gone unregistered =>
      exact .dropped ((change.draws orderly.sound).operations.operations.absent gone number)
        ((Changes.of_change change).unregistered orderly unregistered spent)

theorem OperationFate.changes {s s' : Service} {id : OperationId} {operation : DataOperation}
    (fate : OperationFate id operation s) (changes : Changes allowed s s') (orderly : Orderly s)
    (number : id.raw.toNat ≤ s.ids.issued) (spent : operation.jobId.raw.toNat ≤ s.ids.issued) :
    OperationFate id operation s' := by
  have kept : ∀ t t', Change allowed t t' →
      Orderly t ∧ s.ids.issued ≤ t.ids.issued ∧ OperationFate id operation t →
      Orderly t' ∧ s.ids.issued ≤ t'.ids.issued ∧ OperationFate id operation t' := by
    rintro t t' change ⟨held, early, fate⟩
    exact ⟨change.preserves_orderly held,
      Nat.le_trans early (change.draws held.sound).registry.later,
      fate.change change held (Nat.le_trans number early) (Nat.le_trans spent early)⟩
  exact (changes.invariant kept ⟨orderly, Nat.le_refl _, fate⟩).2.2

/-- An operation on record in one state has one of its fates in every later state. -/
theorem Changes.operationFate {s s' : Service} (changes : Changes allowed s s')
    (orderly : Orderly s) (coherent : Coherent s) {id : OperationId} {operation : DataOperation}
    (found : s.pipeline.operations.get? id = some operation) : OperationFate id operation s' :=
  (OperationFate.recorded operation found (.refl _)).changes changes orderly
    (orderly.operations id (by simp [found]))
    (orderly.registry.jobs _ (coherent.operated id operation found))

/-- What the job of an operation gets to see of it. -/
theorem OperationFate.get {s : Service} {id : OperationId} {operation : DataOperation}
    (fate : OperationFate id operation s) (coherent : Coherent s) :
    (∃ now owner, s.registry.job operation.jobId = .ok owner ∧
      s.pipeline.get operation.jobId id = .ok now ∧ operation.Later now) ∨
    (s.registry.job operation.jobId = .error (.jobNotFound operation.jobId) ∧
      s.pipeline.get operation.jobId id = .error (.notFound operation.jobId id)) := by
  cases fate with
  | recorded now found later =>
      obtain ⟨owner, registered⟩ := registered_iff.mp (coherent.operated id now found)
      rw [later.jobId] at registered
      refine .inl ⟨now, owner, registered, ?_, later⟩
      unfold Pipeline.get
      rw [found]
      exact if_pos later.jobId
  | dropped gone unregistered =>
      refine .inr ⟨job_of_unregistered unregistered, ?_⟩
      unfold Pipeline.get
      rw [gone]

end Service

theorem Machine.run_operationFate (config : ServiceConfig) (before after : List Event)
    {id : OperationId} {operation : DataOperation}
    (found : ((Machine.fresh config).run before).service.pipeline.operations.get? id =
      some operation) :
    Service.OperationFate id operation ((Machine.fresh config).run (before ++ after)).service := by
  rw [Machine.run_append]
  exact (Machine.run_changes _ after).operationFate (Machine.run_orderly config before)
    (Machine.run_coherent config before) found

end StorageBroker
