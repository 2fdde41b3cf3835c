import StorageBroker.Proofs.DataOperation.Effect

/-! # Stages are passed once

An operation goes through its stages in one direction: it is defined, connected, perhaps linked,
and finalized. Whatever an operation of the pipeline does, every operation on record stays with its
job, never goes back to an earlier stage, and is not touched again once it is finalized. -/

set_option autoImplicit false

namespace StorageBroker

/-- The position of a status along the only direction of travel. -/
def OperationStatus.stage : OperationStatus → Nat
  | .defined => 0
  | .connected => 1
  | .linked => 2
  | .finalized => 3

theorem OperationStatus.eq_finalized {status : OperationStatus} (last : 3 ≤ status.stage) :
    status = .finalized := by
  cases status <;> simp_all [stage]

theorem OperationStatus.isFinalizable_iff {status : OperationStatus} :
    status.isFinalizable = true ↔ 1 ≤ status.stage ∧ status.stage < 3 := by
  cases status <;> simp [isFinalizable, stage]

/-- Two states of one operation: no stage is passed backwards, and the last one is final. -/
structure DataOperation.Later (before after : DataOperation) : Prop where
  jobId : after.jobId = before.jobId
  forward : before.status.stage ≤ after.status.stage
  frozen : before.status = .finalized → after = before

theorem DataOperation.Later.refl (operation : DataOperation) : operation.Later operation :=
  ⟨rfl, Nat.le_refl _, fun _ => rfl⟩

theorem DataOperation.Later.trans {before middle after : DataOperation}
    (first : before.Later middle) (last : middle.Later after) : before.Later after where
  jobId := last.jobId.trans first.jobId
  forward := Nat.le_trans first.forward last.forward
  frozen := by
    intro final
    obtain rfl := first.frozen final
    exact last.frozen final

namespace Pipeline

/-- Every operation on record stays there and is at the same stage or at a later one. -/
theorem Effect.keeps {owner : Option JobId} {tie : Option (JobId × Link)}
    {s s' : Numbered Pipeline} (effect : Effect owner tie s s')
    (issued : KeysIssued OperationId.raw s.ids.issued s.store.operations) {id : OperationId}
    {operation : DataOperation} (found : s.store.operations.get? id = some operation) :
    ∃ after, s'.store.operations.get? id = some after ∧ operation.Later after := by
  -- moving one operation on changes that operation only
  have moved : ∀ (known : OperationId) (before after : DataOperation),
      s.store.operations.get? known = some before → before.Later after →
      ∃ now, (s.store.operations.insert known after).get? id = some now ∧ operation.Later now := by
    intro known before after tracked later
    rw [Table.get?_insert]
    by_cases mine : id = known
    · subst mine
      obtain rfl := Option.some.inj (tracked.symm.trans found)
      exact ⟨after, if_pos rfl, later⟩
    · exact ⟨operation, by rw [if_neg mine, found], .refl _⟩
  cases effect with
  | nothing => exact ⟨operation, found, .refl _⟩
  | @defined raw ids job executable arguments asked drawn =>
      have unused := issued.fresh drawn (k := ⟨raw⟩) rfl
      have other : id ≠ ⟨raw⟩ := by
        rintro rfl
        simp [unused] at found
      exact ⟨operation, by rw [Table.get?_insert, if_neg other, found], .refl _⟩
  | @connected known before connection tracked status =>
      refine moved known before _ tracked ⟨rfl, ?_, ?_⟩
      · simp [status, OperationStatus.stage]
      · simp [status]
  | @linked known before link asked tracked status =>
      refine moved known before _ tracked ⟨rfl, ?_, ?_⟩
      · simp [status, OperationStatus.stage]
      · simp [status]
  | @finalized known before outcome tracked ready =>
      have early := OperationStatus.isFinalizable_iff.mp ready
      refine moved known before _ tracked ⟨rfl, Nat.le_of_lt early.2, fun final => ?_⟩
      simp [final, OperationStatus.stage] at early

end Pipeline

end StorageBroker
