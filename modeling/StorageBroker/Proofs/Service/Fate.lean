import StorageBroker.Proofs.Service.References

/-! # What becomes of a transfer

A transfer stays tracked as long as its job is registered. Once it has ended it stays as it is, and
whoever watches it sees how it ended, also after it has been dropped together with its job. -/

set_option autoImplicit false

namespace StorageBroker

namespace Service

variable {allowed : Registry.Operation → Prop}

/-- What has become of a transfer that was tracked: it is tracked still, or it was dropped with its
job and those who watch it see that it ended. One that had ended before has not changed. -/
inductive Fate (id : TransferId) (entry : LedgerEntry) (s : Service) : Prop
  | tracked (now : LedgerEntry) (found : s.transfers.entries.get? id = some now)
      (task : entry.transfer.SameTask now.transfer)
      (frozen : entry.transfer.status.isTerminal = true → now = entry)
  | dropped (status : TransferStatus) (untracked : s.transfers.entries.get? id = none)
      (unregistered : ¬ s.Registered entry.transfer.jobId)
      (ended : s.transfers.ending? id = some status)
      (frozen : entry.transfer.status.isTerminal = true → status = entry.transfer.status)

theorem Fate.of_tracked {s : Service} {id : TransferId} {entry : LedgerEntry}
    (found : s.transfers.entries.get? id = some entry) : Fate id entry s :=
  .tracked entry found (.refl _) fun _ => rfl

theorem dropJob_fate {s : Service} (orderly : Orderly s) {job : JobId} {id : TransferId}
    {entry : LedgerEntry} (found : s.transfers.entries.get? id = some entry) :
    Fate id entry (s.dropJob job) := by
  by_cases mine : entry.transfer.jobId = job
  · have seen := TransferLedger.dropJob_watched orderly.sound job found
    rw [if_pos mine] at seen
    refine .dropped entry.cancelled.transfer.status ?_ ?_ ?_ ?_
    · have dropped : (s.dropJob job).transfers.entries.get? id = _ :=
        TransferLedger.dropJob_get? orderly.sound job id
      rw [found, Option.filter_some] at dropped
      simpa [mine] using dropped
    · rw [mine]
      exact fun still => (registered_dropJob.mp still).1 rfl
    · unfold TransferLedger.ending?
      rw [show (s.dropJob job).transfers.watched.get? id = _ from seen, Option.filter_some,
        if_pos entry.cancelled_isTerminal]
    · intro ended
      rw [LedgerEntry.cancelled_status, if_pos ended]
  · exact .of_tracked ((transfer_dropJob orderly.sound).mpr ⟨found, mine⟩)

theorem Change.fate_of_tracked {s s' : Service} (change : Change allowed s s')
    (orderly : Orderly s) {id : TransferId} {entry : LedgerEntry}
    (found : s.transfers.entries.get? id = some entry) : Fate id entry s' := by
  cases change with
  | jobRemoved registered => exact dropJob_fate orderly found
  | transfers registered effect =>
      obtain ⟨after, still, later, order⟩ := effect.keeps orderly.transfers orderly.sound found
      exact .tracked after still later.task fun ended =>
        congr (congrArg LedgerEntry.mk (later.frozen ended)) order
  | registry may stays effect | operations registered tied effect | limitSet registered limit
  | limitsRemoved registered entity limitClass => exact .of_tracked found

/-- What a watcher sees of a dropped transfer does not change any more. -/
theorem Change.ending?_of_dropped {s s' : Service} (change : Change allowed s s')
    (orderly : Orderly s) {id : TransferId} {status : TransferStatus}
    (untracked : s.transfers.entries.get? id = none)
    (ended : s.transfers.ending? id = some status) :
    s'.transfers.entries.get? id = none ∧ s'.transfers.ending? id = some status := by
  have watched : (s.transfers.watched.get? id).isSome := by
    obtain ⟨seen, -⟩ := Option.filter_eq_some_iff.mp ended
    rw [seen]
    rfl
  have spent := orderly.watched id watched
  refine ⟨(change.draws orderly.sound).transfers.entries.absent untracked spent, ?_⟩
  -- a dropped transfer is not among those that are created, rewritten or cancelled
  have same : s'.transfers.watched.get? id = s.transfers.watched.get? id := by
    cases change with
    | jobRemoved registered =>
        exact TransferLedger.dropJob_watched_of_untracked orderly.sound _ untracked
    | transfers registered effect =>
        exact effect.watched_of_dropped orderly.watched orderly.sound untracked watched
    | registry may stays effect | operations registered tied effect | limitSet registered limit
    | limitsRemoved registered entity limitClass => rfl
  unfold TransferLedger.ending? at ended ⊢
  rw [same, ended]

theorem Fate.change {s s' : Service} {id : TransferId} {entry : LedgerEntry}
    (fate : Fate id entry s) (change : Change allowed s s') (orderly : Orderly s)
    (spent : entry.transfer.jobId.raw.toNat ≤ s.ids.issued) : Fate id entry s' := by
  cases fate with
  | tracked now found task frozen =>
      cases change.fate_of_tracked orderly found with
      | tracked later still next kept =>
          refine .tracked later still (task.trans next) fun ended => ?_
          obtain rfl := frozen ended
          exact kept ended
      | dropped status untracked unregistered ended kept =>
          refine .dropped status untracked (task.jobId ▸ unregistered) ended fun settled => ?_
          obtain rfl := frozen settled
          exact kept settled
  | dropped status untracked unregistered ended frozen =>
      obtain ⟨still, seen⟩ := change.ending?_of_dropped orderly untracked ended
      exact .dropped status still
        ((Changes.of_change change).unregistered orderly unregistered spent) seen frozen

/-- A transfer that is tracked in one state has one of its fates in every later state. -/
theorem Changes.fate {s s' : Service} (changes : Changes allowed s s') (orderly : Orderly s)
    (coherent : Coherent s) {id : TransferId} {entry : LedgerEntry}
    (found : s.transfers.entries.get? id = some entry) : Fate id entry s' := by
  have issued : entry.transfer.jobId.raw.toNat ≤ s.ids.issued :=
    orderly.registry.jobs _ (coherent.owned id entry found)
  have kept : ∀ t t', Change allowed t t' →
      Orderly t ∧ entry.transfer.jobId.raw.toNat ≤ t.ids.issued ∧ Fate id entry t →
      Orderly t' ∧ entry.transfer.jobId.raw.toNat ≤ t'.ids.issued ∧ Fate id entry t' := by
    rintro t t' change ⟨held, spent, fate⟩
    exact ⟨change.preserves_orderly held,
      Nat.le_trans spent (change.draws held.sound).registry.later, fate.change change held spent⟩
  exact (changes.invariant kept ⟨orderly, issued, .of_tracked found⟩).2.2

/-- A transfer is tracked exactly as long as its job is registered. -/
theorem Fate.tracked_iff {s : Service} {id : TransferId} {entry : LedgerEntry}
    (fate : Fate id entry s) (coherent : Coherent s) :
    (s.transfers.entries.get? id).isSome ↔ s.Registered entry.transfer.jobId := by
  cases fate with
  | tracked now found task frozen =>
      have registered := coherent.owned id now found
      rw [task.jobId] at registered
      simp [found, registered]
  | dropped status untracked unregistered ended frozen => simp [untracked, unregistered]

theorem Fate.transfer_iff {s : Service} {id : TransferId} {entry : LedgerEntry}
    (fate : Fate id entry s) (coherent : Coherent s) :
    (∃ now, s.transfers.transfer id = .ok now) ↔
      ∃ owner, s.registry.job entry.transfer.jobId = .ok owner := by
  rw [← registered_iff, ← fate.tracked_iff coherent, Option.isSome_iff_exists]
  unfold TransferLedger.transfer
  cases s.transfers.entries.get? id <;> simp

end Service

namespace Machine

theorem run_fate (config : ServiceConfig) (before after : List Event) {id : TransferId}
    {entry : LedgerEntry}
    (found : ((fresh config).run before).service.transfers.entries.get? id = some entry) :
    Service.Fate id entry ((fresh config).run (before ++ after)).service := by
  rw [run_append]
  exact (run_changes _ after).fate (run_orderly config before) (run_coherent config before) found

/-- A transfer that has ended, or has been dropped, does not change any more. -/
theorem run_frozen (config : ServiceConfig) (before after : List Event) {id : TransferId}
    (spent : id.raw.toNat ≤ ((fresh config).run before).service.ids.issued)
    (ended : ∀ now, ((fresh config).run before).service.transfers.transfer id = .ok now →
      now.status.isTerminal = true) {later : Transfer}
    (found : ((fresh config).run (before ++ after)).service.transfers.transfer id = .ok later) :
    ((fresh config).run before).service.transfers.transfer id = .ok later := by
  obtain ⟨entry, still, rfl⟩ := TransferLedger.transfer_eq_ok.mp found
  cases row : ((fresh config).run before).service.transfers.entries.get? id with
  | none =>
      have drawn := (run_changes _ after).draws (run_orderly config before)
      have absent := drawn.transfers.entries.absent row spent
      rw [run_append] at still
      exact absurd (absent.symm.trans still) (by simp)
  | some known =>
      have tracked := TransferLedger.transfer_eq_ok.mpr ⟨known, row, rfl⟩
      cases run_fate config before after row with
      | tracked now held task frozen =>
          obtain rfl := Option.some.inj (held.symm.trans still)
          rw [frozen (ended _ tracked)]
          exact tracked
      | dropped status untracked unregistered seen frozen =>
          exact absurd (untracked.symm.trans still) (by simp)

end Machine

end StorageBroker
