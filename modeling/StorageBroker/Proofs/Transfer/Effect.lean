import StorageBroker.Proofs.Drawn
import StorageBroker.Transfer.Ledger

/-! # What an operation can do to the ledger

As for the registry, one theorem per operation lists its outcomes. `Effect` then lists the ways in
which an operation on one transfer can change a ledger: a transfer is created, or a live one is
rewritten or moves forward. -/

set_option autoImplicit false

namespace StorageBroker

/-- Two states of one transfer: what it was created with stays. -/
structure Transfer.SameTask (before after : Transfer) : Prop where
  id : after.id = before.id
  jobId : after.jobId = before.jobId
  sources : after.sources = before.sources
  targets : after.targets = before.targets
  limits : after.limits = before.limits
  mapping : after.mapping = before.mapping

theorem Transfer.SameTask.refl (transfer : Transfer) : transfer.SameTask transfer :=
  ⟨rfl, rfl, rfl, rfl, rfl, rfl⟩

theorem Transfer.SameTask.trans {before middle after : Transfer} (first : before.SameTask middle)
    (last : middle.SameTask after) : before.SameTask after :=
  ⟨last.id.trans first.id, last.jobId.trans first.jobId, last.sources.trans first.sources,
    last.targets.trans first.targets, last.limits.trans first.limits,
    last.mapping.trans first.mapping⟩

/-- Two states of one transfer: its status is not further back afterwards, and a transfer that has
ended is left as it is. -/
structure Transfer.Later (before after : Transfer) : Prop where
  task : before.SameTask after
  forward : before.status.rank ≤ after.status.rank
  frozen : before.status.isTerminal = true → after = before

theorem Transfer.Later.refl (transfer : Transfer) : transfer.Later transfer :=
  ⟨.refl _, Nat.le_refl _, fun _ => rfl⟩

theorem Transfer.Later.trans {before middle after : Transfer} (first : before.Later middle)
    (last : middle.Later after) : before.Later after where
  task := first.task.trans last.task
  forward := Nat.le_trans first.forward last.forward
  frozen := by
    intro ended
    obtain rfl := first.frozen ended
    exact last.frozen ended

/-- A live transfer may be replaced by any state of its task that is not further back. -/
theorem Transfer.Later.of_live {before after : Transfer} (live : before.status.isTerminal = false)
    (task : before.SameTask after) (forward : before.status.rank ≤ after.status.rank) :
    before.Later after :=
  ⟨task, forward, by simp [live]⟩

theorem TransferStatus.rank_le_cancelled (status : TransferStatus) :
    status.rank ≤ TransferStatus.cancelled.rank := by
  cases status <;> decide

namespace TransferLedger

theorem transfer_eq_ok {l : TransferLedger} {id : TransferId} {t : Transfer} :
    l.transfer id = .ok t ↔ ∃ entry, l.entries.get? id = some entry ∧ entry.transfer = t := by
  unfold transfer
  cases l.entries.get? id with
  | none => simp
  | some entry => simp

theorem transfer_eq_notFound {l : TransferLedger} {id : TransferId} :
    l.transfer id = .error (.notFound id) ↔ l.entries.get? id = none := by
  unfold transfer
  cases l.entries.get? id with
  | none => simp
  | some entry => simp

/-! ## Writing a transfer back -/

theorem get?_write (l : TransferLedger) (entry : LedgerEntry) (transfer : Transfer)
    (id : TransferId) :
    (l.write entry transfer).entries.get? id =
      if id = transfer.id then some { entry with transfer } else l.entries.get? id :=
  Table.get?_insert _ _ _ _

theorem get?_publish (l : TransferLedger) (entry : LedgerEntry) (transfer : Transfer)
    (id : TransferId) :
    (l.publish entry transfer).entries.get? id =
      if id = transfer.id then some { entry with transfer } else l.entries.get? id :=
  Table.get?_insert _ _ _ _

theorem watched_publish (l : TransferLedger) (entry : LedgerEntry) (transfer : Transfer)
    (id : TransferId) :
    (l.publish entry transfer).watched.get? id =
      if id = transfer.id then some transfer.status else l.watched.get? id :=
  Table.get?_insert _ _ _ _

/-! ## Outcomes of the operations -/

theorem create_outcome (s : Numbered TransferLedger) (job : JobId) (sources targets : List Dataset)
    (limits : List Limit) (mapping : Mapping) :
    (∃ e, create s job sources targets limits mapping = (.error e, s)) ∨
    ∃ raw ids transfer, s.ids.allocate = some (raw, ids) ∧
      mapping.accepts sources.length targets.length = true ∧
      transfer = ⟨⟨raw⟩, job, sources, targets, limits, mapping, 0, .pending, .none⟩ ∧
      create s job sources targets limits mapping = (.ok transfer, ⟨ids, {
        entries := s.store.entries.insert ⟨raw⟩ ⟨transfer, s.store.created⟩
        byJob := s.store.byJob.insert job (s.store.idsOf job ++ [⟨raw⟩])
        watched := s.store.watched.insert ⟨raw⟩ .pending
        created := s.store.created + 1 }⟩) := by
  unfold create
  by_cases fits : mapping.accepts sources.length targets.length = true
  · rw [if_pos fits]
    cases drawn : s.ids.allocate with
    | none => exact .inl ⟨_, rfl⟩
    | some next => exact .inr ⟨next.1, next.2, _, rfl, fits, rfl, rfl⟩
  · rw [if_neg fits]
    exact .inl ⟨_, rfl⟩

theorem setPriority_outcome (l : TransferLedger) (id : TransferId) (delta : Int64) :
    (∃ e, l.setPriority id delta = (.error e, l)) ∨
    ∃ entry, l.entries.get? id = some entry ∧ entry.transfer.status = .pending ∧
      l.setPriority id delta =
        (.ok (shiftPriority entry.transfer.priority delta),
          l.write entry { entry.transfer with
            priority := shiftPriority entry.transfer.priority delta }) := by
  unfold setPriority
  cases found : l.entries.get? id with
  | none => exact .inl ⟨_, rfl⟩
  | some entry =>
      by_cases pending : entry.transfer.status = .pending
      · exact .inr ⟨entry, rfl, pending, if_pos pending⟩
      · exact .inl ⟨_, if_neg pending⟩

theorem cancel_outcome (l : TransferLedger) (id : TransferId) :
    (∃ e, l.cancel id = (.error e, l)) ∨
    (∃ entry, l.entries.get? id = some entry ∧ entry.transfer.status = .cancelled ∧
      l.cancel id = (.ok .cancelled, l)) ∨
    ∃ entry, l.entries.get? id = some entry ∧ entry.transfer.status.isTerminal = false ∧
      l.cancel id =
        (.ok .cancelled, l.publish entry { entry.transfer with status := .cancelled }) := by
  unfold cancel
  cases found : l.entries.get? id with
  | none => exact .inl ⟨_, rfl⟩
  | some entry =>
      cases status : entry.transfer.status with
      | cancelled => exact .inr (.inl ⟨entry, rfl, status, by simp only [status]⟩)
      | finished => exact .inl ⟨_, by simp only [status]; rfl⟩
      | failed => exact .inl ⟨_, by simp only [status]; rfl⟩
      | pending =>
          exact .inr (.inr ⟨entry, rfl, by simp [status, TransferStatus.isTerminal],
            by simp only [status]⟩)
      | inProgress =>
          exact .inr (.inr ⟨entry, rfl, by simp [status, TransferStatus.isTerminal],
            by simp only [status]⟩)

theorem update_outcome (l : TransferLedger) (id : TransferId) (status : TransferStatus)
    (progress : Progress) :
    (∃ e, l.update id status progress = (.error e, l)) ∨
    ∃ entry, l.entries.get? id = some entry ∧ entry.transfer.status.isTerminal = false ∧
      entry.transfer.status.rank ≤ status.rank ∧
      ((entry.transfer.status = status ∧
          l.update id status progress =
            (.ok status, l.write entry { entry.transfer with progress })) ∨
        (entry.transfer.status ≠ status ∧
          l.update id status progress =
            (.ok status, l.publish entry { entry.transfer with status, progress }))) := by
  unfold update
  cases found : l.entries.get? id with
  | none => exact .inl ⟨_, rfl⟩
  | some entry =>
      by_cases refused :
          (entry.transfer.status.isTerminal || status.rank < entry.transfer.status.rank) = true
      · exact .inl ⟨_, if_pos refused⟩
      have live : entry.transfer.status.isTerminal = false ∧
          entry.transfer.status.rank ≤ status.rank := by
        simpa [not_or] using refused
      refine .inr ⟨entry, rfl, live.1, live.2, ?_⟩
      by_cases same : entry.transfer.status = status
      · exact .inl ⟨same, by simp only [if_neg refused, if_pos same]⟩
      · exact .inr ⟨same, by simp only [if_neg refused, if_neg same]⟩

/-! ## Effects -/

/-- What an operation on one transfer can do to a ledger and its allocator; `owner` is the job that
it is to create a transfer for. -/
inductive Effect (owner : Option JobId) (s : Numbered TransferLedger) :
    Numbered TransferLedger → Prop
  | nothing : Effect owner s s
  | created {raw : UInt64} {ids : IdAllocator} {transfer : Transfer}
      (asked : owner = some transfer.jobId) (drawn : s.ids.allocate = some (raw, ids))
      (numbered : transfer.id = ⟨raw⟩) (pending : transfer.status = .pending) :
      Effect owner s ⟨ids, {
        entries := s.store.entries.insert ⟨raw⟩ ⟨transfer, s.store.created⟩
        byJob := s.store.byJob.insert transfer.jobId (s.store.idsOf transfer.jobId ++ [⟨raw⟩])
        watched := s.store.watched.insert ⟨raw⟩ .pending
        created := s.store.created + 1 }⟩
  | rewritten {id : TransferId} {entry : LedgerEntry} {transfer : Transfer}
      (found : s.store.entries.get? id = some entry)
      (live : entry.transfer.status.isTerminal = false)
      (task : entry.transfer.SameTask transfer) (stays : transfer.status = entry.transfer.status) :
      Effect owner s ⟨s.ids, s.store.write entry transfer⟩
  | moved {id : TransferId} {entry : LedgerEntry} {transfer : Transfer}
      (found : s.store.entries.get? id = some entry)
      (live : entry.transfer.status.isTerminal = false)
      (task : entry.transfer.SameTask transfer)
      (forward : entry.transfer.status.rank ≤ transfer.status.rank) :
      Effect owner s ⟨s.ids, s.store.publish entry transfer⟩

theorem create_effect (s : Numbered TransferLedger) (job : JobId) (sources targets : List Dataset)
    (limits : List Limit) (mapping : Mapping) :
    Effect (some job) s (create s job sources targets limits mapping).2 := by
  rcases create_outcome s job sources targets limits mapping with
    ⟨e, refused⟩ | ⟨raw, ids, transfer, drawn, -, rfl, done⟩
  · rw [refused]
    exact .nothing
  · rw [done]
    exact @Effect.created _ s raw ids
      ⟨⟨raw⟩, job, sources, targets, limits, mapping, 0, .pending, .none⟩ rfl drawn rfl rfl

theorem setPriority_effect (ids : IdAllocator) (l : TransferLedger) (id : TransferId)
    (delta : Int64) : Effect none ⟨ids, l⟩ ⟨ids, (l.setPriority id delta).2⟩ := by
  rcases l.setPriority_outcome id delta with ⟨e, refused⟩ | ⟨entry, found, pending, done⟩
  · rw [refused]
    exact .nothing
  · rw [done]
    exact .rewritten found (by simp [pending, TransferStatus.isTerminal])
      ⟨rfl, rfl, rfl, rfl, rfl, rfl⟩ rfl

theorem cancel_effect (ids : IdAllocator) (l : TransferLedger) (id : TransferId) :
    Effect none ⟨ids, l⟩ ⟨ids, (l.cancel id).2⟩ := by
  rcases l.cancel_outcome id with ⟨e, refused⟩ | ⟨entry, -, -, done⟩ | ⟨entry, found, live, done⟩
  · rw [refused]
    exact .nothing
  · rw [done]
    exact .nothing
  · rw [done]
    exact .moved found live ⟨rfl, rfl, rfl, rfl, rfl, rfl⟩
      (TransferStatus.rank_le_cancelled _)

theorem update_effect (ids : IdAllocator) (l : TransferLedger) (id : TransferId)
    (status : TransferStatus) (progress : Progress) :
    Effect none ⟨ids, l⟩ ⟨ids, (l.update id status progress).2⟩ := by
  rcases l.update_outcome id status progress with
    ⟨e, refused⟩ | ⟨entry, found, live, forward, ⟨-, done⟩ | ⟨-, done⟩⟩
  · rw [refused]
    exact .nothing
  · rw [done]
    exact .rewritten found live ⟨rfl, rfl, rfl, rfl, rfl, rfl⟩ rfl
  · rw [done]
    exact .moved found live ⟨rfl, rfl, rfl, rfl, rfl, rfl⟩ forward

end TransferLedger

end StorageBroker
