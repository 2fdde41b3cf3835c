import StorageBroker.Proofs.Transfer.Index

/-! # Dropping the transfers of a job

When a job goes, its live transfers are cancelled and then all its transfers are evicted. On a
sound ledger this drops exactly the transfers of the job, and whoever still watches one of them
sees that it was cancelled. -/

set_option autoImplicit false

namespace StorageBroker

/-- The entry with its transfer cancelled, unless the transfer has ended. -/
def LedgerEntry.cancelled (entry : LedgerEntry) : LedgerEntry :=
  if entry.transfer.status.isTerminal then entry
  else { entry with transfer := { entry.transfer with status := .cancelled } }

@[simp]
theorem LedgerEntry.cancelled_jobId (entry : LedgerEntry) :
    entry.cancelled.transfer.jobId = entry.transfer.jobId := by
  unfold cancelled
  split <;> rfl

theorem LedgerEntry.cancelled_status (entry : LedgerEntry) :
    entry.cancelled.transfer.status =
      if entry.transfer.status.isTerminal then entry.transfer.status else .cancelled := by
  unfold cancelled
  split <;> rfl

@[simp]
theorem LedgerEntry.cancelled_isTerminal (entry : LedgerEntry) :
    entry.cancelled.transfer.status.isTerminal = true := by
  rw [cancelled_status]
  split
  · assumption
  · rfl

theorem LedgerEntry.cancelled_cancelled (entry : LedgerEntry) :
    entry.cancelled.cancelled = entry.cancelled :=
  if_pos entry.cancelled_isTerminal

namespace TransferLedger

/-! ## Cancelling -/

theorem cancelLive_preserves_sound {state : Nat × TransferLedger} (sound : state.2.Sound)
    (id : TransferId) : (cancelLive state id).2.Sound := by
  unfold cancelLive
  cases found : state.2.entries.get? id with
  | none => exact sound
  | some entry =>
      by_cases ended : entry.transfer.status.isTerminal = true
      · simp only [if_pos ended]
        exact sound
      · simp only [if_neg ended]
        exact publish_preserves_sound sound found ⟨rfl, rfl, rfl, rfl, rfl, rfl⟩

theorem cancelLive_get? {state : Nat × TransferLedger} (sound : state.2.Sound)
    (id x : TransferId) :
    (cancelLive state id).2.entries.get? x =
      if x = id then (state.2.entries.get? x).map .cancelled else state.2.entries.get? x := by
  unfold cancelLive
  cases found : state.2.entries.get? id with
  | none =>
      by_cases same : x = id
      · subst same
        simp [found]
      · simp [same]
  | some entry =>
      have named := sound.filed id entry found
      by_cases ended : entry.transfer.status.isTerminal = true
      · simp only [if_pos ended]
        by_cases same : x = id
        · subst same
          simp [found, LedgerEntry.cancelled, ended]
        · simp [same]
      · simp only [if_neg ended, get?_publish]
        by_cases same : x = id
        · subst same
          rw [if_pos named.symm, if_pos rfl, found, Option.map_some, LedgerEntry.cancelled,
            if_neg ended]
        · rw [if_neg (named ▸ same), if_neg same]

/-- A status that is watched without its transfer is left alone. -/
theorem cancelLive_watched {state : Nat × TransferLedger} (sound : state.2.Sound)
    (id : TransferId) {x : TransferId} (untracked : state.2.entries.get? x = none) :
    (cancelLive state id).2.watched.get? x = state.2.watched.get? x := by
  unfold cancelLive
  cases found : state.2.entries.get? id with
  | none => rfl
  | some entry =>
      have named := sound.filed id entry found
      by_cases ended : entry.transfer.status.isTerminal = true
      · simp only [if_pos ended]
      · simp only [if_neg ended, watched_publish, named]
        by_cases same : x = id
        · subst same
          simp [untracked] at found
        · simp [same]

section

variable {state : Nat × TransferLedger} (sound : state.2.Sound)
include sound

theorem cancelLives_preserve_sound (ids : List TransferId) :
    (ids.foldl cancelLive state).2.Sound := by
  induction ids generalizing state with
  | nil => exact sound
  | cons id rest ih => exact ih (cancelLive_preserves_sound sound id)

theorem cancelLives_get? (ids : List TransferId) (x : TransferId) :
    (ids.foldl cancelLive state).2.entries.get? x =
      if x ∈ ids then (state.2.entries.get? x).map .cancelled else state.2.entries.get? x := by
  induction ids generalizing state with
  | nil => simp
  | cons id rest ih =>
      rw [List.foldl_cons, ih (cancelLive_preserves_sound sound id), cancelLive_get? sound]
      by_cases same : x = id
      · -- listed twice or not, a transfer is cancelled once
        subst same
        by_cases later : x ∈ rest <;>
          simp [later, Function.comp_def, LedgerEntry.cancelled_cancelled]
      · simp [same]

theorem cancelLives_watched (ids : List TransferId) {x : TransferId}
    (untracked : state.2.entries.get? x = none) :
    (ids.foldl cancelLive state).2.watched.get? x = state.2.watched.get? x := by
  induction ids generalizing state with
  | nil => rfl
  | cons id rest ih =>
      have still : (cancelLive state id).2.entries.get? x = none := by
        rw [cancelLive_get? sound]
        simp [untracked]
      rw [List.foldl_cons, ih (cancelLive_preserves_sound sound id) still,
        cancelLive_watched sound id untracked]

end

section

variable {l : TransferLedger} (sound : l.Sound)
include sound

theorem cancelAll_preserves_sound (job : JobId) : (l.cancelAll job).2.Sound :=
  cancelLives_preserve_sound sound _

theorem cancelAll_get? (job : JobId) (id : TransferId) :
    (l.cancelAll job).2.entries.get? id = (l.entries.get? id).map fun entry =>
      if entry.transfer.jobId = job then entry.cancelled else entry := by
  have listed := sound.indexed id job
  unfold cancelAll
  rw [cancelLives_get? sound]
  cases found : l.entries.get? id with
  | none => simp
  | some entry =>
      rw [found] at listed
      by_cases mine : entry.transfer.jobId = job <;> simp [listed, mine]

/-! ## Dropping -/

/-- Cancels the live transfers of a job and drops all its transfers. -/
def dropJob (l : TransferLedger) (job : JobId) : TransferLedger :=
  ((l.cancelAll job).2.evictJob job).2

theorem dropJob_preserves_sound (job : JobId) : (l.dropJob job).Sound :=
  evictJob_preserves_sound (cancelAll_preserves_sound sound job) job

/-- Exactly the transfers of the job go. -/
theorem dropJob_get? (job : JobId) (id : TransferId) :
    (l.dropJob job).entries.get? id =
      (l.entries.get? id).filter fun entry => entry.transfer.jobId ≠ job := by
  unfold dropJob
  rw [evictJob_get? (cancelAll_preserves_sound sound job), cancelAll_get? sound]
  cases l.entries.get? id with
  | none => rfl
  | some entry =>
      rw [Option.map_some, Option.filter_some, Option.filter_some]
      by_cases mine : entry.transfer.jobId = job <;> simp [mine]

/-- Whoever watches a dropped transfer sees how it ended, if only by being cancelled. -/
theorem dropJob_watched (job : JobId) {id : TransferId} {entry : LedgerEntry}
    (found : l.entries.get? id = some entry) :
    (l.dropJob job).watched.get? id = some
      (if entry.transfer.jobId = job then entry.cancelled else entry).transfer.status := by
  unfold dropJob
  rw [evictJob_watched]
  apply (cancelAll_preserves_sound sound job).watched
  rw [cancelAll_get? sound, found, Option.map_some]

theorem dropJob_watched_of_untracked (job : JobId) {id : TransferId}
    (untracked : l.entries.get? id = none) :
    (l.dropJob job).watched.get? id = l.watched.get? id := by
  unfold dropJob cancelAll
  rw [evictJob_watched, cancelLives_watched sound _ untracked]

theorem dropJob_draws (ids : IdAllocator) (job : JobId) : Draws ⟨ids, l⟩ ⟨ids, l.dropJob job⟩ := by
  refine ⟨Nat.le_refl _, ?_, ?_⟩
  · intro id present
    simp only [dropJob_get? sound] at present
    exact .inl (Option.isSome_of_isSome_filter _ _ present)
  · intro id present
    refine .inl ?_
    cases found : l.entries.get? id with
    | none =>
        simp only [dropJob_watched_of_untracked sound job found] at present
        exact present
    | some entry =>
        simp only [sound.watched id entry found]
        rfl

end

end TransferLedger

end StorageBroker
