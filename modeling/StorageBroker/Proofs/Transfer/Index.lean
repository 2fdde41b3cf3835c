import StorageBroker.Proofs.Transfer.Effect

/-! # The index and the watched statuses of the ledger

A ledger is sound when each transfer is filed under its own id, the index of a job lists exactly
the tracked transfers of that job, and the status that waiters watch is the status on record. Every
effect keeps a ledger sound. On a sound ledger, cancelling and then evicting a job drops exactly
the transfers of that job. -/

set_option autoImplicit false

namespace StorageBroker.TransferLedger

/-- The index and the watched statuses agree with the transfers on record. -/
structure Sound (l : TransferLedger) : Prop where
  filed : ∀ id entry, l.entries.get? id = some entry → entry.transfer.id = id
  indexed : ∀ id job, id ∈ l.idsOf job ↔
    ∃ entry, l.entries.get? id = some entry ∧ entry.transfer.jobId = job
  watched : ∀ id entry, l.entries.get? id = some entry →
    l.watched.get? id = some entry.transfer.status

theorem sound_empty : Sound empty where
  filed := by intro id entry found; simp [empty] at found
  indexed := by intro id job; simp [idsOf, empty]
  watched := by intro id entry found; simp [empty] at found

theorem ending?_of_tracked {l : TransferLedger} (sound : l.Sound) {id : TransferId}
    {entry : LedgerEntry} (found : l.entries.get? id = some entry) :
    l.ending? id =
      if entry.transfer.status.isTerminal then some entry.transfer.status else none := by
  unfold ending?
  rw [sound.watched id entry found, Option.filter_some]

theorem isEnded_iff {l : TransferLedger} (sound : l.Sound) {id : TransferId} {entry : LedgerEntry}
    (found : l.entries.get? id = some entry) :
    l.isEnded id = entry.transfer.status.isTerminal := by
  unfold isEnded
  rw [ending?_of_tracked sound found]
  cases entry.transfer.status.isTerminal <;> rfl

/-! ## Writing one transfer back -/

theorem write_preserves_sound {l : TransferLedger} (sound : l.Sound) {id : TransferId}
    {entry : LedgerEntry} {transfer : Transfer} (found : l.entries.get? id = some entry)
    (task : entry.transfer.SameTask transfer) (stays : transfer.status = entry.transfer.status) :
    (l.write entry transfer).Sound := by
  have named : transfer.id = id := task.id.trans (sound.filed id entry found)
  refine ⟨?_, ?_, ?_⟩
  · intro x found'
    have before := sound.filed x
    grind [get?_write]
  · intro x job
    have before := sound.indexed x job
    have job' := task.jobId
    change x ∈ l.idsOf job ↔ _
    grind [get?_write]
  · intro x
    have before := sound.watched x
    change ∀ entry', _ → l.watched.get? x = _
    grind [get?_write]

theorem publish_preserves_sound {l : TransferLedger} (sound : l.Sound) {id : TransferId}
    {entry : LedgerEntry} {transfer : Transfer} (found : l.entries.get? id = some entry)
    (task : entry.transfer.SameTask transfer) : (l.publish entry transfer).Sound := by
  have named : transfer.id = id := task.id.trans (sound.filed id entry found)
  refine ⟨?_, ?_, ?_⟩
  · intro x found'
    have before := sound.filed x
    grind [get?_publish]
  · intro x job
    have before := sound.indexed x job
    have job' := task.jobId
    change x ∈ l.idsOf job ↔ _
    grind [get?_publish]
  · intro x
    have before := sound.watched x
    rw [watched_publish]
    grind [get?_publish]

/-! ## A new transfer -/

theorem create_preserves_sound {l : TransferLedger} (sound : l.Sound) {raw : UInt64}
    {transfer : Transfer} (fresh : l.entries.get? ⟨raw⟩ = none) (numbered : transfer.id = ⟨raw⟩)
    (pending : transfer.status = .pending) : Sound {
      entries := l.entries.insert ⟨raw⟩ ⟨transfer, l.created⟩
      byJob := l.byJob.insert transfer.jobId (l.idsOf transfer.jobId ++ [⟨raw⟩])
      watched := l.watched.insert ⟨raw⟩ .pending
      created := l.created + 1 } where
  filed := by
    intro id
    have before := sound.filed id
    grind
  indexed := by
    intro id job
    have before := sound.indexed id job
    have listed : ((l.byJob.insert transfer.jobId (l.idsOf transfer.jobId ++ [⟨raw⟩])).get?
        job).getD [] = if job = transfer.jobId then l.idsOf job ++ [⟨raw⟩] else l.idsOf job := by
      rw [Table.get?_insert]
      by_cases same : job = transfer.jobId
      · simp [same]
      · simp [same, idsOf]
    change id ∈ ((l.byJob.insert _ _).get? job).getD [] ↔ _
    rw [listed, Table.get?_insert]
    by_cases new : id = ⟨raw⟩
    · subst new
      have untracked : ⟨raw⟩ ∉ l.idsOf job := by
        rw [before]
        simp [fresh]
      by_cases same : job = transfer.jobId
      · simp [same]
      · simp [same, untracked, Ne.symm same]
    · rw [if_neg new, ← before]
      by_cases same : job = transfer.jobId <;> simp [same, new]
  watched := by
    intro id
    have before := sound.watched id
    grind

theorem Effect.preserves_sound {owner : Option JobId} {s s' : Numbered TransferLedger}
    (effect : Effect owner s s') (issued : KeysIssued TransferId.raw s.ids.issued s.store.entries)
    (sound : s.store.Sound) : s'.store.Sound := by
  cases effect with
  | nothing => exact sound
  | created asked drawn numbered pending =>
      exact create_preserves_sound sound (issued.fresh drawn rfl) numbered pending
  | rewritten found live task stays => exact write_preserves_sound sound found task stays
  | moved found live task forward => exact publish_preserves_sound sound found task

/-! ## Tracked transfers before and after -/

/-- A tracked transfer was tracked before as the same task, or is the one that was asked for. -/
theorem Effect.origin {owner : Option JobId} {s s' : Numbered TransferLedger}
    (effect : Effect owner s s') (sound : s.store.Sound) {id : TransferId} {entry : LedgerEntry}
    (found : s'.store.entries.get? id = some entry) :
    (∃ before, s.store.entries.get? id = some before ∧
      before.transfer.SameTask entry.transfer) ∨ owner = some entry.transfer.jobId := by
  cases effect with
  | nothing => exact .inl ⟨entry, found, .refl _⟩
  | created asked drawn numbered pending =>
      rw [Table.get?_insert] at found
      split at found
      · exact .inr (Option.some.inj found ▸ asked)
      · exact .inl ⟨entry, found, .refl _⟩
  | @rewritten known before transfer tracked live task stays =>
      rw [get?_write] at found
      split at found
      · rename_i same
        rw [task.id, sound.filed _ _ tracked] at same
        exact .inl ⟨before, same ▸ tracked, Option.some.inj found ▸ task⟩
      · exact .inl ⟨entry, found, .refl _⟩
  | @moved known before transfer tracked live task forward =>
      rw [get?_publish] at found
      split at found
      · rename_i same
        rw [task.id, sound.filed _ _ tracked] at same
        exact .inl ⟨before, same ▸ tracked, Option.some.inj found ▸ task⟩
      · exact .inl ⟨entry, found, .refl _⟩

/-- A tracked transfer stays tracked, moves forward only, and keeps its place in the order. -/
theorem Effect.keeps {owner : Option JobId} {s s' : Numbered TransferLedger}
    (effect : Effect owner s s') (issued : KeysIssued TransferId.raw s.ids.issued s.store.entries)
    (sound : s.store.Sound) {id : TransferId} {entry : LedgerEntry}
    (found : s.store.entries.get? id = some entry) :
    ∃ after, s'.store.entries.get? id = some after ∧
      entry.transfer.Later after.transfer ∧ after.order = entry.order := by
  have stays : s'.store.entries.get? id = some entry → ∃ after,
      s'.store.entries.get? id = some after ∧
      entry.transfer.Later after.transfer ∧ after.order = entry.order :=
    fun same => ⟨entry, same, .refl _, rfl⟩
  cases effect with
  | nothing => exact stays found
  | @created raw ids transfer asked drawn numbered pending =>
      have unused := issued.fresh drawn (k := ⟨raw⟩) rfl
      have other : id ≠ ⟨raw⟩ := by
        rintro rfl
        simp [unused] at found
      exact stays (by rw [Table.get?_insert, if_neg other, found])
  | @rewritten known before transfer tracked live task same =>
      have named := task.id.trans (sound.filed _ _ tracked)
      by_cases mine : id = known
      · subst mine
        obtain rfl := Option.some.inj (tracked.symm.trans found)
        exact ⟨{ before with transfer }, by rw [get?_write, if_pos named.symm],
          .of_live live task (Nat.le_of_eq (congrArg _ same.symm)), rfl⟩
      · exact stays (by rw [get?_write, named, if_neg mine, found])
  | @moved known before transfer tracked live task forward =>
      have named := task.id.trans (sound.filed _ _ tracked)
      by_cases mine : id = known
      · subst mine
        obtain rfl := Option.some.inj (tracked.symm.trans found)
        exact ⟨{ before with transfer }, by rw [get?_publish, if_pos named.symm],
          .of_live live task forward, rfl⟩
      · exact stays (by rw [get?_publish, named, if_neg mine, found])

/-- The watched status of a transfer that has been dropped is left alone. -/
theorem Effect.watched_of_dropped {owner : Option JobId} {s s' : Numbered TransferLedger}
    (effect : Effect owner s s') (issued : KeysIssued TransferId.raw s.ids.issued s.store.watched)
    (sound : s.store.Sound) {id : TransferId} (untracked : s.store.entries.get? id = none)
    (watched : (s.store.watched.get? id).isSome) :
    s'.store.watched.get? id = s.store.watched.get? id := by
  cases effect with
  | nothing => rfl
  | created asked drawn numbered pending =>
      have unused := issued.fresh drawn (k := ⟨_⟩) rfl
      rw [Table.get?_insert, if_neg]
      rintro rfl
      simp [unused] at watched
  | rewritten found live task stays => rfl
  | moved found live task forward =>
      rw [watched_publish, if_neg]
      intro same
      rw [same, task.id, sound.filed _ _ found, found] at untracked
      exact absurd untracked (by simp)

/-! ## Numbers -/

/-- What is new in the ledger was drawn in between. -/
structure Draws (s s' : Numbered TransferLedger) : Prop where
  later : s.ids.issued ≤ s'.ids.issued
  entries : KeysDrawn TransferId.raw s.ids.issued s'.ids.issued s.store.entries s'.store.entries
  watched : KeysDrawn TransferId.raw s.ids.issued s'.ids.issued s.store.watched s'.store.watched

/-- Nothing is new in a ledger when another store draws numbers. -/
theorem Draws.elsewhere {ids next : IdAllocator} (l : TransferLedger)
    (later : ids.issued ≤ next.issued) : Draws ⟨ids, l⟩ ⟨next, l⟩ :=
  ⟨later, .refl _, .refl _⟩

theorem Draws.trans {s s' s'' : Numbered TransferLedger} (first : Draws s s')
    (last : Draws s' s'') : Draws s s'' where
  later := Nat.le_trans first.later last.later
  entries := first.entries.trans last.entries first.later last.later
  watched := first.watched.trans last.watched first.later last.later

theorem Effect.draws {owner : Option JobId} {s s' : Numbered TransferLedger}
    (effect : Effect owner s s') (sound : s.store.Sound) : Draws s s' := by
  cases effect with
  | nothing => exact ⟨Nat.le_refl _, .refl _, .refl _⟩
  | created asked drawn numbered pending =>
      have value := IdAllocator.allocate_some drawn
      exact ⟨by simp only; omega, .insert drawn _ _ _ rfl, .insert drawn _ _ _ rfl⟩
  | rewritten found live task stays =>
      refine ⟨Nat.le_refl _, (KeysDrawn.refl _).rewrite _ ?_, .refl _⟩
      rw [task.id, sound.filed _ _ found, found]
      rfl
  | moved found live task forward =>
      have named := task.id.trans (sound.filed _ _ found)
      refine ⟨Nat.le_refl _, (KeysDrawn.refl _).rewrite _ ?_, (KeysDrawn.refl _).rewrite _ ?_⟩
      · rw [named, found]
        rfl
      · rw [named, sound.watched _ _ found]
        rfl

/-! ## Eviction -/

theorem get?_foldl_erase (t : Table TransferId LedgerEntry) (ids : List TransferId)
    (id : TransferId) :
    (ids.foldl Table.erase t).get? id = if id ∈ ids then none else t.get? id := by
  induction ids generalizing t with
  | nil => simp
  | cons head rest ih =>
      rw [List.foldl_cons, ih, Table.get?_erase]
      grind

theorem evictJob_watched (l : TransferLedger) (job : JobId) :
    (l.evictJob job).2.watched = l.watched := by
  unfold evictJob
  cases l.byJob.get? job <;> rfl

theorem evictJob_get? {l : TransferLedger} (sound : l.Sound) (job : JobId) (id : TransferId) :
    (l.evictJob job).2.entries.get? id = (l.entries.get? id).filter fun entry =>
      !(entry.transfer.jobId = job && entry.transfer.status.isTerminal) := by
  have listed := sound.indexed id job
  unfold evictJob
  unfold idsOf at listed
  cases rows : l.byJob.get? job with
  | none =>
      rw [rows] at listed
      cases found : l.entries.get? id with
      | none => simp
      | some entry =>
          -- a job without a row in the index has no transfers
          have stranger : entry.transfer.jobId ≠ job := by
            intro same
            simpa using listed.mpr ⟨entry, found, same⟩
          rw [Option.filter_some]
          simp [stranger]
  | some ids =>
      rw [rows] at listed
      simp only [get?_foldl_erase]
      cases found : l.entries.get? id with
      | none => simp
      | some entry =>
          have ended := isEnded_iff sound found
          have dropped : id ∈ (ids.filter l.entries.contains).filter l.isEnded ↔
              entry.transfer.jobId = job ∧ entry.transfer.status.isTerminal = true := by
            simp only [List.mem_filter, Table.contains, found, Option.isSome_some, and_true, ended]
            rw [show id ∈ ids ↔ entry.transfer.jobId = job by simpa [found] using listed]
          rw [Option.filter_some]
          grind

/-- An ended transfer is dropped with its job. -/
theorem evictJob_drops {l : TransferLedger} (sound : l.Sound) {id : TransferId} {entry : LedgerEntry}
    (found : l.entries.get? id = some entry) (ended : entry.transfer.status.isTerminal = true) :
    (l.evictJob entry.transfer.jobId).2.entries.get? id = none := by
  rw [evictJob_get? sound, found, Option.filter_some]
  simp [ended]

theorem evictJob_idsOf {l : TransferLedger} (sound : l.Sound) (job other : JobId)
    (id : TransferId) : id ∈ (l.evictJob job).2.idsOf other ↔
      id ∈ l.idsOf other ∧ ¬ (other = job ∧ l.isEnded id = true) := by
  have tracked : ∀ x, x ∈ l.idsOf job → l.entries.contains x = true := by
    intro x listed
    obtain ⟨entry, found, -⟩ := (sound.indexed x job).mp listed
    simp [Table.contains, found]
  unfold evictJob
  cases rows : l.byJob.get? job with
  | none =>
      have nobody : l.idsOf job = [] := by simp [idsOf, rows]
      grind
  | some ids =>
      have all : l.idsOf job = ids := by simp [idsOf, rows]
      rw [all] at tracked
      simp only [idsOf]
      by_cases same : other = job
      · subst same
        rw [rows]
        by_cases left :
            ((ids.filter l.entries.contains).filter fun id => !l.isEnded id).isEmpty = true
        · rw [if_pos left, Table.get?_erase, if_pos rfl]
          rw [List.isEmpty_iff, List.filter_eq_nil_iff] at left
          grind
        · rw [if_neg left, Table.get?_insert, if_pos rfl]
          grind
      · have apart : ∀ kept : List TransferId, (if kept.isEmpty then l.byJob.erase job
            else l.byJob.insert job kept).get? other = l.byJob.get? other := by
          intro kept
          split
          · rw [Table.get?_erase, if_neg same]
          · rw [Table.get?_insert, if_neg same]
        rw [apart]
        simp [same]

theorem evictJob_preserves_sound {l : TransferLedger} (sound : l.Sound) (job : JobId) :
    (l.evictJob job).2.Sound where
  filed := by
    intro id entry found
    rw [evictJob_get? sound, Option.filter_eq_some_iff] at found
    exact sound.filed id entry found.1
  indexed := by
    intro id other
    rw [evictJob_idsOf sound, evictJob_get? sound, sound.indexed]
    cases found : l.entries.get? id with
    | none => simp
    | some entry =>
        have ended := isEnded_iff sound found
        rw [Option.filter_some]
        grind
  watched := by
    intro id entry found
    rw [evictJob_get? sound, Option.filter_eq_some_iff] at found
    rw [evictJob_watched]
    exact sound.watched id entry found.1

end StorageBroker.TransferLedger
