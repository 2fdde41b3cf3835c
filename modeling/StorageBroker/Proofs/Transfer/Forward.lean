import StorageBroker.Proofs.History
import StorageBroker.Proofs.Transfer.Drop

/-! # Transfers only move forward

The ledger shares its allocator, so other stores draw numbers between its operations. Over every
history of operations and of such draws, a tracked transfer keeps its task and never goes back;
once it has ended it stays as it is, and whatever would change it is refused. It is tracked until
an eviction of its job finds it ended, and is never tracked again after that. -/

set_option autoImplicit false

namespace StorageBroker

theorem LedgerEntry.later_cancelled (entry : LedgerEntry) :
    entry.transfer.Later entry.cancelled.transfer := by
  unfold cancelled
  by_cases ended : entry.transfer.status.isTerminal = true
  · rw [if_pos ended]
    exact .refl _
  · rw [if_neg ended]
    exact .of_live (Bool.not_eq_true _ ▸ ended) ⟨rfl, rfl, rfl, rfl, rfl, rfl⟩
      (TransferStatus.rank_le_cancelled _)

namespace TransferLedger

open Numbered (turn turns)

/-! ## Histories -/

abbrev Turn : Type := Numbered.Turn Operation

/-! ## What an operation leaves in order -/

/-- The ledger is sound, and the numbers of its transfers have been issued. -/
structure Orderly (s : Numbered TransferLedger) : Prop where
  sound : s.store.Sound
  issued : KeysIssued TransferId.raw s.ids.issued s.store.entries

theorem orderly_empty (ids : IdAllocator) : Orderly ⟨ids, empty⟩ :=
  ⟨sound_empty, by intro id present; simp [empty] at present⟩

/-- What one turn can do: an effect on one transfer, a sweep over those of a job, or a draw. -/
theorem turn_outcome (s : Numbered TransferLedger) (next : Turn) :
    (∃ owner, Effect owner s (turn apply s next)) ∨
    (∃ job, next = .own (.cancelAll job) ∧ turn apply s next = ⟨s.ids, (s.store.cancelAll job).2⟩) ∨
    (∃ job, next = .own (.evictJob job) ∧ turn apply s next = ⟨s.ids, (s.store.evictJob job).2⟩) ∨
    ∃ ids, s.ids.issued ≤ ids.issued ∧ turn apply s next = ⟨ids, s.store⟩ := by
  cases next with
  | elsewhere drawn => exact .inr (.inr (.inr ⟨_, s.ids.issued_le_take drawn, rfl⟩))
  | own operation =>
      cases operation with
      | create job sources targets limits mapping =>
          exact .inl ⟨_, create_effect s job sources targets limits mapping⟩
      | setPriority id delta => exact .inl ⟨_, setPriority_effect s.ids s.store id delta⟩
      | cancel id => exact .inl ⟨_, cancel_effect s.ids s.store id⟩
      | update id status progress =>
          exact .inl ⟨_, update_effect s.ids s.store id status progress⟩
      | cancelAll job => exact .inr (.inl ⟨job, rfl, rfl⟩)
      | evictJob job => exact .inr (.inr (.inl ⟨job, rfl, rfl⟩))
      | transfer id | transfersFor job | pending job | priority id | wait id =>
          exact .inl ⟨none, .nothing⟩

section

variable {s : Numbered TransferLedger} (orderly : Orderly s)
include orderly

theorem turn_preserves_sound (next : Turn) : (turn apply s next).store.Sound := by
  rcases turn_outcome s next with
    ⟨owner, effect⟩ | ⟨job, -, swept⟩ | ⟨job, -, swept⟩ | ⟨ids, -, drawn⟩
  · exact effect.preserves_sound orderly.issued orderly.sound
  · rw [swept]
    exact cancelAll_preserves_sound orderly.sound job
  · rw [swept]
    exact evictJob_preserves_sound orderly.sound job
  · rw [drawn]
    exact orderly.sound

/-- What is tracked after a turn was tracked before, or has a number drawn by it. -/
theorem turn_draws (next : Turn) : s.ids.issued ≤ (turn apply s next).ids.issued ∧
    KeysDrawn TransferId.raw s.ids.issued (turn apply s next).ids.issued s.store.entries
      (turn apply s next).store.entries := by
  rcases turn_outcome s next with
    ⟨owner, effect⟩ | ⟨job, -, swept⟩ | ⟨job, -, swept⟩ | ⟨ids, later, drawn⟩
  · exact ⟨(effect.draws orderly.sound).later, (effect.draws orderly.sound).entries⟩
  · rw [swept]
    refine ⟨Nat.le_refl _, fun id present => .inl ?_⟩
    rwa [cancelAll_get? orderly.sound, Option.isSome_map] at present
  · rw [swept]
    refine ⟨Nat.le_refl _, fun id present => .inl ?_⟩
    rw [evictJob_get? orderly.sound] at present
    exact Option.isSome_of_isSome_filter _ _ present
  · rw [drawn]
    exact ⟨later, .refl _⟩

theorem turn_preserves_orderly (next : Turn) : Orderly (turn apply s next) :=
  ⟨turn_preserves_sound orderly next,
    orderly.issued.of_drawn (turn_draws orderly next).2 (turn_draws orderly next).1⟩

/-- A tracked transfer is tracked after a turn and has not gone back, or it had ended and its job
was evicted. -/
theorem turn_moves_forward (next : Turn) {id : TransferId} {t : Transfer}
    (tracked : s.store.transfer id = .ok t) :
    (∃ now, (turn apply s next).store.transfer id = .ok now ∧ t.Later now) ∨
    (next = .own (.evictJob t.jobId) ∧ t.status.isTerminal = true ∧
      (turn apply s next).store.transfer id = .error (.notFound id)) := by
  obtain ⟨entry, found, rfl⟩ := transfer_eq_ok.mp tracked
  rcases turn_outcome s next with
    ⟨owner, effect⟩ | ⟨job, -, swept⟩ | ⟨job, rfl, swept⟩ | ⟨ids, -, drawn⟩
  · obtain ⟨after, still, later, -⟩ := effect.keeps orderly.issued orderly.sound found
    exact .inl ⟨_, transfer_eq_ok.mpr ⟨after, still, rfl⟩, later⟩
  · have after := cancelAll_get? orderly.sound job id
    rw [found, Option.map_some] at after
    rw [swept]
    refine .inl ⟨_, transfer_eq_ok.mpr ⟨_, after, rfl⟩, ?_⟩
    by_cases mine : entry.transfer.jobId = job
    · rw [if_pos mine]
      exact entry.later_cancelled
    · rw [if_neg mine]
      exact .refl _
  · have after := evictJob_get? orderly.sound job id
    rw [found, Option.filter_some] at after
    rw [swept]
    by_cases goes : entry.transfer.jobId = job ∧ entry.transfer.status.isTerminal = true
    · exact .inr ⟨by rw [goes.1], goes.2, transfer_eq_notFound.mpr (by simp [after, goes])⟩
    · refine .inl ⟨_, transfer_eq_ok.mpr ⟨entry, ?_, rfl⟩, .refl _⟩
      rw [after]
      simpa using goes
  · rw [drawn]
    exact .inl ⟨_, tracked, .refl _⟩

end

/-! ## Whole histories -/

theorem turns_preserve_orderly {s : Numbered TransferLedger} (orderly : Orderly s)
    (history : List Turn) : Orderly (turns apply s history) :=
  Numbered.turns_invariant (P := Orderly) (fun _ next held => turn_preserves_orderly held next)
    orderly history

theorem turns_draw {s : Numbered TransferLedger} (orderly : Orderly s) (history : List Turn) :
    s.ids.issued ≤ (turns apply s history).ids.issued ∧
    KeysDrawn TransferId.raw s.ids.issued (turns apply s history).ids.issued s.store.entries
      (turns apply s history).store.entries := by
  induction history generalizing s with
  | nil => exact ⟨Nat.le_refl _, .refl _⟩
  | cons next rest ih =>
      have first := turn_draws orderly next
      have last := ih (turn_preserves_orderly orderly next)
      exact ⟨Nat.le_trans first.1 last.1, first.2.trans last.2 first.1 last.1⟩

/-- A number that was tracked once and is not any more stays untracked. -/
theorem turns_keep_untracked {s : Numbered TransferLedger} (orderly : Orderly s)
    (history : List Turn) {id : TransferId} (spent : id.raw.toNat ≤ s.ids.issued)
    (gone : s.store.transfer id = .error (.notFound id)) :
    (turns apply s history).store.transfer id = .error (.notFound id) :=
  transfer_eq_notFound.mpr
    ((turns_draw orderly history).2.absent (transfer_eq_notFound.mp gone) spent)

/-- What becomes of a tracked transfer over a history: it is tracked still and has not gone back,
or an eviction of its job found it ended, and it is gone for good. -/
inductive Course (s : Numbered TransferLedger) (history : List Turn) (id : TransferId)
    (t : Transfer) : Prop
  | tracked (now : Transfer) (found : (turns apply s history).store.transfer id = .ok now)
      (later : t.Later now)
  | evicted (first rest : List Turn) (last : Transfer)
      (split : history = first ++ .own (.evictJob t.jobId) :: rest)
      (found : (turns apply s first).store.transfer id = .ok last) (later : t.Later last)
      (ended : last.status.isTerminal = true)
      (gone : ∀ more, (turns apply s (history ++ more)).store.transfer id = .error (.notFound id))

theorem course {s : Numbered TransferLedger} (orderly : Orderly s) (history : List Turn)
    {id : TransferId} {t : Transfer} (tracked : s.store.transfer id = .ok t) :
    Course s history id t := by
  induction history generalizing s t with
  | nil => exact .tracked t tracked (.refl _)
  | cons next rest ih =>
      have held := turn_preserves_orderly orderly next
      rcases turn_moves_forward orderly next tracked with ⟨now, found, later⟩ | ⟨rfl, ended, gone⟩
      · cases ih held found with
        | tracked last still farther => exact .tracked last still (later.trans farther)
        | evicted first rest last split still farther ended gone =>
            exact .evicted (next :: first) rest last (by rw [split, later.task.jobId]; rfl) still
              (later.trans farther) ended gone
      · -- the number is spent, so no later creation takes it
        obtain ⟨entry, found, -⟩ := transfer_eq_ok.mp tracked
        have spent := Nat.le_trans (orderly.issued id (by simp [found]))
          (turn_draws orderly (.own (.evictJob t.jobId))).1
        exact .evicted [] rest t rfl tracked (.refl _) ended
          fun more => turns_keep_untracked held (rest ++ more) spent gone

/-! ## Ended transfers -/

/-- Whatever would change an ended transfer is refused and changes nothing; only cancelling a
cancelled one succeeds, and changes nothing either. -/
structure Frozen (s : Numbered TransferLedger) (id : TransferId) (status : TransferStatus) :
    Prop where
  update : ∀ next progress, apply s (.update id next progress) =
    (.error (.invalidTransition id status next), s)
  setPriority : ∀ delta, apply s (.setPriority id delta) =
    (.error (.notSchedulable id status), s)
  priority : apply s (.priority id) = (.error (.notSchedulable id status), s)
  cancel : apply s (.cancel id) =
    (if status = .cancelled then .ok (.status .cancelled)
      else .error (.invalidTransition id status .cancelled), s)

theorem frozen_of_ended {s : Numbered TransferLedger} {id : TransferId} {t : Transfer}
    (tracked : s.store.transfer id = .ok t) (ended : t.status.isTerminal = true) :
    Frozen s id t.status := by
  obtain ⟨entry, found, rfl⟩ := transfer_eq_ok.mp tracked
  refine ⟨?_, ?_, ?_, ?_⟩
  · intro next progress
    simp only [apply, TransferLedger.update, found, ended, Bool.true_or, if_true]
    rfl
  · intro delta
    have waits : entry.transfer.status ≠ .pending := by
      intro pending
      simp [pending, TransferStatus.isTerminal] at ended
    simp only [apply, TransferLedger.setPriority, found, if_neg waits]
    rfl
  · simp only [apply, TransferLedger.priority, found, ended, if_true]
    rfl
  · simp only [apply, TransferLedger.cancel, found]
    cases status : entry.transfer.status with
    | cancelled | finished | failed => rfl
    | pending | inProgress => simp [status, TransferStatus.isTerminal] at ended

/-- A transfer never goes back: over every history it keeps its task, its status moves forward
only, and once ended it stays as it is, until an eviction of its job drops it for good. -/
theorem transfers_only_move_forward (ids : IdAllocator) (before after : List Turn)
    {id : TransferId} {t : Transfer}
    (tracked : (turns apply ⟨ids, empty⟩ before).store.transfer id = .ok t) :
    Course (turns apply ⟨ids, empty⟩ before) after id t ∧
    (t.status.isTerminal = true → Frozen (turns apply ⟨ids, empty⟩ before) id t.status) :=
  ⟨course (turns_preserve_orderly (orderly_empty ids) before) after tracked,
    frozen_of_ended tracked⟩

/-- A transfer that is cancelled with its job, reported too late, evicted and not found again. -/
theorem cancelled_transfer_stays_cancelled :
    ∃ t : Transfer, t.status = .cancelled ∧
      Course (turns apply ⟨.fresh, empty⟩ [.elsewhere 3,
          .own (.create ⟨1⟩ [⟨"in"⟩] [⟨"out"⟩] [] .oneToOne), .own (.cancelAll ⟨1⟩)])
        [.own (.update ⟨4⟩ .finished .none), .own (.evictJob ⟨1⟩),
          .own (.create ⟨1⟩ [⟨"in"⟩] [⟨"out"⟩] [] .oneToOne)] ⟨4⟩ t ∧
      Frozen (turns apply ⟨.fresh, empty⟩ [.elsewhere 3,
          .own (.create ⟨1⟩ [⟨"in"⟩] [⟨"out"⟩] [] .oneToOne), .own (.cancelAll ⟨1⟩)]) ⟨4⟩
        .cancelled :=
  have forward := @transfers_only_move_forward .fresh
    [.elsewhere 3, .own (.create ⟨1⟩ [⟨"in"⟩] [⟨"out"⟩] [] .oneToOne), .own (.cancelAll ⟨1⟩)]
    [.own (.update ⟨4⟩ .finished .none), .own (.evictJob ⟨1⟩),
      .own (.create ⟨1⟩ [⟨"in"⟩] [⟨"out"⟩] [] .oneToOne)]
    ⟨4⟩ ⟨⟨4⟩, ⟨1⟩, [⟨"in"⟩], [⟨"out"⟩], [], .oneToOne, 0, .cancelled, .none⟩ rfl
  ⟨_, rfl, forward.1, forward.2 rfl⟩

end TransferLedger

end StorageBroker
