import StorageBroker.Proofs.Transfer.Forward

/-! # No wake-up is lost

Whoever waits for a transfer watches its published status, and keeps watching it when the transfer
is dropped. Over every history the published status of a tracked transfer is its stored one, and
that of a dropped transfer is the one that it ended in. So a waiter that began while its transfer
was tracked is blocked exactly as long as the transfer is live, learns the status that the transfer
took, and is never told that there is no such transfer. -/

set_option autoImplicit false

namespace StorageBroker.TransferLedger

open Numbered (turn turns)

/-- What a waiter sees when it looks: the terminal status that was published, or that there is none
yet. Without one, the channel of a transfer that is not tracked has been closed. -/
def look (l : TransferLedger) (id : TransferId) : Except TransferError Answer :=
  match l.ending? id with
  | some status => .ok (.status status)
  | none => if l.entries.contains id then .ok .blocked else .error (.notFound id)

/-! ## Published statuses outlive their transfers -/

/-- The ledger is in order, and the numbers of the published statuses have been issued. -/
structure Published (s : Numbered TransferLedger) : Prop where
  orderly : Orderly s
  watched : KeysIssued TransferId.raw s.ids.issued s.store.watched

theorem published_empty (ids : IdAllocator) : Published ⟨ids, empty⟩ :=
  ⟨orderly_empty ids, by intro id present; simp [empty] at present⟩

/-- Cancelling publishes nothing under a number that is not published yet. -/
theorem cancelAll_watched_isSome {l : TransferLedger} (sound : l.Sound) (job : JobId)
    {id : TransferId} (present : ((l.cancelAll job).2.watched.get? id).isSome) :
    (l.watched.get? id).isSome := by
  cases found : l.entries.get? id with
  | none => rwa [cancelAll, cancelLives_watched sound _ found] at present
  | some entry => rw [sound.watched id entry found]; rfl

section

variable {s : Numbered TransferLedger} (published : Published s)
include published

theorem turn_preserves_published (next : Turn) : Published (turn apply s next) := by
  refine ⟨turn_preserves_orderly published.orderly next, ?_⟩
  rcases turn_outcome s next with
    ⟨owner, effect⟩ | ⟨job, -, swept⟩ | ⟨job, -, swept⟩ | ⟨ids, later, drawn⟩
  · have draws := effect.draws published.orderly.sound
    exact published.watched.of_drawn draws.watched draws.later
  · rw [swept]
    exact fun id present =>
      published.watched id (cancelAll_watched_isSome published.orderly.sound job present)
  · rw [swept]
    simp only [evictJob_watched]
    exact published.watched
  · rw [drawn]
    exact fun id present => Nat.le_trans (published.watched id present) later

/-- The status that was published for a dropped transfer is left alone. -/
theorem turn_keeps_watched (next : Turn) {id : TransferId} {status : TransferStatus}
    (gone : s.store.entries.get? id = none) (watched : s.store.watched.get? id = some status) :
    (turn apply s next).store.watched.get? id = some status := by
  rcases turn_outcome s next with
    ⟨owner, effect⟩ | ⟨job, -, swept⟩ | ⟨job, -, swept⟩ | ⟨ids, -, drawn⟩
  · rw [effect.watched_of_dropped published.watched published.orderly.sound gone (by simp [watched]),
      watched]
  · rw [swept, cancelAll, cancelLives_watched published.orderly.sound _ gone, watched]
  · rw [swept, evictJob_watched, watched]
  · rw [drawn, watched]

end

section

variable {s : Numbered TransferLedger} (published : Published s) (history : List Turn)
include published

theorem turns_preserve_published : Published (turns apply s history) :=
  Numbered.turns_invariant (P := Published) (fun _ next held => turn_preserves_published held next)
    published history

theorem turns_keep_watched {id : TransferId} {status : TransferStatus}
    (gone : s.store.entries.get? id = none) (watched : s.store.watched.get? id = some status) :
    (turns apply s history).store.watched.get? id = some status := by
  induction history generalizing s with
  | nil => exact watched
  | cons next rest ih =>
      -- a number that was published has been drawn, so it is not tracked again
      have spent := published.watched id (by simp [watched])
      exact ih (turn_preserves_published published next)
        ((turn_draws published.orderly next).2.absent gone spent)
        (turn_keeps_watched published next gone watched)

end

/-! ## What a waiter sees -/

theorem look_of_tracked {l : TransferLedger} (sound : l.Sound) {id : TransferId} {t : Transfer}
    (tracked : l.transfer id = .ok t) :
    l.look id = .ok (if t.status.isTerminal then .status t.status else .blocked) := by
  obtain ⟨entry, found, rfl⟩ := transfer_eq_ok.mp tracked
  unfold look
  rw [ending?_of_tracked sound found]
  cases entry.transfer.status.isTerminal <;> simp [Table.contains, found]

theorem look_of_watched {l : TransferLedger} {id : TransferId} {status : TransferStatus}
    (watched : l.watched.get? id = some status) (ended : status.isTerminal = true) :
    l.look id = .ok (.status status) := by
  rw [look, ending?, watched, Option.filter_some, if_pos ended]

/-- A wait looks at once if the transfer is tracked, and changes nothing. -/
theorem apply_wait (s : Numbered TransferLedger) (id : TransferId) :
    apply s (.wait id) =
      (if s.store.entries.contains id then s.store.look id else .error (.notFound id), s) := by
  simp only [apply, watch, look, Table.contains]
  split
  · rename_i gone
    simp [gone, Except.map]
  · rename_i entry found
    simp only [found, Option.isSome_some, if_true, Except.map]
    cases s.store.ending? id <;> rfl

/-- After part of a history a transfer had taken this terminal status. -/
def Took (s : Numbered TransferLedger) (history : List Turn) (id : TransferId)
    (status : TransferStatus) : Prop :=
  status.isTerminal = true ∧ ∃ first rest t, history = first ++ rest ∧
    (turns apply s first).store.transfer id = .ok t ∧ t.status = status

section

variable {s : Numbered TransferLedger} (published : Published s)
include published

/-- A waiter sees how its transfer ended after every history, also when it has been evicted. -/
theorem look_of_ended {id : TransferId} {t : Transfer} (tracked : s.store.transfer id = .ok t)
    (ended : t.status.isTerminal = true) (history : List Turn) :
    (turns apply s history).store.look id = .ok (.status t.status) := by
  cases course published.orderly history tracked with
  | tracked now found later =>
      obtain rfl := later.frozen ended
      have sound := (turns_preserve_orderly published.orderly history).sound
      rw [look_of_tracked sound found, if_pos ended]
  | evicted first rest last split found later ended' gone =>
      obtain rfl := later.frozen ended
      obtain ⟨entry, known, rfl⟩ := transfer_eq_ok.mp found
      have held := turns_preserve_published published first
      have watched := held.orderly.sound.watched id entry known
      have dropped := evictJob_drops held.orderly.sound known ended
      rw [split, Numbered.turns_append]
      refine look_of_watched (turns_keep_watched (turn_preserves_published held
        (.own (.evictJob entry.transfer.jobId))) rest dropped ?_) ended
      exact (congrArg (Table.get? · id) (evictJob_watched _ _)).trans watched

/-- What a waiter sees that began while its transfer was tracked: it is blocked exactly as long as
the transfer is live, and then it sees the status that the transfer took. -/
structure Wakes (s : Numbered TransferLedger) (history : List Turn) (id : TransferId) : Prop where
  blocked : (turns apply s history).store.look id = .ok .blocked ↔
    ∃ t, (turns apply s history).store.transfer id = .ok t ∧ t.status.isTerminal = false
  woken : ∀ status, (turns apply s history).store.look id = .ok (.status status) ↔
    Took s history id status
  answered : (turns apply s history).store.look id = .ok .blocked ∨
    ∃ status, (turns apply s history).store.look id = .ok (.status status)
  settled : ∀ status, (turns apply s history).store.look id = .ok (.status status) →
    ∀ more, (turns apply s (history ++ more)).store.look id = .ok (.status status)

theorem took_shows {history : List Turn} {id : TransferId} {status : TransferStatus}
    (took : Took s history id status) (more : List Turn) :
    (turns apply s (history ++ more)).store.look id = .ok (.status status) := by
  obtain ⟨ended, first, rest, t, rfl, found, rfl⟩ := took
  rw [List.append_assoc, Numbered.turns_append]
  exact look_of_ended (turns_preserve_published published first) found ended (rest ++ more)

/-- The transfer is live and its waiter is blocked, or it took a terminal status. -/
theorem live_or_took {id : TransferId} {t : Transfer} (tracked : s.store.transfer id = .ok t)
    (history : List Turn) :
    (∃ now, (turns apply s history).store.transfer id = .ok now ∧ now.status.isTerminal = false ∧
      (turns apply s history).store.look id = .ok .blocked) ∨
    ∃ status, Took s history id status := by
  cases course published.orderly history tracked with
  | tracked now found later =>
      have sound := (turns_preserve_orderly published.orderly history).sound
      by_cases ended : now.status.isTerminal = true
      · exact .inr ⟨_, ended, history, [], now, (List.append_nil _).symm, found, rfl⟩
      · refine .inl ⟨now, found, Bool.not_eq_true _ ▸ ended, ?_⟩
        rw [look_of_tracked sound found, if_neg ended]
  | evicted first rest last split found later ended gone =>
      exact .inr ⟨_, ended, first, _, last, split, found, rfl⟩

theorem wakes {id : TransferId} {t : Transfer} (tracked : s.store.transfer id = .ok t)
    (history : List Turn) : Wakes s history id := by
  have shows {status : TransferStatus} (took : Took s history id status) :
      (turns apply s history).store.look id = .ok (.status status) := by
    simpa using took_shows published took []
  rcases live_or_took published tracked history with ⟨now, found, live, seen⟩ | ⟨status, took⟩
  · have asleep (status : TransferStatus) :
        (turns apply s history).store.look id ≠ .ok (.status status) := by
      simp [seen]
    exact ⟨⟨fun _ => ⟨now, found, live⟩, fun _ => seen⟩,
      fun status => ⟨fun woken => absurd woken (asleep status),
        fun took => absurd (shows took) (asleep status)⟩,
      .inl seen, fun status woken => absurd woken (asleep status)⟩
  · have seen := shows took
    have same {other : TransferStatus}
        (woken : (turns apply s history).store.look id = .ok (.status other)) : other = status := by
      simpa using woken.symm.trans seen
    refine ⟨⟨?_, ?_⟩, fun other => ⟨?_, shows⟩, .inr ⟨status, seen⟩, ?_⟩
    · intro blocked
      exact absurd (blocked.symm.trans seen) (by simp)
    · rintro ⟨now, found, live⟩
      have blocked := look_of_tracked (turns_preserve_orderly published.orderly history).sound found
      rw [live, if_neg Bool.false_ne_true] at blocked
      exact blocked
    · intro woken
      exact same woken ▸ took
    · intro other woken more
      exact same woken ▸ took_shows published took more

end

/-- No wake-up is lost: after any history the published status of a tracked transfer is its stored
one. A wait for a tracked transfer looks at that status, and over every further history its waiter
is blocked exactly as long as the transfer is live and then sees the status that it took. A wait for
any other transfer is refused. -/
theorem no_wake_is_lost (ids : IdAllocator) (before : List Turn) (id : TransferId) :
    let s := turns apply ⟨ids, empty⟩ before
    (∀ t, s.store.transfer id = .ok t →
      s.store.watched.get? id = some t.status ∧
      apply s (.wait id) =
        (.ok (if t.status.isTerminal then .status t.status else .blocked), s) ∧
      ∀ after, Wakes s after id) ∧
    (s.store.transfer id = .error (.notFound id) →
      apply s (.wait id) = (.error (.notFound id), s)) := by
  intro s
  have published := turns_preserve_published (published_empty ids) before
  have sound : s.store.Sound := published.orderly.sound
  constructor
  · intro t tracked
    refine ⟨?_, ?_, fun after => wakes published tracked after⟩
    · obtain ⟨entry, found, rfl⟩ := transfer_eq_ok.mp tracked
      exact sound.watched id entry found
    · obtain ⟨entry, found, -⟩ := transfer_eq_ok.mp tracked
      rw [apply_wait, look_of_tracked sound tracked, if_pos (by simp [Table.contains, found])]
  · intro gone
    rw [apply_wait, if_neg (by simp [Table.contains, transfer_eq_notFound.mp gone])]

/-- A waiter sees that its transfer was cancelled after the transfer has been evicted. -/
example :
    let s := turns apply ⟨.fresh, empty⟩ [.own (.create ⟨9⟩ [⟨"a"⟩] [⟨"b"⟩] [] .oneToOne)]
    let later := turns apply s [.own (.cancelAll ⟨9⟩), .own (.evictJob ⟨9⟩)]
    s.store.look ⟨1⟩ = .ok .blocked ∧ later.store.transfer ⟨1⟩ = .error (.notFound ⟨1⟩) ∧
      later.store.look ⟨1⟩ = .ok (.status .cancelled) := by
  cbv

end StorageBroker.TransferLedger
