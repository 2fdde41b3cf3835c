import StorageBroker.Proofs.Service.Fate
import StorageBroker.Proofs.Service.Wait

/-! # What a waiter learns

A wait for a transfer ends in one of three ways: with the status and progress of the transfer once
it has ended, with a timeout while it has not, or, when the transfer has been dropped with its job
before the waiter looks, with the answer that there is no such transfer. -/

set_option autoImplicit false

namespace StorageBroker

/-- A wait for an ended transfer is answered at once; any other wait is waited for. -/
theorem Service.startAwait_of_tracked {s : Service} (sound : s.transfers.Sound) {id : TransferId}
    {entry : LedgerEntry} (found : s.transfers.entries.get? id = some entry)
    (timeoutMs : Option UInt64) :
    s.startAwait id timeoutMs =
      if entry.transfer.status.isTerminal then
        (.replied (.transferStatus entry.transfer.status entry.transfer.progress), s)
      else (.waiting (.awaiting id ((timeoutMs.map UInt64.toNat).getD s.config.waitMs)), s) := by
  unfold startAwait TransferLedger.watch
  rw [found]
  simp only [TransferLedger.ending?_of_tracked sound found]
  by_cases ended : entry.transfer.status.isTerminal = true
  · simp only [if_pos ended, endAwait, statusReply, TransferLedger.transfer, found]
    rfl
  · simp only [if_neg ended]

namespace Machine

variable {m : Machine} {call : Nat} {id : TransferId} {budgetMs : Nat}

/-! ## The signals of a waiter -/

section

variable (waits : m.waiting.get? call = some (.awaiting id budgetMs))
include waits

theorem step_wake_of_waits {status : TransferStatus}
    (ended : m.service.transfers.ending? id = some status) :
    m.step (.wake call) = m.settle call (m.service.endAwait id status) :=
  wake_of_ended waits rfl ended rfl

theorem step_wake_of_live (live : m.service.transfers.ending? id = none) :
    m.step (.wake call) = m :=
  wake_of_live waits rfl live

theorem step_expire_of_ended {status : TransferStatus}
    (ended : m.service.transfers.ending? id = some status) : m.step (.expire call) = m :=
  expire_of_ended waits rfl ended

theorem step_expire_of_live (live : m.service.transfers.ending? id = none) :
    m.step (.expire call) =
      m.settle call (.failed (.timeout (.transfer id) budgetMs), m.service) :=
  expire_of_live waits rfl live rfl

/-- Only its own wake-up or timeout answers a waiter. -/
theorem Step.keeps_waiting {m' : Machine} {event : Event} (step : Step m event m')
    (tidy : Tidy m) :
    m'.waiting.get? call = some (.awaiting id budgetMs) ∨
      ((m'.outcome? call).isSome ∧ (event = .wake call ∨ event = .expire call)) := by
  rcases step.keeps_wait tidy waits with still | ⟨signal, r, sent, went, rfl⟩
  · exact .inl still
  · right
    rw [settle_outcome?, if_pos rfl]
    cases sent with
    | answer result => exact absurd went (by simp [Service.resume])
    | wake ended =>
        obtain rfl := Option.some.inj went
        exact ⟨rfl, .inl rfl⟩
    | expire going =>
        obtain rfl := Option.some.inj went
        exact ⟨rfl, .inr rfl⟩

/-- A waiter that has not been answered waits on. -/
theorem run_keeps_waiting (tidy : Tidy m) (history : List Event)
    (unanswered : (m.run history).outcome? call = none) :
    (m.run history).waiting.get? call = some (.awaiting id budgetMs) :=
  run_keeps_wait tidy waits rfl history unanswered

theorem outcome?_wake_of_ended {status : TransferStatus}
    (ended : m.service.transfers.ending? id = some status) :
    (m.step (.wake call)).outcome? call = some (.reply (m.service.statusReply id status)) := by
  rw [step_wake_of_waits waits ended, settle_outcome?, if_pos rfl]
  rfl

theorem outcome?_expire_of_live (live : m.service.transfers.ending? id = none) :
    (m.step (.expire call)).outcome? call =
      some (.reply (.error (.timeout (.transfer id) budgetMs))) := by
  rw [step_expire_of_live waits live, settle_outcome?, if_pos rfl]
  rfl

end

/-! ## The answer -/

/-- The answer that a waiter gets when it looks for a transfer that has ended. -/
theorem statusReply_of_fate {s : Service} (orderly : s.Orderly) (coherent : s.Coherent)
    {entry : LedgerEntry} (fate : Service.Fate id entry s)
    (settled : entry.transfer.status.isTerminal = true) :
    s.transfers.ending? id = some entry.transfer.status ∧
    s.statusReply id entry.transfer.status =
      match s.registry.job entry.transfer.jobId with
      | .ok _ => .ok (.transferStatus entry.transfer.status entry.transfer.progress)
      | .error _ => .error (.transfer (.notFound id)) := by
  cases fate with
  | tracked now found task frozen =>
      obtain rfl := frozen settled
      obtain ⟨owner, registered⟩ := Service.registered_iff.mp (coherent.owned id now found)
      refine ⟨by rw [TransferLedger.ending?_of_tracked orderly.sound found, if_pos settled], ?_⟩
      simp only [Service.statusReply, TransferLedger.transfer, found, registered]
  | dropped status untracked unregistered ended frozen =>
      obtain rfl := frozen settled
      refine ⟨ended, ?_⟩
      simp only [Service.statusReply, TransferLedger.transfer, untracked,
        Service.job_of_unregistered unregistered]

theorem started_of_tracked (config : ServiceConfig) (before : List Event) {id : TransferId}
    {entry : LedgerEntry}
    (found : ((fresh config).run before).service.transfers.entries.get? id = some entry)
    (timeoutMs : Option UInt64) :
    let m := (fresh config).run before
    let begun := m.step (.call (.request (.waitTransfer id timeoutMs)))
    Tidy begun ∧
    (entry.transfer.status.isTerminal = true → begun.outcome? m.started =
      some (.reply (.ok (.transferStatus entry.transfer.status entry.transfer.progress)))) ∧
    (entry.transfer.status.isTerminal = false → begun.waiting.get? m.started =
      some (.awaiting id ((timeoutMs.map UInt64.toNat).getD config.waitMs))) := by
  intro m begun
  have same : m.service.config = config := (run_changes (fresh config) before).config_eq
  have started : begun = { m with started := m.started + 1 }.settle m.started
      (m.service.startAwait id timeoutMs) := rfl
  rw [Service.startAwait_of_tracked (run_orderly config before).sound found, same] at started
  refine ⟨(m.step_step _).preserves_tidy (run_tidy config before), ?_, ?_⟩
  · intro ended
    rw [started, if_pos ended, settle_outcome?, if_pos rfl]
    rfl
  · intro live
    rw [started, if_neg (by simp [live]), settle_waiting, if_pos rfl]
    rfl

/-- A wait for a tracked transfer, from its start on, whatever else happens meanwhile:

* a transfer that had ended is answered at once, and no answer ever changes;
* the transfer is tracked exactly as long as its job is registered;
* until the waiter is answered, only its own wake-up or its own timeout can answer it;
* while the transfer is live, a wake-up does nothing and the timeout is answered as one;
* once it has ended, time never runs out any more, and whenever the waiter wakes up it learns the
  final status and progress if the job is registered then, and that there is no such transfer if
  the job has been removed;
* the same goes for a transfer that has been dropped while it was live. -/
theorem wait_is_answered (config : ServiceConfig) (before during : List Event) (id : TransferId)
    (timeoutMs : Option UInt64) (transfer : Transfer)
    (tracked : ((fresh config).run before).service.transfers.transfer id = .ok transfer) :
    let call := ((fresh config).run before).started
    let budgetMs := (timeoutMs.map UInt64.toNat).getD config.waitMs
    let m := (fresh config).run (before ++ .call (.request (.waitTransfer id timeoutMs)) :: during)
    (transfer.status.isTerminal = true →
      m.outcome? call =
        some (.reply (.ok (.transferStatus transfer.status transfer.progress)))) ∧
    (∀ outcome later, m.outcome? call = some outcome →
      (m.run later).outcome? call = some outcome) ∧
    ((∃ now, m.service.transfers.transfer id = .ok now) ↔
      ∃ owner, m.service.registry.job transfer.jobId = .ok owner) ∧
    (m.outcome? call = none →
      (∀ event, event ≠ .wake call → event ≠ .expire call →
        (m.step event).outcome? call = none) ∧
      (∀ now, m.service.transfers.transfer id = .ok now → now.status.isTerminal = false →
        m.step (.wake call) = m ∧
        (m.step (.expire call)).outcome? call =
          some (.reply (.error (.timeout (.transfer id) budgetMs)))) ∧
      (∀ now, m.service.transfers.transfer id = .ok now → now.status.isTerminal = true →
        ∀ later, (m.run later).outcome? call = none →
          (m.run later).step (.expire call) = m.run later ∧
          ((m.run later).step (.wake call)).outcome? call =
            some (.reply (match (m.run later).service.registry.job transfer.jobId with
              | .ok _ => .ok (.transferStatus now.status now.progress)
              | .error _ => .error (.transfer (.notFound id))))) ∧
      (m.service.transfers.transfer id = .error (.notFound id) →
        m.step (.expire call) = m ∧
        (m.step (.wake call)).outcome? call =
          some (.reply (.error (.transfer (.notFound id)))))) := by
  intro call budgetMs m
  obtain ⟨entry, found, rfl⟩ := TransferLedger.transfer_eq_ok.mp tracked
  have tidy : Tidy m := run_tidy config _
  have orderly : m.service.Orderly := run_orderly config _
  have coherent : m.service.Coherent := run_coherent config _
  have fate : Service.Fate id entry m.service := run_fate config before _ found
  have whole : m = ((fresh config).run before |>.step
      (.call (.request (.waitTransfer id timeoutMs)))).run during := run_append _ _ _
  have started := started_of_tracked config before found timeoutMs
  have answered : entry.transfer.status.isTerminal = true → m.outcome? call =
      some (.reply (.ok (.transferStatus entry.transfer.status entry.transfer.progress))) := by
    intro ended
    rw [whole]
    exact run_keeps_outcome started.1 during (started.2.1 ended)
  have same : ∀ now, m.service.transfers.entries.get? id = some now →
      now.transfer.jobId = entry.transfer.jobId := by
    intro now still
    cases fate with
    | tracked other held task frozen =>
        obtain rfl := Option.some.inj (held.symm.trans still)
        exact task.jobId
    | dropped status untracked unregistered ended frozen => simp [untracked] at still
  refine ⟨answered, fun outcome later ended => run_keeps_outcome tidy later ended, ?_, ?_⟩
  · rw [← Service.registered_iff, ← fate.tracked_iff coherent, Option.isSome_iff_exists]
    unfold TransferLedger.transfer
    cases m.service.transfers.entries.get? id <;> simp
  intro unanswered
  have live : entry.transfer.status.isTerminal = false := by
    rw [Bool.eq_false_iff]
    intro ended
    exact absurd ((answered ended).symm.trans unanswered) (by simp)
  have waits : m.waiting.get? call = some (.awaiting id budgetMs) := by
    rw [whole] at unanswered ⊢
    exact run_keeps_waiting (started.2.2 live) started.1 during unanswered
  refine ⟨?_, ?_, ?_, ?_⟩
  · intro event notWake notExpire
    have step := m.step_step event
    rcases step.keeps_waiting waits tidy with still | ⟨-, mine⟩
    · exact outcome?_of_waiting (step.preserves_tidy tidy) still
    · rcases mine with wake | expire
      · exact absurd wake notWake
      · exact absurd expire notExpire
  · intro now tracked going
    obtain ⟨current, still, rfl⟩ := TransferLedger.transfer_eq_ok.mp tracked
    have unseen : m.service.transfers.ending? id = none := by
      rw [TransferLedger.ending?_of_tracked orderly.sound still, going]
      rfl
    exact ⟨step_wake_of_live waits unseen, outcome?_expire_of_live waits unseen⟩
  · intro now tracked settled later unanswered
    obtain ⟨current, still, rfl⟩ := TransferLedger.transfer_eq_ok.mp tracked
    have waits' := run_keeps_waiting waits tidy later unanswered
    have fate' := run_fate config _ later still
    have orderly' := run_orderly config
      ((before ++ .call (.request (.waitTransfer id timeoutMs)) :: during) ++ later)
    have coherent' := run_coherent config
      ((before ++ .call (.request (.waitTransfer id timeoutMs)) :: during) ++ later)
    obtain ⟨seen, reply⟩ := statusReply_of_fate orderly' coherent' fate' settled
    rw [run_append] at seen reply
    rw [same current still] at reply
    exact ⟨step_expire_of_ended waits' seen,
      (outcome?_wake_of_ended waits' seen).trans (by rw [reply])⟩
  · intro missing
    have untracked : m.service.transfers.entries.get? id = none := by
      unfold TransferLedger.transfer at missing
      cases row : m.service.transfers.entries.get? id with
      | none => rfl
      | some current => simp [row] at missing
    cases fate with
    | tracked now held task frozen => simp [untracked] at held
    | dropped status gone unregistered ended frozen =>
        refine ⟨step_expire_of_ended waits ended, (outcome?_wake_of_ended waits ended).trans ?_⟩
        rw [Service.statusReply, missing]

/-- A transfer that finishes while it is waited for is reported with its final progress. -/
theorem finished_transfer_is_reported :
    let before : List Event := [
      .call (.request (.registerJob 1 ⟨[]⟩ ⟨[], [], [], none⟩)),
      .call (.request (.transferDatasets ⟨1⟩ [⟨"in"⟩] [⟨"out"⟩] [] .oneToOne))]
    let during : List Event := [
      .call (.request (.transferUpdate ⟨2⟩ .finished ⟨10, some 10, none⟩))]
    let m := (fresh .standard).run
      (before ++ .call (.request (.waitTransfer ⟨2⟩ (some 5000))) :: during)
    (m.step (.wake 2)).outcome? 2 =
      some (.reply (.ok (.transferStatus .finished ⟨10, some 10, none⟩))) := by
  intro before during m
  have answer := wait_is_answered .standard before during ⟨2⟩ (some 5000)
    ⟨⟨2⟩, ⟨1⟩, [⟨"in"⟩], [⟨"out"⟩], [], .oneToOne, 0, .pending, .none⟩ rfl
  have ended := (answer.2.2.2 rfl).2.2.1
    ⟨⟨2⟩, ⟨1⟩, [⟨"in"⟩], [⟨"out"⟩], [], .oneToOne, 0, .finished, ⟨10, some 10, none⟩⟩ rfl rfl [] rfl
  exact ended.2

/-- The removal of a job cancels its transfer, and the waiter of that transfer is woken by it, but
it finds no transfer any more to report on. -/
theorem removal_hides_cancellation :
    let begun := (fresh .standard).run [
      .call (.request (.registerJob 1 ⟨[]⟩ ⟨[], [], [], none⟩)),
      .call (.request (.transferDatasets ⟨1⟩ [⟨"in"⟩] [⟨"out"⟩] [] .oneToOne)),
      .call (.request (.waitTransfer ⟨2⟩ (some 5000)))]
    let removed := begun.step (.call (.request (.removeJob ⟨1⟩)))
    begun.outcome? 2 = none ∧
    begun.service.transfers.ending? ⟨2⟩ = none ∧
    removed.outcome? 3 = some (.reply (.ok (.job ⟨⟨1⟩, 1, ⟨[]⟩, ⟨[], [], [], none⟩⟩))) ∧
    removed.wakeStatus? 2 = some .cancelled ∧
    (removed.step (.wake 2)).outcome? 2 =
      some (.reply (.error (.transfer (.notFound ⟨2⟩)))) ∧
    ∀ progress, (removed.step (.wake 2)).outcome? 2 ≠
      some (.reply (.ok (.transferStatus .cancelled progress))) := by
  intro begun removed
  have answer : (removed.step (.wake 2)).outcome? 2 =
      some (.reply (.error (.transfer (.notFound ⟨2⟩)))) := rfl
  refine ⟨rfl, rfl, rfl, rfl, answer, fun progress claimed => ?_⟩
  exact absurd (answer.symm.trans claimed) (by simp)

end Machine

end StorageBroker
