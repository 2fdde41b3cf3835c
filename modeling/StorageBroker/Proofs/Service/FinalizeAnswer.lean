import StorageBroker.Proofs.Service.Fate
import StorageBroker.Proofs.Service.Finalize

/-! # What a finalization answers

A call that finalizes an operation is answered at once unless the operation is linked to a live
transfer. Then it waits until the transfer has ended or its time has run out, and comes back to the
operation only after that. -/

set_option autoImplicit false

namespace StorageBroker.Machine

/-- An event answers a call with an error and changes nothing. -/
def Rejects (m : Machine) (event : Event) (call : Nat) (error : ServiceError) : Prop :=
  (m.step event).outcome? call = some (.reply (.error error)) ∧ (m.step event).service = m.service

/-- An event answers a call: with an outcome, which is recorded, if the operation can be finalized,
and with an error if it cannot. -/
def Concludes (m : Machine) (event : Event) (call : Nat) (job : JobId) (id : OperationId)
    (outcome : OperationOutcome) : Prop :=
  match m.service.pipeline.get job id with
  | .error e => m.Rejects event call (.pipeline e)
  | .ok operation =>
    if operation.status.isFinalizable then
      (m.step event).outcome? call = some (.reply (.ok (.outcome outcome))) ∧
      (m.step event).service.pipeline.get job id =
        .ok { operation with status := .finalized, outcome := some outcome }
    else m.Rejects event call (.pipeline (.invalidState id operation.status .finalize))

/-- What can become of a call that waits for a transfer in order to finalize an operation. -/
structure WaitsToFinalize (m : Machine) (call : Nat) (job : JobId) (id : OperationId)
    (transfer : TransferId) : Prop where
  others : ∀ event, event ≠ .wake call → event ≠ .expire call → (m.step event).outcome? call = none
  live : ∀ now, m.service.transfers.transfer transfer = .ok now → now.status.isTerminal = false →
    m.step (.wake call) = m ∧ m.Concludes (.expire call) call job id .failed
  ended : ∀ now, m.service.transfers.transfer transfer = .ok now → now.status.isTerminal = true →
    m.step (.expire call) = m ∧
      m.Concludes (.wake call) call job id (Service.outcomeOf now.status)
  removed : ∀ e, m.service.registry.job job = .error e → m.step (.expire call) = m ∧
    m.Rejects (.wake call) call (.pipeline (.notFound job id))
  recorded : ∀ operation, m.service.pipeline.get job id = .ok operation →
    operation.status.isFinalizable = true ∨ operation.status = .finalized

/-! ## Coming back to the operation -/

section

variable {m : Machine} {event : Event} {call : Nat} {job : JobId} {id : OperationId}

theorem rejects_of_settle {before : Machine} {error : ServiceError}
    (ran : m.step event = before.settle call (.failed error, m.service)) :
    m.Rejects event call error := by
  unfold Rejects
  rw [ran, settle_outcome?, if_pos rfl, settle_service]
  exact ⟨rfl, rfl⟩

theorem concludes_of_settle {before : Machine} {outcome : OperationOutcome}
    (ran : m.step event = before.settle call (m.service.endFinalize job id outcome)) :
    m.Concludes event call job id outcome := by
  unfold Concludes
  cases found : m.service.pipeline.get job id with
  | error e =>
      rw [Service.endFinalize_of_missing found] at ran
      exact rejects_of_settle ran
  | ok operation =>
      cases ready : operation.status.isFinalizable with
      | false =>
          rw [Service.endFinalize_of_unready found ready] at ran
          simp only [ready, Bool.false_eq_true, if_false]
          exact rejects_of_settle ran
      | true =>
          rw [Service.endFinalize_of_ready found ready] at ran
          simp only [ready, if_true]
          rw [ran, settle_outcome?, if_pos rfl, settle_service]
          refine ⟨rfl, ?_⟩
          unfold Pipeline.get
          rw [Table.get?_insert, if_pos rfl]
          exact if_pos (Pipeline.get_ok found).2

theorem Concludes.of_ready {outcome : OperationOutcome} {operation : DataOperation}
    (concludes : m.Concludes event call job id outcome)
    (found : m.service.pipeline.get job id = .ok operation)
    (ready : operation.status.isFinalizable = true) :
    (m.step event).outcome? call = some (.reply (.ok (.outcome outcome))) ∧
      (m.step event).service.pipeline.get job id =
        .ok { operation with status := .finalized, outcome := some outcome } := by
  unfold Concludes at concludes
  rw [found] at concludes
  simpa only [ready, if_true] using concludes

theorem Concludes.outcome_eq {outcome answer : OperationOutcome}
    (concludes : m.Concludes event call job id outcome)
    (answered : (m.step event).outcome? call = some (.reply (.ok (.outcome answer)))) :
    answer = outcome := by
  unfold Concludes at concludes
  cases found : m.service.pipeline.get job id with
  | error e =>
      rw [found] at concludes
      exact absurd (concludes.1.symm.trans answered) (by simp)
  | ok operation =>
      rw [found] at concludes
      cases ready : operation.status.isFinalizable with
      | false =>
          simp only [ready, Bool.false_eq_true, if_false] at concludes
          exact absurd (concludes.1.symm.trans answered) (by simp)
      | true =>
          simp only [ready, if_true] at concludes
          have same := concludes.1.symm.trans answered
          simpa using same.symm

end

/-! ## While the call waits -/

section

variable {m : Machine} {call : Nat} {job : JobId} {id : OperationId} {transfer : TransferId}
  (waits : m.waiting.get? call = some (.finalizing job id transfer))
include waits

theorem concludes_wake {status : TransferStatus}
    (ended : m.service.transfers.ending? transfer = some status) :
    m.Concludes (.wake call) call job id (Service.outcomeOf status) :=
  concludes_of_settle (wake_of_ended waits rfl ended rfl)

theorem concludes_expire (live : m.service.transfers.ending? transfer = none) :
    m.Concludes (.expire call) call job id .failed :=
  concludes_of_settle (expire_of_live waits rfl live rfl)

/-- Only its own wake-up or timeout answers a call that waits to finalize. -/
theorem Step.keeps_finalizing {m' : Machine} {event : Event} (step : Step m event m')
    (tidy : Tidy m) :
    m'.waiting.get? call = some (.finalizing job id transfer) ∨
      (event = .wake call ∧ ∃ status, m.service.transfers.ending? transfer = some status) ∨
      (event = .expire call ∧ m.service.transfers.ending? transfer = none) := by
  rcases step.keeps_wait tidy waits with still | ⟨signal, r, sent, went, rfl⟩
  · exact .inl still
  · have seen : m.wakeStatus? call = m.service.transfers.ending? transfer := by
      rw [wakeStatus?_of_waiting waits]
      rfl
    right
    cases sent with
    | answer result => exact absurd went (by simp [Service.resume])
    | wake ended => exact .inl ⟨rfl, _, seen ▸ ended⟩
    | expire going => exact .inr ⟨rfl, seen ▸ going⟩

end

/-- A call that waits to finalize an operation, once the operation was found at a stage at which it
could be finalized and linked to a transfer of the same job. -/
theorem waitsToFinalize {m : Machine} {call : Nat} {job : JobId} {id : OperationId}
    {transfer : TransferId} (tidy : Tidy m) (orderly : m.service.Orderly)
    (coherent : m.service.Coherent)
    (waits : m.waiting.get? call = some (.finalizing job id transfer)) {entry : LedgerEntry}
    (fate : Service.Fate transfer entry m.service) (mine : entry.transfer.jobId = job)
    {operation : DataOperation} (kept : m.service.OperationFate id operation)
    (owned : operation.jobId = job) (ready : operation.status.isFinalizable = true) :
    m.WaitsToFinalize call job id transfer := by
  subst owned
  refine ⟨?_, ?_, ?_, ?_, ?_⟩
  · intro event notWake notExpire
    have step := m.step_step event
    rcases step.keeps_finalizing waits tidy with still | ⟨rfl, -⟩ | ⟨rfl, -⟩
    · exact outcome?_of_waiting (step.preserves_tidy tidy) still
    · exact absurd rfl notWake
    · exact absurd rfl notExpire
  · intro now tracked going
    obtain ⟨current, still, rfl⟩ := TransferLedger.transfer_eq_ok.mp tracked
    have unseen : m.service.transfers.ending? transfer = none := by
      rw [TransferLedger.ending?_of_tracked orderly.sound still, going]
      rfl
    exact ⟨wake_of_live waits rfl unseen, concludes_expire waits unseen⟩
  · intro now tracked settled
    obtain ⟨current, still, rfl⟩ := TransferLedger.transfer_eq_ok.mp tracked
    have seen : m.service.transfers.ending? transfer = some current.transfer.status := by
      rw [TransferLedger.ending?_of_tracked orderly.sound still, if_pos settled]
    exact ⟨expire_of_ended waits rfl seen, concludes_wake waits seen⟩
  · intro e missing
    rcases kept.get coherent with ⟨now, owner, registered, -⟩ | ⟨-, gone⟩
    · exact absurd (registered.symm.trans missing) (by simp)
    · cases fate with
      | tracked now still task frozen =>
          have registered := coherent.owned _ now still
          rw [task.jobId, mine] at registered
          obtain ⟨owner, found⟩ := Service.registered_iff.mp registered
          exact absurd (found.symm.trans missing) (by simp)
      | dropped status untracked unregistered ended frozen =>
          have ran := wake_of_ended waits rfl ended rfl
          rw [Service.endFinalize_of_missing gone] at ran
          exact ⟨expire_of_ended waits rfl ended, rejects_of_settle ran⟩
  · intro now found
    rcases kept.get coherent with ⟨current, owner, -, known, later⟩ | ⟨-, gone⟩
    · obtain rfl := Except.ok.inj (known.symm.trans found)
      have early := (OperationStatus.isFinalizable_iff.mp ready).1
      rw [OperationStatus.isFinalizable_iff]
      by_cases last : 3 ≤ current.status.stage
      · exact .inr (OperationStatus.eq_finalized last)
      · exact .inl ⟨Nat.le_trans early later.forward, Nat.lt_of_not_le last⟩
    · exact absurd (gone.symm.trans found) (by simp)

theorem outcomeOf_eq_succeeded {status : TransferStatus} :
    Service.outcomeOf status = .succeeded ↔ status = .finished := by
  cases status <;> simp [Service.outcomeOf]

/-- A call that waits, while its transfer is tracked as long as its job is registered, is answered an
outcome only when its transfer has ended or its time runs out. -/
theorem WaitsToFinalize.answer {m : Machine} {event : Event} {call : Nat} {job : JobId}
    {id : OperationId} {transfer : TransferId} (waits : m.WaitsToFinalize call job id transfer)
    (owned : (∃ now, m.service.transfers.transfer transfer = .ok now) ↔
      ∃ owner, m.service.registry.job job = .ok owner)
    (unanswered : m.outcome? call = none) {outcome : OperationOutcome}
    (answered : (m.step event).outcome? call = some (.reply (.ok (.outcome outcome)))) :
    ∃ now, m.service.transfers.transfer transfer = .ok now ∧
      (outcome = .succeeded ↔ now.status = .finished) ∧
      (now.status.isTerminal = true ∨ event = .expire call) := by
  -- an event after which the machine is the same has not answered the call
  have acts : m.step event ≠ m := by
    intro idle
    rw [idle] at answered
    exact absurd (unanswered.symm.trans answered) (by simp)
  have wakes : event = .wake call ∨ event = .expire call := by
    by_contra neither
    obtain ⟨notWake, notExpire⟩ := not_or.mp neither
    exact absurd ((waits.others event notWake notExpire).symm.trans answered) (by simp)
  cases seen : m.service.transfers.transfer transfer with
  | error e =>
      -- the transfer is gone only with its job, and then the call is refused
      cases client : m.service.registry.job job with
      | ok owner =>
          obtain ⟨other, known⟩ := owned.mpr ⟨owner, client⟩
          exact absurd (seen.symm.trans known) (by simp)
      | error missing =>
          obtain ⟨deaf, rejects⟩ := waits.removed missing client
          rcases wakes with rfl | rfl
          · exact absurd (rejects.1.symm.trans answered) (by simp)
          · exact absurd deaf acts
  | ok now =>
      refine ⟨now, rfl, ?_⟩
      cases settled : now.status.isTerminal with
      | true =>
          obtain ⟨deaf, concludes⟩ := waits.ended now seen settled
          rcases wakes with rfl | rfl
          · obtain rfl := concludes.outcome_eq answered
            exact ⟨outcomeOf_eq_succeeded, .inl rfl⟩
          · exact absurd deaf acts
      | false =>
          obtain ⟨deaf, concludes⟩ := waits.live now seen settled
          rcases wakes with rfl | rfl
          · exact absurd deaf acts
          · obtain rfl := concludes.outcome_eq answered
            refine ⟨⟨by simp, ?_⟩, .inr rfl⟩
            intro finished
            simp [finished, TransferStatus.isTerminal] at settled

/-! ## A whole call -/

section

variable {config : ServiceConfig} {before during : List Event} {asked : Event} {job : JobId}
  {id : OperationId} (asks : asked = .call (.request (.finalizeDataOperation job id)))
include asks

theorem step_of_finalize (m : Machine) : m.step asked =
    { m with started := m.started + 1 }.settle m.started (m.service.startFinalize job id) := by
  subst asks
  rfl

variable {operation : DataOperation}
  (found : ((fresh config).run before).service.pipeline.get job id = .ok operation)
  (ready : operation.status.isFinalizable = true) {link : Link}
  (linked : operation.link = some link)
include found linked

omit asks in
theorem tracked_of_linked : ∃ entry,
    ((fresh config).run before).service.transfers.entries.get? link.transfer = some entry ∧
      entry.transfer.jobId = job := by
  obtain ⟨known, rfl⟩ := Pipeline.get_ok found
  exact (run_coherent config before).tied id operation link known linked

include ready

/-- A call for a linked operation is over at once if the transfer has ended, and waits if not. -/
theorem begun_of_linked {entry : LedgerEntry}
    (tracked : ((fresh config).run before).service.transfers.entries.get? link.transfer =
      some entry) :
    (entry.transfer.status.isTerminal = true →
      ((fresh config).run before).Concludes asked ((fresh config).run before).started job id
        (Service.outcomeOf entry.transfer.status)) ∧
    (entry.transfer.status.isTerminal = false →
      (((fresh config).run before).step asked).waiting.get? ((fresh config).run before).started =
        some (.finalizing job id link.transfer)) := by
  have sound := (run_orderly config before).sound
  have ran := step_of_finalize asks ((fresh config).run before)
  rw [Service.startFinalize_of_linked sound found ready linked tracked] at ran
  refine ⟨fun settled => ?_, fun live => ?_⟩
  · rw [if_pos settled] at ran
    exact concludes_of_settle ran
  · rw [if_neg (by simp [live])] at ran
    rw [ran, settle_waiting, if_pos rfl]
    rfl

/-- A call for a linked operation that has not been answered waits for the transfer. -/
theorem waits_of_linked
    (unanswered : ((fresh config).run (before ++ asked :: during)).outcome?
      ((fresh config).run before).started = none) :
    ((fresh config).run (before ++ asked :: during)).WaitsToFinalize
      ((fresh config).run before).started job id link.transfer := by
  have tidy := (((fresh config).run before).step_step asked).preserves_tidy (run_tidy config before)
  obtain ⟨entry, tracked, mine⟩ := tracked_of_linked found linked
  obtain ⟨known, owned⟩ := Pipeline.get_ok found
  obtain ⟨settled, live⟩ := begun_of_linked asks found ready linked tracked
  cases ended : entry.transfer.status.isTerminal with
  | true =>
      have answered := run_keeps_outcome tidy during ((settled ended).of_ready found ready).1
      rw [run_append_cons] at unanswered
      exact absurd (answered.symm.trans unanswered) (by simp)
  | false =>
      have waits := live ended
      rw [run_append_cons] at unanswered
      have waited := run_keeps_wait tidy waits rfl during unanswered
      rw [← run_append_cons] at waited
      exact waitsToFinalize (run_tidy config _) (run_orderly config _) (run_coherent config _) waited
        (run_fate config before _ tracked) mine (run_operationFate config before _ known) owned ready

/-- An outcome of a linked operation goes by the status of its transfer at the time of the answer:
the transfer has ended by then, or the next event is the timeout of the call. -/
theorem transfer_at_answer {outcome : OperationOutcome}
    (answered : ((fresh config).run (before ++ asked :: during)).outcome?
      ((fresh config).run before).started = some (.reply (.ok (.outcome outcome)))) :
    ∃ early late now, during = early ++ late ∧
      ((fresh config).run (before ++ asked :: early)).service.transfers.transfer link.transfer =
        .ok now ∧
      (outcome = .succeeded ↔ now.status = .finished) ∧
      (now.status.isTerminal = true ∨
        ∃ rest, late = .expire ((fresh config).run before).started :: rest) := by
  have tidy := (((fresh config).run before).step_step asked).preserves_tidy (run_tidy config before)
  obtain ⟨entry, tracked, mine⟩ := tracked_of_linked found linked
  obtain ⟨settled, live⟩ := begun_of_linked asks found ready linked tracked
  rw [run_append_cons] at answered
  cases ended : entry.transfer.status.isTerminal with
  | true =>
      have first := run_keeps_outcome tidy during ((settled ended).of_ready found ready).1
      obtain rfl : Service.outcomeOf entry.transfer.status = outcome := by
        simpa using first.symm.trans answered
      have same : ((fresh config).run (before ++ [asked])).service.transfers =
          ((fresh config).run before).service.transfers := by
        rw [run_append_cons, run, List.foldl_nil, step_of_finalize asks, settle_service,
          Service.startFinalize_of_linked (run_orderly config before).sound found ready linked
            tracked, if_pos ended]
        rfl
      refine ⟨[], during, entry.transfer, rfl, ?_, outcomeOf_eq_succeeded, .inl ended⟩
      rw [same]
      exact TransferLedger.transfer_eq_ok.mpr ⟨entry, tracked, rfl⟩
  | false =>
      obtain ⟨early, event, late, rfl, waited, now⟩ :=
        exists_answer tidy (live ended) rfl during answered
      rw [← run_append_cons] at waited now
      have unanswered := outcome?_of_waiting (run_tidy config _) waited
      have waits := waits_of_linked asks found ready linked unanswered
      have iff := (run_fate config before (asked :: early) tracked).transfer_iff
        (run_coherent config _)
      rw [mine] at iff
      obtain ⟨current, seen, succeeds, ends⟩ := waits.answer iff unanswered now
      refine ⟨early, event :: late, current, rfl, seen, succeeds, ?_⟩
      rcases ends with settled | rfl
      · exact .inl settled
      · exact .inr ⟨late, rfl⟩

end

/-- A call that finalizes a data operation, from its start on, whatever else happens meanwhile, other
calls for the same operation included:

* when it answers an outcome, no other call for the operation ever does, and the outcome is on
  record as long as the job is registered;
* an operation that does not exist, is only defined or has been finalized is refused at once;
* an operation without a link succeeds at once, and one whose transfer has ended goes by how it
  ended;
* otherwise the call waits, and what it can come to then is `WaitsToFinalize`;
* an outcome of a linked operation is a success exactly if the transfer had finished when the call
  was answered, be it by the end of the transfer or by the end of its time. -/
theorem finalization_is_single_shot (config : ServiceConfig) (before during : List Event)
    (job : JobId) (id : OperationId) :
    let start := (fresh config).run before
    let call := start.started
    let asked : Event := .call (.request (.finalizeDataOperation job id))
    let m := (fresh config).run (before ++ asked :: during)
    (∀ outcome, m.outcome? call = some (.reply (.ok (.outcome outcome))) →
      (∀ other owner again, (Event.calls (before ++ asked :: during))[other]? =
          some (.request (.finalizeDataOperation owner id)) →
        m.outcome? other = some (.reply (.ok (.outcome again))) → other = call) ∧
      match m.service.registry.job job with
      | .ok _ => ∃ operation, m.service.pipeline.get job id = .ok operation ∧
          operation.status = .finalized ∧ operation.outcome = some outcome
      | .error _ => m.service.pipeline.get job id = .error (.notFound job id)) ∧
    (∀ e, start.service.pipeline.get job id = .error e →
      start.Rejects asked call (.pipeline e)) ∧
    (∀ operation, start.service.pipeline.get job id = .ok operation →
      (operation.status = .defined ∨ operation.status = .finalized → start.Rejects asked call
        (.pipeline (.invalidState id operation.status .finalize))) ∧
      (operation.status = .connected ∨ operation.status = .linked →
        (operation.link = none → start.Concludes asked call job id .succeeded) ∧
        (∀ link, operation.link = some link →
          (∃ transfer, start.service.transfers.transfer link.transfer = .ok transfer ∧
            transfer.jobId = job ∧
            (transfer.status.isTerminal = true →
              start.Concludes asked call job id (Service.outcomeOf transfer.status)) ∧
            (transfer.status.isTerminal = false → (start.step asked).outcome? call = none)) ∧
          (m.outcome? call = none → m.WaitsToFinalize call job id link.transfer) ∧
          (∀ outcome, m.outcome? call = some (.reply (.ok (.outcome outcome))) →
            ∃ early late now, during = early ++ late ∧
              ((fresh config).run (before ++ asked :: early)).service.transfers.transfer
                link.transfer = .ok now ∧
              (outcome = .succeeded ↔ now.status = .finished) ∧
              (now.status.isTerminal = true ∨ ∃ rest, late = .expire call :: rest))))) := by
  intro start call asked m
  have started : start.started = (Event.calls before).length := (run_traced config before).started
  have mine : (Event.calls (before ++ asked :: during))[call]? =
      some (.request (.finalizeDataOperation job id)) := by
    have known : Event.calls (before ++ asked :: during) = Event.calls before ++
        .request (.finalizeDataOperation job id) :: Event.calls during := by
      simp [Event.calls, asked, Event.call?]
    rw [known, List.getElem?_append_right (by omega), show call = _ from started, Nat.sub_self]
    rfl
  have asks : asked = .call (.request (.finalizeDataOperation job id)) := rfl
  have ran := step_of_finalize asks start
  refine ⟨?_, ?_, ?_⟩
  · intro outcome answered
    have shot := run_singleShot config (before ++ asked :: during)
    refine ⟨fun other owner again asked' answered' =>
      shot.single _ _ _ _ _ _ _ mine asked' answered answered', ?_⟩
    exact (shot.concluded _ _ _ _ mine answered).get (run_coherent config _)
  · intro e missing
    rw [Service.startFinalize_of_missing missing] at ran
    exact rejects_of_settle ran
  · intro operation found
    refine ⟨?_, ?_⟩
    · intro early
      have unready : operation.status.isFinalizable = false := by
        rcases early with status | status <;> rw [status] <;> rfl
      rw [Service.startFinalize_of_unready found unready] at ran
      exact rejects_of_settle ran
    · intro staged
      have ready : operation.status.isFinalizable = true := by
        rcases staged with status | status <;> rw [status] <;> rfl
      refine ⟨?_, ?_⟩
      · intro unlinked
        rw [Service.startFinalize_of_unlinked found ready unlinked] at ran
        exact concludes_of_settle ran
      · intro link linked
        obtain ⟨entry, tracked, owned⟩ := tracked_of_linked found linked
        have known := TransferLedger.transfer_eq_ok.mpr ⟨entry, tracked, rfl⟩
        obtain ⟨settled, live⟩ := begun_of_linked asks found ready linked tracked
        have tidy := (start.step_step asked).preserves_tidy (run_tidy config before)
        exact ⟨⟨entry.transfer, known, owned, settled,
            fun going => outcome?_of_waiting tidy (live going)⟩,
          waits_of_linked asks found ready linked,
          fun outcome => transfer_at_answer asks found ready linked⟩

/-- A linked operation whose transfer finishes in time succeeds. -/
theorem finished_transfer_finalizes :
    let before : List Event := [
      .call (.request (.registerJob 1 ⟨[]⟩ ⟨[], [], [], none⟩)),
      .call (.request (.defineDataOperation ⟨1⟩ "sort" [])),
      .call (.request (.connectDataOperation ⟨1⟩ ⟨2⟩ ⟨[], [], false, []⟩)),
      .call (.request (.transferDatasets ⟨1⟩ [⟨"in"⟩] [⟨"out"⟩] [] .oneToOne)),
      .call (.request (.linkTransfer ⟨1⟩ ⟨2⟩ ⟨⟨3⟩, false, []⟩))]
    let during : List Event := [
      .call (.request (.transferUpdate ⟨3⟩ .finished ⟨10, some 10, none⟩))]
    let m := (fresh .standard).run
      (before ++ .call (.request (.finalizeDataOperation ⟨1⟩ ⟨2⟩)) :: during)
    m.step (.expire 5) = m ∧
    (m.step (.wake 5)).outcome? 5 = some (.reply (.ok (.outcome .succeeded))) := by
  intro before during m
  let operation : DataOperation := ⟨⟨2⟩, ⟨1⟩, "sort", [], .linked, some ⟨[], [], false, []⟩,
    some ⟨⟨3⟩, false, []⟩, none⟩
  let finished : Transfer := ⟨⟨3⟩, ⟨1⟩, [⟨"in"⟩], [⟨"out"⟩], [], .oneToOne, 0, .finished,
    ⟨10, some 10, none⟩⟩
  have whole := finalization_is_single_shot .standard before during ⟨1⟩ ⟨2⟩
  have waits := (((whole.2.2 operation rfl).2 (.inr rfl)).2 ⟨⟨3⟩, false, []⟩ rfl).2.1 rfl
  obtain ⟨deaf, concludes⟩ := waits.ended finished rfl rfl
  have ready : m.service.pipeline.get ⟨1⟩ ⟨2⟩ = .ok operation := rfl
  exact ⟨deaf, (concludes.of_ready ready rfl).1⟩

end StorageBroker.Machine
