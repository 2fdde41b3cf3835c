import StorageBroker.Proofs.Service.Dispatch

/-! # How a handover ends

A call for a transfer is answered with the transfer as it was created, or with what went wrong with
its handover. What it says about the transfer may be out of date by then: the transfer may have
moved on, or it may be gone together with its job. -/

set_option autoImplicit false

namespace StorageBroker.Machine

/-! ## The start of the call -/

section

variable {m : Machine} {event : Event} {job : JobId} {owner : Job}
  {sources targets : List Dataset} {limits : List Limit} {mapping : Mapping}
  {transfer : Transfer} {n : Numbered TransferLedger}
  (asks : event = .call (.request (.transferDatasets job sources targets limits mapping)))
  (found : m.service.registry.job job = .ok owner)
  (created : TransferLedger.create ⟨m.service.ids, m.service.transfers⟩ job sources targets limits
    mapping = (.ok transfer, n))
include asks found created

theorem step_of_created :
    m.step event = { m with started := m.started + 1 }.settle m.started
      (match m.service.moverAddress owner with
        | none => .replied (.transfer transfer)
        | some address => .waiting (.dispatching transfer address),
      { m.service with ids := n.ids, transfers := n.store }) := by
  subst asks
  exact congrArg ({ m with started := m.started + 1 }.settle m.started)
    (Service.startDispatch_of_created found created)

theorem tracked_of_created :
    (m.step event).service.transfers.entries.get? transfer.id =
      some ⟨transfer, m.service.transfers.created⟩ := by
  rw [step_of_created asks found created, settle_service]
  exact (TransferLedger.create_ok created).2.2.2

theorem answered_of_no_mover (nobody : m.service.moverAddress owner = none) :
    (m.step event).outcome? m.started = some (.reply (.ok (.transfer transfer))) := by
  rw [step_of_created asks found created, nobody, settle_outcome?, if_pos rfl]
  rfl

theorem waits_of_mover {address : String}
    (mover : m.service.moverAddress owner = some address) :
    (m.step event).waiting.get? m.started = some (.dispatching transfer address) := by
  rw [step_of_created asks found created, mover, settle_waiting, if_pos rfl]
  rfl

/-- The data mover of the job, if there is one, is called at the start of the call. -/
theorem outbound?_of_created (tidy : Tidy m) :
    m.outbound? event = (m.service.moverAddress owner).map fun address =>
      (m.started, .startTransfer address transfer) := by
  have here : m.target event = m.started := by rw [asks, target]
  have unstarted : m.waiting.get? m.started = none := by
    rw [← Option.not_isSome_iff_eq_none]
    exact fun waits => Nat.lt_irrefl _ (tidy.waiting _ waits)
  cases mover : m.service.moverAddress owner with
  | none =>
      refine outbound?_of_still ?_
      rw [here, unstarted, step_of_created asks found created, mover, settle_waiting, if_pos rfl]
      rfl
  | some address =>
      have waits := waits_of_mover asks found created mover
      rw [← here] at waits
      rw [outbound?_of_moved waits (by simp [here, unstarted]), here]
      rfl

end

/-! ## The rest of the call -/

section

variable {config : ServiceConfig} {before during : List Event} {asked : Event} {job : JobId}
  {owner : Job} {sources targets : List Dataset} {limits : List Limit} {mapping : Mapping}
  {transfer : Transfer} {n : Numbered TransferLedger}
  (asks : asked = .call (.request (.transferDatasets job sources targets limits mapping)))
  (found : ((fresh config).run before).service.registry.job job = .ok owner)
  (created : TransferLedger.create ⟨((fresh config).run before).service.ids,
    ((fresh config).run before).service.transfers⟩ job sources targets limits mapping =
      (.ok transfer, n))
include asks found created

theorem fate_of_created (later : List Event) : ∃ order,
    Service.Fate transfer.id ⟨transfer, order⟩
      ((fresh config).run (before ++ asked :: later)).service := by
  have tracked := tracked_of_created asks found created
  have begun : (fresh config).run (before ++ [asked]) = ((fresh config).run before).step asked :=
    run_append_cons _ _ _ _
  rw [← begun] at tracked
  have fate := run_fate config (before ++ [asked]) later tracked
  rw [List.append_assoc] at fate
  exact ⟨_, fate⟩

theorem number_of_created (early : List Event) : transfer.id.raw.toNat ≤
    ((fresh config).run (before ++ asked :: early)).service.ids.issued := by
  obtain ⟨-, number, next, -⟩ := TransferLedger.create_ok created
  have orderly := (((fresh config).run before).step_changes asked).preserve_orderly
    (run_orderly config before)
  have later := issued_le_run orderly early
  have spent : (((fresh config).run before).step asked).service.ids.issued = n.ids.issued := by
    rw [step_of_created asks found created, settle_service]
  rw [run_append_cons]
  omega

/-- The transfer is handed to the data mover of the job when the call starts, and never again. -/
theorem handovers_of_created :
    (fresh config).handovers transfer.id (before ++ asked :: during) =
      (((fresh config).run before).service.moverAddress owner).toList.map fun address =>
        (((fresh config).run before).started, .startTransfer address transfer) := by
  have number : transfer.id.raw.toNat = ((fresh config).run before).service.ids.issued + 1 :=
    (TransferLedger.create_ok created).2.1
  have orderly := run_orderly config before
  have spent := number_of_created asks found created []
  rw [run_append_cons] at spent
  -- a transfer is handed over when its number is drawn, and this event draws it
  have early : (fresh config).handovers transfer.id before = [] :=
    handovers_eq_nil (Service.orderly_fresh config) (.inr (by omega))
  have late : (((fresh config).run before).step asked).handovers transfer.id during = [] :=
    handovers_eq_nil ((step_changes _ asked).preserve_orderly orderly) (.inl spent)
  have now := outbound?_of_created asks found created (run_tidy config before)
  rw [handovers_append, early, List.nil_append]
  unfold handovers at late ⊢
  rw [outbounds, List.filter_append, late, List.append_nil, now]
  cases ((fresh config).run before).service.moverAddress owner with
  | none => rfl
  | some address => simp [Outbound.starts]

/-- A call that has not been answered waits for the data mover. -/
theorem waits_of_unanswered
    (unanswered : ((fresh config).run (before ++ asked :: during)).outcome?
      ((fresh config).run before).started = none) :
    ∃ address, ((fresh config).run before).service.moverAddress owner = some address ∧
      ((fresh config).run (before ++ asked :: during)).waiting.get?
        ((fresh config).run before).started = some (.dispatching transfer address) := by
  have tidy := (((fresh config).run before).step_step asked).preserves_tidy (run_tidy config before)
  rw [run_append_cons] at unanswered ⊢
  cases mover : ((fresh config).run before).service.moverAddress owner with
  | none =>
      have answered := run_keeps_outcome tidy during (answered_of_no_mover asks found created mover)
      exact absurd (answered.symm.trans unanswered) (by simp)
  | some address =>
      have waits := waits_of_mover asks found created mover
      exact ⟨address, rfl, run_keeps_wait tidy waits rfl during unanswered⟩

/-- A call that has been answered was answered at once with the transfer, or by an event for which
it waited. -/
theorem answer_of_answered {outcome : Outcome}
    (answered : ((fresh config).run (before ++ asked :: during)).outcome?
      ((fresh config).run before).started = some outcome) :
    outcome = .reply (.ok (.transfer transfer)) ∨
      ∃ early event late error, during = early ++ event :: late ∧
        outcome = .reply (.error error) ∧
        ((fresh config).run (before ++ asked :: (early ++ [event]))).service =
          (((fresh config).run (before ++ asked :: early)).service.failDispatch transfer error).2 := by
  have tidy := (((fresh config).run before).step_step asked).preserves_tidy (run_tidy config before)
  rw [run_append_cons] at answered
  cases mover : ((fresh config).run before).service.moverAddress owner with
  | none =>
      have kept := run_keeps_outcome tidy during (answered_of_no_mover asks found created mover)
      exact .inl (Option.some.inj (answered.symm.trans kept))
  | some address =>
      have waits := waits_of_mover asks found created mover
      obtain ⟨early, event, late, rfl, waited, now⟩ := exists_answer tidy waits rfl during answered
      have step := ((((fresh config).run before).step asked).run early).step_step event
      have tidy' := run_tidy config (before ++ asked :: early)
      rw [run_append_cons] at tidy'
      rcases step.keeps_dispatching waited tidy' with still | ⟨text, -, done⟩ | ⟨error, -, done⟩
      · have unanswered := outcome?_of_waiting (step.preserves_tidy tidy') still
        exact absurd (unanswered.symm.trans now) (by simp)
      · rw [done, settle_outcome?, if_pos rfl] at now
        exact .inl (Option.some.inj now).symm
      · rw [done, settle_outcome?, if_pos rfl] at now
        refine .inr ⟨early, event, late, error, rfl, (Option.some.inj now).symm, ?_⟩
        rw [run_append_cons, run_append, run_append_cons]
        exact (congrArg Machine.service done).trans (settle_service _ _ _)

end

/-- A call for a transfer whose job is registered and which is created, from its start on,
whatever else happens meanwhile:

* the transfer is created pending;
* it is handed over once, as created and by this call, if the job has a data mover when the call
  starts, and never if it has none; the call is then answered at once;
* until the call is answered, only the data mover or time can answer it, and when the handover
  fails it returns that error: a live transfer is then failed with the text of the error, one that
  has ended stays as it is, and one that is gone stays gone;
* from then on the transfer is not live;
* the transfer is tracked exactly as long as its job is registered. -/
theorem failed_dispatch_ends_transfer (config : ServiceConfig) (before during : List Event)
    (job : JobId) (owner : Job) (sources targets : List Dataset) (limits : List Limit)
    (mapping : Mapping) (mover : Option String) (transfer : Transfer)
    (found : ((fresh config).run before).service.registry.job job = .ok owner)
    (created : (TransferLedger.create ⟨((fresh config).run before).service.ids,
      ((fresh config).run before).service.transfers⟩ job sources targets limits mapping).1 =
        .ok transfer)
    (serves : ((fresh config).run before).service.MoverOf job mover) :
    let start := (fresh config).run before
    let call := start.started
    let asked : Event := .call (.request (.transferDatasets job sources targets limits mapping))
    let m := (fresh config).run (before ++ asked :: during)
    (transfer.status = .pending ∧
      (start.step asked).service.transfers.transfer transfer.id = .ok transfer) ∧
    ((fresh config).handovers transfer.id (before ++ asked :: during) =
      mover.toList.map fun address => (call, .startTransfer address transfer)) ∧
    (mover = none → (start.step asked).outcome? call = some (.reply (.ok (.transfer transfer)))) ∧
    (m.outcome? call = none →
      (∀ event, (∀ result, event ≠ .answer call result) → event ≠ .expire call →
        (m.step event).outcome? call = none) ∧
      (∀ event error, DispatchFails call transfer.id config.dispatchMs event error →
        (m.step event).outcome? call = some (.reply (.error error)) ∧
        (m.step event).service.transfers.transfer transfer.id =
          match m.service.transfers.transfer transfer.id with
          | .ok now => .ok (if now.status.isTerminal then now
              else { now with status := .failed, progress := ⟨0, none, some error.message⟩ })
          | .error e => .error e)) ∧
    (∀ error now, m.outcome? call = some (.reply (.error error)) →
      m.service.transfers.transfer transfer.id = .ok now → now.status.isTerminal = true) ∧
    ((∃ now, m.service.transfers.transfer transfer.id = .ok now) ↔
      ∃ client, m.service.registry.job job = .ok client) := by
  intro start call asked m
  obtain ⟨n, created⟩ : ∃ n, TransferLedger.create ⟨start.service.ids, start.service.transfers⟩ job
      sources targets limits mapping = (.ok transfer, n) := ⟨_, Prod.ext created rfl⟩
  have coherent : start.service.Coherent := run_coherent config before
  have address : start.service.moverAddress owner = mover :=
    Service.moverAddress_eq coherent.linked found serves
  have made := (TransferLedger.create_ok created).1
  obtain ⟨order, fate⟩ := fate_of_created rfl found created during
  have tidy : Tidy m := run_tidy config _
  have sound : m.service.transfers.Sound := (run_orderly config _).sound
  refine ⟨⟨by rw [made], ?_⟩, ?_, ?_, ?_, ?_, ?_⟩
  · exact TransferLedger.transfer_eq_ok.mpr ⟨_, tracked_of_created rfl found created, rfl⟩
  · rw [handovers_of_created rfl found created, address]
  · rintro rfl
    exact answered_of_no_mover rfl found created address
  · intro unanswered
    obtain ⟨place, -, waits⟩ := waits_of_unanswered rfl found created unanswered
    have same : m.service.config = config := (run_changes (fresh config) _).config_eq
    refine ⟨?_, ?_⟩
    · intro event notAnswer notExpire
      have step := m.step_step event
      rcases step.keeps_dispatching waits tidy with still | ⟨text, rfl, -⟩ | ⟨error, fails, -⟩
      · exact outcome?_of_waiting (step.preserves_tidy tidy) still
      · exact absurd rfl (notAnswer _)
      · cases fails with
        | refused e => exact absurd rfl (notAnswer _)
        | unanswered => exact absurd rfl notExpire
    · intro event error fails
      rw [← same] at fails
      rw [step_of_dispatchFails waits fails, settle_outcome?, if_pos rfl, settle_service]
      refine ⟨rfl, (Service.transfer_failDispatch sound _ _).trans ?_⟩
      cases m.service.transfers.transfer transfer.id <;> rfl
  · intro error now failed tracked
    rcases answer_of_answered rfl found created failed with
      accepted | ⟨early, event, late, other, rfl, -, after⟩
    · exact absurd accepted (by simp)
    -- the event that failed the handover left the transfer ended, if there, and it has not come
    -- back or changed since
    · have spent := number_of_created rfl found created (early ++ [event])
      have joined : m = (fresh config).run (before ++ asked :: (early ++ [event]) ++ late) := by
        simp [m]
      have marked : ∀ known,
          ((fresh config).run (before ++ asked :: (early ++ [event]))).service.transfers.transfer
            transfer.id = .ok known → known.status.isTerminal = true := by
        intro known seen
        rw [after] at seen
        exact Service.ended_of_failDispatch (run_orderly config _).sound seen
      rw [joined] at tracked
      exact marked now (run_frozen config _ late spent marked tracked)
  · rw [fate.transfer_iff (run_coherent config _)]
    rw [made]

/-- A transfer that has been started when the dispatch budget runs out is failed all the same. -/
theorem unanswered_dispatch_fails_transfer :
    let config : ServiceConfig := { ServiceConfig.standard with defaultMover := some "mover:1" }
    let before : List Event := [.call (.request (.registerJob 1 ⟨[]⟩ ⟨[], [], [], none⟩))]
    let during : List Event := [
      .call (.request (.transferUpdate ⟨2⟩ .inProgress ⟨10, some 20, none⟩))]
    let m := (fresh config).run (before ++
      .call (.request (.transferDatasets ⟨1⟩ [⟨"in"⟩] [⟨"out"⟩] [] .oneToOne)) :: during)
    let error : ServiceError := .timeout (.dispatch ⟨2⟩) 10000
    (m.step (.expire 1)).outcome? 1 = some (.reply (.error error)) ∧
    (m.step (.expire 1)).service.transfers.transfer ⟨2⟩ =
      .ok ⟨⟨2⟩, ⟨1⟩, [⟨"in"⟩], [⟨"out"⟩], [], .oneToOne, 0, .failed,
        ⟨0, none, some error.message⟩⟩ := by
  intro config before during m error
  have nobody : ∀ adhoc storage, ((fresh config).run before).service.registry.adhocStorage adhoc =
      .ok storage → storage.client = some ⟨1⟩ → storage.context.moverAddress = "" := by
    intro adhoc storage found
    have none : ((fresh config).run before).service.registry.adhocStorage adhoc =
      .error (.adhocNotFound adhoc) := rfl
    exact absurd (none.symm.trans found) (by simp)
  have ends := failed_dispatch_ends_transfer config before during ⟨1⟩
    ⟨⟨1⟩, 1, ⟨[]⟩, ⟨[], [], [], none⟩⟩ [⟨"in"⟩] [⟨"out"⟩] [] .oneToOne (some "mover:1")
    ⟨⟨2⟩, ⟨1⟩, [⟨"in"⟩], [⟨"out"⟩], [], .oneToOne, 0, .pending, .none⟩ rfl rfl (.unnamed nobody)
  obtain ⟨answered, after⟩ := (ends.2.2.2.1 rfl).2 (.expire 1) error .unanswered
  have moving : m.service.transfers.transfer ⟨2⟩ = .ok ⟨⟨2⟩, ⟨1⟩, [⟨"in"⟩], [⟨"out"⟩], [], .oneToOne,
    0, .inProgress, ⟨10, some 20, none⟩⟩ := rfl
  refine ⟨answered, ?_⟩
  rw [after, moving]
  rfl

/-- A call for a transfer of a job that is not registered fails and creates nothing. Otherwise, and
whatever else happens once the transfer is created, the call succeeds only with the transfer as
created, and does so as soon as the data mover accepts, without another look at the service. The
transfer that it names is tracked then exactly if the job is still registered. -/
theorem accepted_transfer_is_answered (config : ServiceConfig) (before during : List Event)
    (job : JobId) (sources targets : List Dataset) (limits : List Limit) (mapping : Mapping) :
    let start := (fresh config).run before
    let call := start.started
    let asked : Event := .call (.request (.transferDatasets job sources targets limits mapping))
    let m := (fresh config).run (before ++ asked :: during)
    (∀ error, start.service.registry.job job = .error error →
      m.outcome? call = some (.reply (.error (.registry error))) ∧
      (start.step asked).service = start.service) ∧
    (∀ owner transfer, start.service.registry.job job = .ok owner →
      (TransferLedger.create ⟨start.service.ids, start.service.transfers⟩ job sources targets limits
        mapping).1 = .ok transfer →
      (∀ reply, m.outcome? call = some (.reply (.ok reply)) → reply = .transfer transfer) ∧
      (m.outcome? call = none → ∀ text,
        (m.step (.answer call (.ok text))).outcome? call =
          some (.reply (.ok (.transfer transfer))) ∧
        (m.step (.answer call (.ok text))).service = m.service) ∧
      ((∃ now, m.service.transfers.transfer transfer.id = .ok now) ↔
        ∃ client, m.service.registry.job job = .ok client)) := by
  intro start call asked m
  refine ⟨?_, ?_⟩
  · intro error missing
    have refused : start.service.startDispatch job sources targets limits mapping =
        (.failed (.registry error), start.service) := by
      rw [Service.startDispatch_eq, missing]
    have begun : start.step asked = { start with started := start.started + 1 }.settle call
        (.failed (.registry error), start.service) :=
      congrArg ({ start with started := start.started + 1 }.settle call) refused
    have answered : (start.step asked).outcome? call =
        some (.reply (.error (.registry error))) := by
      rw [begun, settle_outcome?, if_pos rfl]
      rfl
    have tidy := (start.step_step asked).preserves_tidy (run_tidy config before)
    refine ⟨?_, by rw [begun, settle_service]⟩
    rw [show m = (start.step asked).run during from run_append_cons _ _ _ _]
    exact run_keeps_outcome tidy during answered
  · intro owner transfer found created
    obtain ⟨n, created⟩ : ∃ n, TransferLedger.create ⟨start.service.ids, start.service.transfers⟩
        job sources targets limits mapping = (.ok transfer, n) := ⟨_, Prod.ext created rfl⟩
    have made := (TransferLedger.create_ok created).1
    obtain ⟨order, fate⟩ := fate_of_created rfl found created during
    refine ⟨?_, ?_, ?_⟩
    · intro reply answered
      rcases answer_of_answered rfl found created answered with
        accepted | ⟨early, event, late, error, -, failed, -⟩
      · exact Except.ok.inj (Outcome.reply.inj accepted)
      · exact absurd failed (by simp)
    · intro unanswered text
      obtain ⟨address, -, waits⟩ := waits_of_unanswered rfl found created unanswered
      rw [step_of_accepted waits text, settle_outcome?, if_pos rfl, settle_service]
      exact ⟨rfl, rfl⟩
    · rw [fate.transfer_iff (run_coherent config _)]
      rw [made]

/-- An accepted transfer of a job that stays registered is answered as created and tracked. -/
theorem accepted_transfer_is_tracked :
    let config : ServiceConfig := { ServiceConfig.standard with defaultMover := some "mover:1" }
    let before : List Event := [.call (.request (.registerJob 1 ⟨[]⟩ ⟨[], [], [], none⟩))]
    let m := (fresh config).run (before ++
      [.call (.request (.transferDatasets ⟨1⟩ [⟨"in"⟩] [⟨"out"⟩] [] .oneToOne))])
    let accepted := m.step (.answer 1 (.ok ""))
    accepted.outcome? 1 = some (.reply (.ok (.transfer
      ⟨⟨2⟩, ⟨1⟩, [⟨"in"⟩], [⟨"out"⟩], [], .oneToOne, 0, .pending, .none⟩))) ∧
    ∃ now, accepted.service.transfers.transfer ⟨2⟩ = .ok now := by
  intro config before m accepted
  have answers := (accepted_transfer_is_answered config before [] ⟨1⟩ [⟨"in"⟩] [⟨"out"⟩] []
    .oneToOne).2 ⟨⟨1⟩, 1, ⟨[]⟩, ⟨[], [], [], none⟩⟩
    ⟨⟨2⟩, ⟨1⟩, [⟨"in"⟩], [⟨"out"⟩], [], .oneToOne, 0, .pending, .none⟩ rfl rfl
  obtain ⟨answered, same⟩ := answers.2.1 rfl ""
  refine ⟨answered, ?_⟩
  rw [show accepted.service = m.service from same]
  exact answers.2.2.mpr ⟨_, rfl⟩

/-- The job of a transfer is removed while the data mover makes up its mind; when it accepts, the
call succeeds with a transfer that does not exist any more. -/
theorem removal_outlived_by_answer :
    let waiting := (fresh { ServiceConfig.standard with defaultMover := some "mover:1" }).run [
      .call (.request (.registerJob 1 ⟨[]⟩ ⟨[], [], [], none⟩)),
      .call (.request (.transferDatasets ⟨1⟩ [⟨"in"⟩] [⟨"out"⟩] [] .oneToOne))]
    let removed := waiting.step (.call (.request (.removeJob ⟨1⟩)))
    let accepted := removed.step (.answer 1 (.ok ""))
    let transfer : Transfer :=
      ⟨⟨2⟩, ⟨1⟩, [⟨"in"⟩], [⟨"out"⟩], [], .oneToOne, 0, .pending, .none⟩
    waiting.outcome? 1 = none ∧
    removed.outcome? 2 = some (.reply (.ok (.job ⟨⟨1⟩, 1, ⟨[]⟩, ⟨[], [], [], none⟩⟩))) ∧
    removed.outcome? 1 = none ∧
    accepted.outcome? 1 = some (.reply (.ok (.transfer transfer))) ∧
    accepted.service.registry.job ⟨1⟩ = .error (.jobNotFound ⟨1⟩) ∧
    accepted.service.transfers.transfer ⟨2⟩ = .error (.notFound ⟨2⟩) ∧
    ∀ error : ServiceError, accepted.outcome? 1 ≠ some (.reply (.error error)) := by
  intro waiting removed accepted transfer
  have answer : accepted.outcome? 1 = some (.reply (.ok (.transfer transfer))) := rfl
  refine ⟨rfl, rfl, rfl, answer, rfl, rfl, fun error claimed => ?_⟩
  exact absurd (answer.symm.trans claimed) (by simp)

end StorageBroker.Machine
