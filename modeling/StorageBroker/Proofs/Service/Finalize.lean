import Mathlib.Data.List.Induction
import StorageBroker.Proofs.DataOperation.Finalizable
import StorageBroker.Proofs.Service.OperationFate
import StorageBroker.Proofs.Service.Origin
import StorageBroker.Proofs.Service.Wait

/-! # Finalization happens once

Any number of calls may try to finalize one operation, and each may wait for the transfer that the
operation is linked to. Whoever comes to the operation first while it can be finalized records an
outcome; all others find it finalized, or gone with its job. -/

set_option autoImplicit false

namespace StorageBroker

namespace Service

variable {s s' : Service} {job : JobId} {id : OperationId} {outcome : OperationOutcome}

/-! ## Recording an outcome -/

/-- An operation that could be finalized has been, with this outcome. -/
def Finalizes (s s' : Service) (job : JobId) (id : OperationId) (outcome : OperationOutcome) :
    Prop :=
  ∃ operation, s.pipeline.get job id = .ok operation ∧
    operation.status.isFinalizable = true ∧
    s'.pipeline.operations.get? id =
      some { operation with status := .finalized, outcome := some outcome }

theorem endFinalize_of_missing {e : PipelineError} (missing : s.pipeline.get job id = .error e)
    (outcome : OperationOutcome) :
    s.endFinalize job id outcome = (.failed (.pipeline e), s) := by
  simp only [endFinalize, Pipeline.finalize, missing]
  rfl

theorem endFinalize_of_unready {operation : DataOperation}
    (found : s.pipeline.get job id = .ok operation)
    (unready : operation.status.isFinalizable = false) (outcome : OperationOutcome) :
    s.endFinalize job id outcome =
      (.failed (.pipeline (.invalidState id operation.status .finalize)), s) := by
  simp only [endFinalize, Pipeline.finalize, found, unready]
  rfl

theorem endFinalize_of_ready {operation : DataOperation}
    (found : s.pipeline.get job id = .ok operation)
    (ready : operation.status.isFinalizable = true) (outcome : OperationOutcome) :
    s.endFinalize job id outcome = (.replied (.outcome outcome), { s with
      pipeline := ⟨s.pipeline.operations.insert id
        { operation with status := .finalized, outcome := some outcome }⟩ }) := by
  simp only [endFinalize, Pipeline.finalize, found, if_pos ready]
  rfl

/-- An outcome is answered only by the call that records it. -/
theorem finalizes_of_endFinalize {tried : OperationOutcome}
    (answered : (s.endFinalize job id tried).1 = .finished (.reply (.ok (.outcome outcome)))) :
    outcome = tried ∧ s.Finalizes (s.endFinalize job id tried).2 job id outcome := by
  cases found : s.pipeline.get job id with
  | error e =>
      rw [endFinalize_of_missing found] at answered
      simp [CallState.failed, CallState.ofResult] at answered
  | ok operation =>
      cases ready : operation.status.isFinalizable with
      | false =>
          rw [endFinalize_of_unready found ready] at answered
          simp [CallState.failed, CallState.ofResult] at answered
      | true =>
          rw [endFinalize_of_ready found ready] at answered ⊢
          obtain rfl : tried = outcome := by
            simpa [CallState.replied, CallState.ofResult] using answered
          exact ⟨rfl, operation, found, ready, by rw [Table.get?_insert, if_pos rfl]⟩

/-! ## The start of a finalization -/

theorem startFinalize_of_missing {e : PipelineError}
    (missing : s.pipeline.get job id = .error e) :
    s.startFinalize job id = (.failed (.pipeline e), s) := by
  simp only [startFinalize, Pipeline.finalizable, missing]

theorem startFinalize_of_unready {operation : DataOperation}
    (found : s.pipeline.get job id = .ok operation)
    (unready : operation.status.isFinalizable = false) :
    s.startFinalize job id =
      (.failed (.pipeline (.invalidState id operation.status .finalize)), s) := by
  simp only [startFinalize, Pipeline.finalizable_of_unready found unready]

theorem startFinalize_of_unlinked {operation : DataOperation}
    (found : s.pipeline.get job id = .ok operation)
    (ready : operation.status.isFinalizable = true) (unlinked : operation.link = none) :
    s.startFinalize job id = s.endFinalize job id .succeeded := by
  simp only [startFinalize, Pipeline.finalizable_of_ready found ready, unlinked]

/-- A linked operation waits for its transfer, unless that has ended. -/
theorem startFinalize_of_linked (sound : s.transfers.Sound) {operation : DataOperation}
    (found : s.pipeline.get job id = .ok operation)
    (ready : operation.status.isFinalizable = true) {link : Link}
    (linked : operation.link = some link) {entry : LedgerEntry}
    (tracked : s.transfers.entries.get? link.transfer = some entry) :
    s.startFinalize job id =
      if entry.transfer.status.isTerminal then
        s.endFinalize job id (outcomeOf entry.transfer.status)
      else (.waiting (.finalizing job id link.transfer), s) := by
  simp only [startFinalize, Pipeline.finalizable_of_ready found ready, linked,
    TransferLedger.watch, tracked, TransferLedger.ending?_of_tracked sound tracked]
  cases entry.transfer.status.isTerminal <;> rfl

theorem finalizes_of_start
    (answered : (s.start (.request (.finalizeDataOperation job id))).1 =
      .finished (.reply (.ok (.outcome outcome)))) :
    s.Finalizes (s.start (.request (.finalizeDataOperation job id))).2 job id outcome := by
  simp only [start, startRequest] at answered ⊢
  unfold startFinalize at answered ⊢
  split at answered
  · simp [CallState.failed, CallState.ofResult] at answered
  · split at answered
    · exact (finalizes_of_endFinalize answered).2
    · split at answered
      · exact (finalizes_of_endFinalize answered).2
      · split at answered
        · exact (finalizes_of_endFinalize answered).2
        · exact absurd answered (by simp)

theorem finalizes_of_resume {transfer : TransferId} {signal : Signal} {r : CallState × Service}
    (resumed : s.resume (.finalizing job id transfer) signal = some r)
    (answered : r.1 = .finished (.reply (.ok (.outcome outcome)))) :
    s.Finalizes r.2 job id outcome := by
  cases signal with
  | answered result => exact absurd resumed (by simp [resume])
  | ended status =>
      obtain rfl := Option.some.inj resumed
      exact (finalizes_of_endFinalize answered).2
  | expired =>
      obtain rfl := Option.some.inj resumed
      exact (finalizes_of_endFinalize answered).2

/-! ## What stays of an outcome -/

/-- An operation has been finalized with this outcome; it is on record like that until it is dropped
with its job. -/
structure Concluded (s : Service) (job : JobId) (id : OperationId) (outcome : OperationOutcome) :
    Prop where
  number : id.raw.toNat ≤ s.ids.issued
  spent : job.raw.toNat ≤ s.ids.issued
  fate : ∃ operation : DataOperation, operation.jobId = job ∧ operation.status = .finalized ∧
    operation.outcome = some outcome ∧ s.OperationFate id operation

theorem Finalizes.concluded (finalizes : s.Finalizes s' job id outcome) (orderly : s'.Orderly)
    (coherent : s'.Coherent) : s'.Concluded job id outcome := by
  obtain ⟨operation, found, -, now⟩ := finalizes
  have mine := (Pipeline.get_ok found).2
  have owned := coherent.operated id _ now
  exact ⟨orderly.operations id (by simp [now]), mine ▸ orderly.registry.jobs _ owned,
    { operation with status := .finalized, outcome := some outcome }, mine, rfl, rfl,
    .recorded _ now (.refl _)⟩

theorem Concluded.changes {allowed : Registry.Operation → Prop}
    (concluded : s.Concluded job id outcome) (changes : Changes allowed s s')
    (orderly : s.Orderly) : s'.Concluded job id outcome := by
  obtain ⟨number, spent, operation, rfl, final, ended, fate⟩ := concluded
  have later := (changes.draws orderly).registry.later
  exact ⟨Nat.le_trans number later, Nat.le_trans spent later, operation, rfl, final, ended,
    fate.changes changes orderly number spent⟩

theorem Concluded.not_finalizes (concluded : s.Concluded job id outcome) {owner : JobId}
    {again : OperationOutcome} : ¬ s.Finalizes s' owner id again := by
  rintro ⟨operation, found, ready, -⟩
  obtain ⟨-, -, before, -, final, -, fate⟩ := concluded
  have tracked := (Pipeline.get_ok found).1
  cases fate with
  | recorded now known later =>
      obtain rfl := Option.some.inj (known.symm.trans tracked)
      rw [later.frozen final, final] at ready
      exact absurd ready (by simp [OperationStatus.isFinalizable])
  | dropped gone unregistered => exact absurd (gone.symm.trans tracked) (by simp)

theorem Concluded.get (concluded : s.Concluded job id outcome) (coherent : s.Coherent) :
    match s.registry.job job with
    | .ok _ => ∃ operation, s.pipeline.get job id = .ok operation ∧
        operation.status = .finalized ∧ operation.outcome = some outcome
    | .error _ => s.pipeline.get job id = .error (.notFound job id) := by
  obtain ⟨-, -, operation, rfl, final, ended, fate⟩ := concluded
  rcases fate.get coherent with ⟨now, owner, registered, found, later⟩ | ⟨unregistered, missing⟩
  · obtain rfl := later.frozen final
    rw [registered]
    exact ⟨now, found, final, ended⟩
  · rw [unregistered]
    exact missing

end Service

/-! ## One outcome for each operation -/

theorem Waiting.finalizing_of {wait : Waiting} {job : JobId} {id : OperationId}
    (asked : wait.Of (.request (.finalizeDataOperation job id))) :
    ∃ transfer, wait = .finalizing job id transfer := by
  cases wait with
  | finalizing owner operation transfer =>
      obtain ⟨rfl, rfl⟩ : job = owner ∧ id = operation := by simpa [Of] using asked
      exact ⟨transfer, rfl⟩
  | locatingForTeardown plan hostname origin | tearingDown plan address origin =>
      cases origin <;> simp [Of, TeardownOrigin.Of] at asked
  | locatingForDeploy plan hostname | deploying plan address | dispatching transfer address
  | awaiting transfer budgetMs => simp [Of] at asked

namespace Machine

/-- An outcome that a call has after an event is the one that it had before, or the event has made
this call record it and has answered no other call. -/
theorem Step.finalizes {m m' : Machine} {event : Event} {calls : List Call}
    (step : Step m event m') (tidy : Tidy m) (traced : Traced calls m) {call : Nat} {job : JobId}
    {id : OperationId} {outcome : OperationOutcome}
    (asked : (calls ++ event.call?.toList)[call]? =
      some (.request (.finalizeDataOperation job id)))
    (answered : m'.outcome? call = some (.reply (.ok (.outcome outcome)))) :
    m.outcome? call = some (.reply (.ok (.outcome outcome))) ∨
      (m.service.Finalizes m'.service job id outcome ∧
        ∀ other, other ≠ call → m'.outcome? other = m.outcome? other) := by
  cases step with
  | started begun =>
      by_cases same : call = m.started
      · subst same
        obtain rfl : begun = .request (.finalizeDataOperation job id) := by
          simpa [traced.started, Event.call?] using asked
        have unanswered : Machine.outcome? { m with started := m.started + 1 } m.started = none :=
          outcome?_of_unstarted tidy
        have done := finished_of_settle unanswered answered
        refine .inr ⟨?_, fun other apart => by rw [settle_outcome?, if_neg apart]; rfl⟩
        rw [settle_service]
        exact Service.finalizes_of_start done
      · rw [settle_outcome?, if_neg same] at answered
        exact .inl answered
  | @resumed _ sender wait signal r sent held went =>
      have nothing : event.call? = none := by cases sent <;> rfl
      by_cases same : call = sender
      · subst same
        obtain ⟨source, known, mine⟩ := traced.waits call wait held
        rw [nothing, Option.toList_none, List.append_nil, known] at asked
        obtain rfl := Option.some.inj asked
        obtain ⟨transfer, rfl⟩ := Waiting.finalizing_of mine
        have done := finished_of_settle (outcome?_of_waiting tidy held) answered
        refine .inr ⟨?_, fun other apart => by rw [settle_outcome?, if_neg apart]⟩
        rw [settle_service]
        exact Service.finalizes_of_resume went done
      · rw [settle_outcome?, if_neg same] at answered
        exact .inl answered
  | idle nothing deaf => exact .inl answered

/-- Outcomes that calls have been answered are on record, and no two calls have been answered one
for the same operation. -/
structure SingleShot (calls : List Call) (m : Machine) : Prop where
  concluded : ∀ call job id outcome,
    calls[call]? = some (.request (.finalizeDataOperation job id)) →
    m.outcome? call = some (.reply (.ok (.outcome outcome))) → m.service.Concluded job id outcome
  single : ∀ call other job owner id outcome again,
    calls[call]? = some (.request (.finalizeDataOperation job id)) →
    calls[other]? = some (.request (.finalizeDataOperation owner id)) →
    m.outcome? call = some (.reply (.ok (.outcome outcome))) →
    m.outcome? other = some (.reply (.ok (.outcome again))) → other = call

theorem Step.preserves_singleShot {m m' : Machine} {event : Event} {calls : List Call}
    (step : Step m event m') (tidy : Tidy m) (traced : Traced calls m)
    (orderly : m.service.Orderly) (coherent : m'.service.Coherent)
    (shot : SingleShot calls m) : SingleShot (calls ++ event.call?.toList) m' := by
  have orderly' := step.changes.preserve_orderly orderly
  -- a call that had been answered is one of the calls before the event
  have earlier : ∀ {call : Nat} {outcome : Outcome}, m.outcome? call = some outcome →
      (calls ++ event.call?.toList)[call]? = calls[call]? := by
    intro call outcome ended
    have started := tidy.finished call (by simp [ended])
    rw [traced.started] at started
    exact List.getElem?_append_left started
  refine ⟨?_, ?_⟩
  · intro call job id outcome asked answered
    rcases step.finalizes tidy traced asked answered with before | ⟨finalizes, -⟩
    · rw [earlier before] at asked
      exact (shot.concluded call job id outcome asked before).changes step.changes orderly
    · exact finalizes.concluded orderly' coherent
  · intro call other job owner id outcome again asked asked' answered answered'
    by_cases same : other = call
    · exact same
    -- at most one of the two has been answered by this event, and not after the other
    rcases step.finalizes tidy traced asked answered with before | ⟨finalizes, still⟩
    · rcases step.finalizes tidy traced asked' answered' with before' | ⟨finalizes, still⟩
      · rw [earlier before] at asked
        rw [earlier before'] at asked'
        exact shot.single call other job owner id outcome again asked asked' before before'
      · rw [earlier before] at asked
        exact absurd finalizes (shot.concluded call job id outcome asked before).not_finalizes
    · have before' := (still other same).symm.trans answered'
      rw [earlier before'] at asked'
      exact absurd finalizes (shot.concluded other owner id again asked' before').not_finalizes

theorem run_singleShot (config : ServiceConfig) (history : List Event) :
    SingleShot (Event.calls history) ((fresh config).run history) := by
  induction history using List.reverseRecOn with
  | nil => exact ⟨by simp [Event.calls], by simp [Event.calls]⟩
  | append_singleton before event ih =>
      have step := ((fresh config).run before).step_step event
      have last : (fresh config).run (before ++ [event]) = ((fresh config).run before).step event :=
        run_append_cons _ _ _ _
      have coherent := run_coherent config (before ++ [event])
      have calls : Event.calls (before ++ [event]) = Event.calls before ++ event.call?.toList := by
        simp only [Event.calls, List.filterMap_append, List.filterMap_cons, List.filterMap_nil]
        cases event.call? <;> rfl
      rw [last] at coherent ⊢
      rw [calls]
      exact step.preserves_singleShot (run_tidy config before) (run_traced config before)
        (run_orderly config before) coherent ih

end Machine

end StorageBroker
