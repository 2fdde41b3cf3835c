import StorageBroker.Proofs.DataOperation.Effect
import StorageBroker.Proofs.Service.Moved
import StorageBroker.Proofs.Service.Step
import StorageBroker.Proofs.Transfer.Drop

/-! # What a call can do to the service

`Change` lists the ways in which the stores of a service can change together. Running a call, from
its start or on from where it waits, is a sequence of changes, so what every change keeps holds in
every state that a machine reaches. -/

set_option autoImplicit false

namespace StorageBroker

namespace Service

def Registered (s : Service) (job : JobId) : Prop := (s.registry.jobs.get? job).isSome = true

/-- The service without a job and without all that was kept for it. -/
def dropJob (s : Service) (job : JobId) : Service :=
  { s with
    registry := { s.registry with
      jobs := s.registry.jobs.erase job
      adhoc := s.registry.adhoc.mapValues fun _ entry => entry.release job }
    transfers := s.transfers.dropJob job
    limits := (s.limits.purgeJob job).2
    pipeline := (s.pipeline.purgeJob job).2 }

/-- One change of the stores, made by a registry operation that is allowed or by another store.
Transfers and operations are created for registered jobs only, and an operation is tied only to a
live transfer of its own job. -/
inductive Change (allowed : Registry.Operation → Prop) (s : Service) : Service → Prop
  | registry {op : Registry.Operation} {n : Numbered Registry} (may : allowed op)
      (stays : op.removed? = none) (effect : Registry.Effect op ⟨s.ids, s.registry⟩ n) :
      Change allowed s { s with ids := n.ids, registry := n.store }
  | jobRemoved {job : JobId} (registered : s.Registered job) : Change allowed s (s.dropJob job)
  | transfers {owner : Option JobId} {n : Numbered TransferLedger}
      (registered : ∀ job, owner = some job → s.Registered job)
      (effect : TransferLedger.Effect owner ⟨s.ids, s.transfers⟩ n) :
      Change allowed s { s with ids := n.ids, transfers := n.store }
  | operations {owner : Option JobId} {tie : Option (JobId × Link)} {n : Numbered Pipeline}
      (registered : ∀ job, owner = some job → s.Registered job)
      (tied : ∀ job link, tie = some (job, link) →
        ∃ entry, s.transfers.entries.get? link.transfer = some entry ∧
          entry.transfer.jobId = job ∧ entry.transfer.status.isTerminal = false)
      (effect : Pipeline.Effect owner tie ⟨s.ids, s.pipeline⟩ n) :
      Change allowed s { s with ids := n.ids, pipeline := n.store }
  | limitSet {job : JobId} (registered : s.Registered job) (limit : Limit) :
      Change allowed s { s with limits := (s.limits.set limit).2 }
  | limitsRemoved {job : JobId} (registered : s.Registered job) (entity : LimitEntity)
      (limitClass : Option LimitClass) :
      Change allowed s { s with limits := (s.limits.remove entity limitClass).2 }

def Changes (allowed : Registry.Operation → Prop) : Service → Service → Prop :=
  Relation.ReflTransGen (Change allowed)

variable {allowed wider : Registry.Operation → Prop} {s s' s'' : Service}

theorem Change.mono (weaker : ∀ op, allowed op → wider op) (change : Change allowed s s') :
    Change wider s s' := by
  cases change with
  | registry may stays effect => exact .registry (weaker _ may) stays effect
  | jobRemoved registered => exact .jobRemoved registered
  | transfers registered effect => exact .transfers registered effect
  | operations registered tied effect => exact .operations registered tied effect
  | limitSet registered limit => exact .limitSet registered limit
  | limitsRemoved registered entity limitClass => exact .limitsRemoved registered entity limitClass

namespace Changes

theorem refl (s : Service) : Changes allowed s s := Relation.ReflTransGen.refl

theorem of_change (change : Change allowed s s') : Changes allowed s s' :=
  Relation.ReflTransGen.single change

theorem trans (first : Changes allowed s s') (last : Changes allowed s' s'') :
    Changes allowed s s'' :=
  Relation.ReflTransGen.trans first last

theorem mono (weaker : ∀ op, allowed op → wider op) (changes : Changes allowed s s') :
    Changes wider s s' :=
  Relation.ReflTransGen.mono (fun _ _ => Change.mono weaker) _ _ changes

theorem invariant {P : Service → Prop} (kept : ∀ s s', Change allowed s s' → P s → P s')
    (changes : Changes allowed s s') (initial : P s) : P s' := by
  induction changes with
  | refl => exact initial
  | tail _ change ih => exact kept _ _ change ih

end Changes

/-! ## Calls on the stores -/

theorem registered_of_job {s : Service} {job : JobId} {owner : Job}
    (found : s.registry.job job = .ok owner) : s.Registered job := by
  unfold Registry.job at found
  unfold Registered
  cases row : s.registry.jobs.get? job with
  | none => simp [row] at found
  | some other => rfl

/-- An operation of the registry that removes no job is one change. -/
theorem registry_changes (s : Service) (op : Registry.Operation) (may : allowed op)
    (stays : op.removed? = none) : Changes allowed s { s with
      ids := (Registry.apply ⟨s.ids, s.registry⟩ op).2.ids
      registry := (Registry.apply ⟨s.ids, s.registry⟩ op).2.store } :=
  .of_change (.registry may stays (Registry.apply_effect ⟨s.ids, s.registry⟩ op))

theorem ledger_changes (s : Service) {l : TransferLedger}
    (effect : TransferLedger.Effect none ⟨s.ids, s.transfers⟩ ⟨s.ids, l⟩) :
    Changes allowed s { s with transfers := l } :=
  .of_change (.transfers (by simp) effect)

theorem pipeline_changes (s : Service) {p : Pipeline}
    (effect : Pipeline.Effect none none ⟨s.ids, s.pipeline⟩ ⟨s.ids, p⟩) :
    Changes allowed s { s with pipeline := p } :=
  .of_change (.operations (by simp) (by simp) effect)

theorem removeJob_outcome (s : Service) (job : JobId) :
    (s.registry.jobs.get? job = none ∧
      s.removeJob job = (.error (.registry (.jobNotFound job)), s)) ∨
    ∃ removed, s.registry.jobs.get? job = some removed ∧
      s.removeJob job = (.ok removed, s.dropJob job) := by
  unfold removeJob
  rcases s.registry.removeJob_outcome job with ⟨missing, refused⟩ | ⟨removed, found, done⟩
  · exact .inl ⟨missing, by rw [refused]⟩
  · exact .inr ⟨removed, found, by rw [done]; rfl⟩

theorem removeJob_changes (s : Service) (job : JobId) : Changes allowed s (s.removeJob job).2 := by
  rcases s.removeJob_outcome job with ⟨-, refused⟩ | ⟨removed, found, done⟩
  · rw [refused]
    exact .refl s
  · rw [done]
    exact .of_change (.jobRemoved (by simp [Registered, found]))

theorem setLimit_changes (s : Service) (job : JobId) (limit : Limit) :
    Changes allowed s (s.setLimit job limit).2 := by
  unfold setLimit
  cases found : s.registry.job job with
  | error e => exact .refl s
  | ok owner => exact .of_change (.limitSet (registered_of_job found) limit)

theorem removeLimits_changes (s : Service) (job : JobId) (entity : LimitEntity)
    (limitClass : Option LimitClass) :
    Changes allowed s (s.removeLimits job entity limitClass).2 := by
  unfold removeLimits
  cases found : s.registry.job job with
  | error e => exact .refl s
  | ok owner => exact .of_change (.limitsRemoved (registered_of_job found) entity limitClass)

theorem defineOperation_changes (s : Service) (job : JobId) (executable : String)
    (arguments : List Argument) :
    Changes allowed s (s.defineOperation job executable arguments).2 := by
  rw [defineOperation_eq]
  cases found : s.registry.job job with
  | error e => exact .refl s
  | ok owner =>
      have registered : ∀ other, some job = some other → s.Registered other := by
        intro other same
        exact Option.some.inj same ▸ registered_of_job found
      exact .of_change (.operations registered (by simp)
        (Pipeline.define_effect ⟨s.ids, s.pipeline⟩ job executable arguments))

theorem linkTransfer_changes (s : Service) (job : JobId) (operation : OperationId) (link : Link) :
    Changes allowed s (s.linkTransfer job operation link).2 := by
  unfold linkTransfer TransferLedger.transfer
  cases found : s.transfers.entries.get? link.transfer with
  | none => exact .refl s
  | some entry =>
      by_cases stranger : entry.transfer.jobId ≠ job
      · simp only [if_pos stranger]
        exact .refl s
      · by_cases ended : entry.transfer.status.isTerminal = true
        · simp only [if_neg stranger, if_pos ended]
          exact .refl s
        · simp only [if_neg stranger, if_neg ended]
          have tied : ∀ owner tie, some (job, link) = some (owner, tie) →
              ∃ entry, s.transfers.entries.get? tie.transfer = some entry ∧
                entry.transfer.jobId = owner ∧ entry.transfer.status.isTerminal = false := by
            intro owner tie same
            obtain ⟨rfl, rfl⟩ := Prod.mk.inj (Option.some.inj same)
            exact ⟨entry, found, Decidable.not_not.mp stranger, Bool.eq_false_iff.mpr ended⟩
          exact .of_change (.operations (by simp) tied
            (Pipeline.link_effect s.ids s.pipeline job operation link))

/-- A stretch that only moves deployments is a sequence of changes. -/
theorem Changes.of_moved (moved : Moved allowed s s') : Changes allowed s s' := by
  refine moved.invariant (P := Changes allowed s) (fun t op moves may changes => ?_) (.refl s)
  have change := t.registry_changes op may (Registry.Operation.removed?_of_moves moves)
  rw [Registry.apply_ids_of_moves moves] at change
  exact changes.trans change

/-! ## Transfers and finalization -/

theorem startDispatch_changes (s : Service) (job : JobId) (sources targets : List Dataset)
    (limits : List Limit) (mapping : Mapping) :
    Changes allowed s (s.startDispatch job sources targets limits mapping).2 := by
  rw [startDispatch_eq]
  cases found : s.registry.job job with
  | error e => exact .refl s
  | ok owner =>
      have registered : ∀ other, some job = some other → s.Registered other := by
        intro other same
        exact Option.some.inj same ▸ registered_of_job found
      have created : Changes allowed s _ := .of_change (.transfers registered
        (TransferLedger.create_effect ⟨s.ids, s.transfers⟩ job sources targets limits mapping))
      cases result : TransferLedger.create ⟨s.ids, s.transfers⟩ job sources targets limits
          mapping with
      | mk answer n =>
          rw [result] at created
          cases answer <;> exact created

theorem failDispatch_changes (s : Service) (transfer : Transfer) (e : ServiceError) :
    Changes allowed s (s.failDispatch transfer e).2 :=
  s.ledger_changes (TransferLedger.update_effect s.ids s.transfers transfer.id .failed
    ⟨0, none, some e.message⟩)

theorem startAwait_changes (s : Service) (transfer : TransferId) (timeoutMs : Option UInt64) :
    Changes allowed s (s.startAwait transfer timeoutMs).2 := by
  unfold startAwait
  split
  · exact .refl s
  · split <;> exact .refl s

theorem endFinalize_changes (s : Service) (job : JobId) (operation : OperationId)
    (outcome : OperationOutcome) : Changes allowed s (s.endFinalize job operation outcome).2 :=
  s.pipeline_changes (Pipeline.finalize_effect s.ids s.pipeline job operation outcome)

theorem startFinalize_changes (s : Service) (job : JobId) (operation : OperationId) :
    Changes allowed s (s.startFinalize job operation).2 := by
  unfold startFinalize
  split
  · exact .refl s
  · split
    · exact s.endFinalize_changes job operation _
    · split
      · exact s.endFinalize_changes job operation _
      · split
        · exact s.endFinalize_changes job operation _
        · exact .refl s

/-! ## Calls -/

end Service

/-- The registry operations that a request may carry out: deployments move on request only. -/
def Request.may : Request → Registry.Operation → Prop
  | .deployAdhocStorage _, op | .terminateAdhocStorage _, op => op.completes = false
  | _, op => op.moves = false

/-- The registry operations that a call may carry out before it first waits. -/
def Call.may : Call → Registry.Operation → Prop
  | .request asked, op => asked.may op
  | .shutdown, op => op.completes = false

/-- The registry operations that a call may carry out when its wait has ended: only the answer of
a controller completes anything, and a call without a deployment in hand moves none. -/
def Waiting.may : Waiting → Signal → Registry.Operation → Prop
  | .deploying _ _, .answered (.ok _), _ | .tearingDown _ _ _, .answered (.ok _), _ => True
  | .locatingForDeploy _ _, _, op | .deploying _ _, _, op | .locatingForTeardown _ _ _, _, op
  | .tearingDown _ _ _, _, op => op.completes = false
  | .dispatching _ _, _, op | .awaiting _ _, _, op | .finalizing _ _ _, _, op => op.moves = false

namespace Service

theorem startRequest_changes (s : Service) (request : Request) :
    Changes request.may s (s.startRequest request).2 := by
  cases request with
  | registerJob slurmId resources requirements =>
      exact s.registry_changes (.registerJob slurmId resources requirements) rfl rfl
  | updateJob job resources requirements =>
      exact s.registry_changes (.updateJob job resources requirements) rfl rfl
  | removeJob job => exact s.removeJob_changes job
  | registerAdhocStorage name kind context resources =>
      exact s.registry_changes (.registerAdhoc name kind context resources) rfl rfl
  | updateAdhocStorage adhoc context caller =>
      exact s.registry_changes (.updateAdhoc adhoc context caller) rfl rfl
  | removeAdhocStorage adhoc caller => exact s.registry_changes (.removeAdhoc adhoc caller) rfl rfl
  | deployAdhocStorage adhoc => exact .of_moved (s.startDeploy_moved (fun _ same => same) adhoc)
  | terminateAdhocStorage adhoc =>
      exact .of_moved (s.terminate_moved (fun _ same => same) adhoc)
  | bindAdhocStorage adhoc job => exact s.registry_changes (.bind adhoc job) rfl rfl
  | unbindAdhocStorage adhoc => exact s.registry_changes (.unbind adhoc) rfl rfl
  | registerPfsStorage name kind context =>
      exact s.registry_changes (.registerPfs name kind context) rfl rfl
  | updatePfsStorage pfs context => exact s.registry_changes (.updatePfs pfs context) rfl rfl
  | removePfsStorage pfs => exact s.registry_changes (.removePfs pfs) rfl rfl
  | transferDatasets job sources targets limits mapping =>
      exact s.startDispatch_changes job sources targets limits mapping
  | setTransferPriority transfer delta =>
      exact s.ledger_changes (TransferLedger.setPriority_effect s.ids s.transfers transfer delta)
  | cancelTransfer transfer =>
      have cancelled : Changes (Request.may (.cancelTransfer transfer)) s _ := s.ledger_changes
        (TransferLedger.cancel_effect s.ids s.transfers transfer)
      simp only [startRequest, ofLedger]
      cases result : (s.transfers.cancel transfer).1 <;> exact cancelled
  | transferUpdate transfer status progress =>
      have updated : Changes (Request.may (.transferUpdate transfer status progress)) s _ :=
        s.ledger_changes
        (TransferLedger.update_effect s.ids s.transfers transfer status progress)
      simp only [startRequest, ofLedger]
      cases result : (s.transfers.update transfer status progress).1 <;> exact updated
  | waitTransfer transfer timeoutMs => exact s.startAwait_changes transfer timeoutMs
  | setLimit job limit => exact s.setLimit_changes job limit
  | removeLimits job entity limitClass => exact s.removeLimits_changes job entity limitClass
  | defineDataOperation job executable arguments =>
      exact s.defineOperation_changes job executable arguments
  | connectDataOperation job operation connection =>
      exact s.pipeline_changes
        (Pipeline.connect_effect s.ids s.pipeline job operation connection)
  | linkTransfer job operation link => exact s.linkTransfer_changes job operation link
  | finalizeDataOperation job operation => exact s.startFinalize_changes job operation
  | ping | getJob _ | query _ | getAdhocStorage _ | currentClient _ | getPfsStorage _
  | getPendingTransfers _ | getTransferPriority _ | transferStatus _ | getLimits _ _ _
  | getStatistics _ | adhocDeploy _ _ _ _ | adhocTerminate _ _ _
  | startTransfer _ =>
      exact .refl s

theorem start_changes (s : Service) (call : Call) : Changes call.may s (s.start call).2 := by
  cases call with
  | request request => exact s.startRequest_changes request
  | shutdown => exact .of_moved (s.sweep_moved (fun _ same => same) _ 0)

/-- When its wait has ended, a call moves deployments, or marks a transfer as failed that could not
be handed over, or records how an operation has ended. -/
theorem resume_outcome {s : Service} {wait : Waiting} {signal : Signal}
    {r : CallState × Service} (resumed : s.resume wait signal = some r) :
    Moved (wait.may signal) s r.2 ∨
    (∃ transfer e, r.2 = (s.failDispatch transfer e).2) ∨
    ∃ job operation outcome, r.2 = (s.endFinalize job operation outcome).2 := by
  unfold resume at resumed
  -- one case for each line of the definition; the last line is a signal that ends no wait
  split at resumed <;> first
    | obtain rfl := Option.some.inj resumed
    | exact absurd resumed (by simp)
  · exact .inl (.refl s)
  · exact .inl (s.completeDeploy_moved _ _ trivial)
  · exact .inl (s.failDeploy_moved _ _ rfl)
  · exact .inl (s.failDeploy_moved _ _ rfl)
  · exact .inl (s.failDeploy_moved _ _ rfl)
  · exact .inl (s.failDeploy_moved _ _ rfl)
  · exact .inl (.refl s)
  · exact .inl (s.completeTeardown_moved (fun _ _ => trivial) _ _ trivial)
  · exact .inl (s.failTeardown_moved (fun _ same => same) _ _ _)
  · exact .inl (s.failTeardown_moved (fun _ same => same) _ _ _)
  · exact .inl (s.failTeardown_moved (fun _ same => same) _ _ _)
  · exact .inl (s.failTeardown_moved (fun _ same => same) _ _ _)
  · exact .inl (.refl s)
  · exact .inr (.inl ⟨_, _, rfl⟩)
  · exact .inr (.inl ⟨_, _, rfl⟩)
  · exact .inl (.refl s)
  · exact .inl (.refl s)
  · exact .inr (.inr ⟨_, _, _, rfl⟩)
  · exact .inr (.inr ⟨_, _, _, rfl⟩)

theorem resume_changes {s : Service} {wait : Waiting} {signal : Signal}
    {r : CallState × Service} (resumed : s.resume wait signal = some r) :
    Changes (wait.may signal) s r.2 := by
  rcases resume_outcome resumed with
    moved | ⟨transfer, e, failed⟩ | ⟨job, operation, outcome, ended⟩
  · exact .of_moved moved
  · exact failed ▸ s.failDispatch_changes transfer e
  · exact ended ▸ s.endFinalize_changes job operation outcome

theorem Changes.config_eq {allowed : Registry.Operation → Prop} {s s' : Service}
    (changes : Changes allowed s s') : s'.config = s.config := by
  refine changes.invariant (P := fun t => t.config = s.config) (fun t t' change same => ?_) rfl
  cases change <;> exact same

end Service

/-! ## Machines -/

namespace Machine

theorem Step.changes {m m' : Machine} {event : Event} (step : Step m event m') :
    Service.Changes (fun _ => True) m.service m'.service := by
  cases step with
  | started call =>
      rw [settle_service]
      exact (m.service.start_changes call).mono fun _ _ => trivial
  | resumed sent held went =>
      rw [settle_service]
      exact (Service.resume_changes went).mono fun _ _ => trivial
  | idle nothing deaf => exact .refl _

/-- Whatever happens to a machine, its service changes in the ways listed. -/
theorem step_changes (m : Machine) (event : Event) :
    Service.Changes (fun _ => True) m.service (m.step event).service :=
  (m.step_step event).changes

theorem run_changes (m : Machine) (history : List Event) :
    Service.Changes (fun _ => True) m.service (m.run history).service := by
  induction history generalizing m with
  | nil => exact .refl _
  | cons event rest ih => exact (m.step_changes event).trans (ih (m.step event))

end Machine

end StorageBroker
