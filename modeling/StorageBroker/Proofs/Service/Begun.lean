import StorageBroker.Proofs.Registry.Entry
import StorageBroker.Proofs.Service.References

/-! # What a call does at once

Most calls only move deployments, transfers and operations along. They are steady: no number is
drawn, no limit changes, and what is registered stays so. Anything else happens before the call
first waits, and `Begun` lists it together with the requests that ask for it. -/

set_option autoImplicit false

namespace StorageBroker

namespace Service

/-! ## Steady stretches of a call -/

/-- Two services that differ in how far deployments, transfers and operations have got. -/
structure Steady (s s' : Service) : Prop where
  ids : s'.ids = s.ids
  limits : s'.limits = s.limits
  jobs : s'.registry.jobs = s.registry.jobs
  adhoc : ∀ id, (s.registry.adhoc.get? id).isSome → (s'.registry.adhoc.get? id).isSome

namespace Steady

variable {s s' s'' : Service}

theorem refl (s : Service) : Steady s s := ⟨rfl, rfl, rfl, fun _ present => present⟩

theorem trans (first : Steady s s') (last : Steady s' s'') : Steady s s'' where
  ids := last.ids.trans first.ids
  limits := last.limits.trans first.limits
  jobs := last.jobs.trans first.jobs
  adhoc id present := last.adhoc id (first.adhoc id present)

theorem of_transfers (s : Service) (l : TransferLedger) : Steady s { s with transfers := l } :=
  ⟨rfl, rfl, rfl, fun _ present => present⟩

theorem of_pipeline (s : Service) (p : Pipeline) : Steady s { s with pipeline := p } :=
  ⟨rfl, rfl, rfl, fun _ present => present⟩

/-- An operation of deployment writes a storage back at most. -/
theorem of_moved {allowed : Registry.Operation → Prop} (moved : Moved allowed s s') :
    Steady s s' := by
  refine moved.invariant (P := Steady s) (fun t op moves _ steady => steady.trans ?_) (refl s)
  rcases Registry.apply_of_moves moves ⟨t.ids, t.registry⟩ with
    same | ⟨id, entry, deployment, found, set⟩
  · rw [same]
    exact refl t
  · rw [set]
    refine ⟨rfl, rfl, rfl, fun x present => ?_⟩
    simp only [Registry.setDeployment, Table.get?_insert]
    by_cases here : x = id
    · rw [if_pos here]
      rfl
    · rw [if_neg here]
      exact present

end Steady

theorem endFinalize_steady (s : Service) (job : JobId) (operation : OperationId)
    (outcome : OperationOutcome) : Steady s (s.endFinalize job operation outcome).2 :=
  .of_pipeline s _

theorem startFinalize_steady (s : Service) (job : JobId) (operation : OperationId) :
    Steady s (s.startFinalize job operation).2 := by
  unfold startFinalize
  split
  · exact .refl s
  · split
    · exact s.endFinalize_steady job operation _
    · split
      · exact s.endFinalize_steady job operation _
      · split
        · exact s.endFinalize_steady job operation _
        · exact .refl s

theorem startAwait_steady (s : Service) (transfer : TransferId) (timeoutMs : Option UInt64) :
    Steady s (s.startAwait transfer timeoutMs).2 := by
  unfold startAwait
  split
  · exact .refl s
  · split <;> exact .refl s

theorem linkTransfer_steady (s : Service) (job : JobId) (operation : OperationId) (link : Link) :
    Steady s (s.linkTransfer job operation link).2 := by
  unfold linkTransfer
  split
  · exact .refl s
  · split
    · exact .refl s
    · split
      · exact .refl s
      · exact .of_pipeline s _

theorem resume_steady {s : Service} {wait : Waiting} {signal : Signal} {r : CallState × Service}
    (resumed : s.resume wait signal = some r) : Steady s r.2 := by
  rcases resume_outcome resumed with
    moved | ⟨transfer, e, failed⟩ | ⟨job, operation, outcome, ended⟩
  · exact .of_moved moved
  · exact failed ▸ .of_transfers s _
  · exact ended ▸ s.endFinalize_steady job operation outcome

end Service

/-! ## Before the first wait -/

/-- The operation that a request asks of the registry to change what is registered. Removing a job
is more than that, so it is not among them. -/
def Request.operation? : Request → Option Registry.Operation
  | .registerJob slurmId resources requirements =>
    some (.registerJob slurmId resources requirements)
  | .updateJob job resources requirements => some (.updateJob job resources requirements)
  | .registerAdhocStorage name kind context resources =>
    some (.registerAdhoc name kind context resources)
  | .updateAdhocStorage adhoc context caller => some (.updateAdhoc adhoc context caller)
  | .removeAdhocStorage adhoc caller => some (.removeAdhoc adhoc caller)
  | .bindAdhocStorage adhoc job => some (.bind adhoc job)
  | .unbindAdhocStorage adhoc => some (.unbind adhoc)
  | .registerPfsStorage name kind context => some (.registerPfs name kind context)
  | .updatePfsStorage pfs context => some (.updatePfs pfs context)
  | .removePfsStorage pfs => some (.removePfs pfs)
  | _ => none

namespace Service

/-- What a call can make of a service before it first waits. -/
inductive Begun (s : Service) : Call → Service → Prop
  | steady {call : Call} {s' : Service} (steady : Steady s s') : Begun s call s'
  | operation {request : Request} (op : Registry.Operation)
      (asked : request.operation? = some op) :
      Begun s (.request request) { s with
        ids := (Registry.apply ⟨s.ids, s.registry⟩ op).2.ids
        registry := (Registry.apply ⟨s.ids, s.registry⟩ op).2.store }
  | jobRemoved {job : JobId} (registered : s.Registered job) :
      Begun s (.request (.removeJob job)) (s.dropJob job)
  | transferCreated {job : JobId} (registered : s.Registered job) (sources targets : List Dataset)
      (limits : List Limit) (mapping : Mapping) :
      Begun s (.request (.transferDatasets job sources targets limits mapping)) { s with
        ids := (TransferLedger.create ⟨s.ids, s.transfers⟩ job sources targets limits mapping).2.ids
        transfers :=
          (TransferLedger.create ⟨s.ids, s.transfers⟩ job sources targets limits mapping).2.store }
  | operationDefined {job : JobId} (registered : s.Registered job) (executable : String)
      (arguments : List Argument) :
      Begun s (.request (.defineDataOperation job executable arguments)) { s with
        ids := (Pipeline.define ⟨s.ids, s.pipeline⟩ job executable arguments).2.ids
        pipeline := (Pipeline.define ⟨s.ids, s.pipeline⟩ job executable arguments).2.store }
  | limitSet {job : JobId} (registered : s.Registered job) (limit : Limit) :
      Begun s (.request (.setLimit job limit)) { s with limits := (s.limits.set limit).2 }
  | limitsRemoved {job : JobId} (registered : s.Registered job) (entity : LimitEntity)
      (limitClass : Option LimitClass) :
      Begun s (.request (.removeLimits job entity limitClass))
        { s with limits := (s.limits.remove entity limitClass).2 }

theorem removeJob_begun (s : Service) (job : JobId) :
    Begun s (.request (.removeJob job)) (s.removeJob job).2 := by
  rcases s.removeJob_outcome job with ⟨-, refused⟩ | ⟨removed, found, done⟩
  · rw [refused]
    exact .steady (.refl s)
  · rw [done]
    exact .jobRemoved (by simp [Registered, found])

theorem startDispatch_begun (s : Service) (job : JobId) (sources targets : List Dataset)
    (limits : List Limit) (mapping : Mapping) :
    Begun s (.request (.transferDatasets job sources targets limits mapping))
      (s.startDispatch job sources targets limits mapping).2 := by
  rw [startDispatch_eq]
  cases found : s.registry.job job with
  | error e => exact .steady (.refl s)
  | ok owner =>
      have created := Begun.transferCreated (registered_of_job found) sources targets limits mapping
      cases result : TransferLedger.create ⟨s.ids, s.transfers⟩ job sources targets limits
          mapping with
      | mk answer n =>
          rw [result] at created
          cases answer <;> exact created

theorem defineOperation_begun (s : Service) (job : JobId) (executable : String)
    (arguments : List Argument) :
    Begun s (.request (.defineDataOperation job executable arguments))
      (s.defineOperation job executable arguments).2 := by
  rw [defineOperation_eq]
  cases found : s.registry.job job with
  | error e => exact .steady (.refl s)
  | ok owner => exact .operationDefined (registered_of_job found) executable arguments

theorem setLimit_begun (s : Service) (job : JobId) (limit : Limit) :
    Begun s (.request (.setLimit job limit)) (s.setLimit job limit).2 := by
  unfold setLimit
  cases found : s.registry.job job with
  | error e => exact .steady (.refl s)
  | ok owner => exact .limitSet (registered_of_job found) limit

theorem removeLimits_begun (s : Service) (job : JobId) (entity : LimitEntity)
    (limitClass : Option LimitClass) :
    Begun s (.request (.removeLimits job entity limitClass))
      (s.removeLimits job entity limitClass).2 := by
  unfold removeLimits
  cases found : s.registry.job job with
  | error e => exact .steady (.refl s)
  | ok owner => exact .limitsRemoved (registered_of_job found) entity limitClass

theorem startRequest_begun (s : Service) (request : Request) :
    Begun s (.request request) (s.startRequest request).2 := by
  cases request with
  | registerJob slurmId resources requirements =>
      exact .operation (.registerJob slurmId resources requirements) rfl
  | updateJob job resources requirements =>
      exact .operation (.updateJob job resources requirements) rfl
  | removeJob job => exact s.removeJob_begun job
  | registerAdhocStorage name kind context resources =>
      exact .operation (.registerAdhoc name kind context resources) rfl
  | updateAdhocStorage adhoc context caller =>
      exact .operation (.updateAdhoc adhoc context caller) rfl
  | removeAdhocStorage adhoc caller => exact .operation (.removeAdhoc adhoc caller) rfl
  | deployAdhocStorage adhoc =>
      exact .steady (.of_moved (s.startDeploy_moved (fun _ same => same) adhoc))
  | terminateAdhocStorage adhoc =>
      exact .steady (.of_moved (s.terminate_moved (fun _ same => same) adhoc))
  | bindAdhocStorage adhoc job => exact .operation (.bind adhoc job) rfl
  | unbindAdhocStorage adhoc => exact .operation (.unbind adhoc) rfl
  | registerPfsStorage name kind context =>
      exact .operation (.registerPfs name kind context) rfl
  | updatePfsStorage pfs context => exact .operation (.updatePfs pfs context) rfl
  | removePfsStorage pfs => exact .operation (.removePfs pfs) rfl
  | transferDatasets job sources targets limits mapping =>
      exact s.startDispatch_begun job sources targets limits mapping
  | setTransferPriority transfer delta => exact .steady (.of_transfers s _)
  | cancelTransfer transfer =>
      simp only [startRequest, ofLedger]
      cases (s.transfers.cancel transfer).1 <;> exact .steady (.of_transfers s _)
  | transferUpdate transfer status progress =>
      simp only [startRequest, ofLedger]
      cases (s.transfers.update transfer status progress).1 <;>
        exact .steady (.of_transfers s _)
  | waitTransfer transfer timeoutMs => exact .steady (s.startAwait_steady transfer timeoutMs)
  | setLimit job limit => exact s.setLimit_begun job limit
  | removeLimits job entity limitClass => exact s.removeLimits_begun job entity limitClass
  | defineDataOperation job executable arguments =>
      exact s.defineOperation_begun job executable arguments
  | connectDataOperation job operation connection => exact .steady (.of_pipeline s _)
  | linkTransfer job operation link => exact .steady (s.linkTransfer_steady job operation link)
  | finalizeDataOperation job operation => exact .steady (s.startFinalize_steady job operation)
  | ping | getJob _ | query _ | getAdhocStorage _ | currentClient _ | getPfsStorage _
  | getPendingTransfers _ | getTransferPriority _ | transferStatus _ | getLimits _ _ _
  | getStatistics _ | adhocDeploy _ _ _ _ | adhocTerminate _ _ _
  | startTransfer _ =>
      exact .steady (.refl s)

theorem start_begun (s : Service) (call : Call) : Begun s call (s.start call).2 := by
  cases call with
  | request request => exact s.startRequest_begun request
  | shutdown => exact .steady (.of_moved (s.sweep_moved (fun _ same => same) _ 0))

/-! ## What stays -/

theorem removed?_of_operation? {request : Request} {op : Registry.Operation}
    (asked : request.operation? = some op) : op.removed? = none := by
  cases request <;> cases asked <;> rfl

/-- Only a request to remove a job unregisters it. -/
theorem Begun.keeps_registered {s s' : Service} {call : Call} (begun : Begun s call s')
    {job : JobId} (stays : call ≠ .request (.removeJob job)) (registered : s.Registered job) :
    s'.Registered job := by
  cases begun with
  | steady steady =>
      unfold Registered
      rw [steady.jobs]
      exact registered
  | operation op asked =>
      exact (Registry.apply_effect ⟨s.ids, s.registry⟩ op).keeps_jobs
        (removed?_of_operation? asked) job registered
  | @jobRemoved gone known =>
      have other : job ≠ gone := by
        rintro rfl
        exact stays rfl
      exact registered_dropJob.mpr ⟨other, registered⟩
  | transferCreated known sources targets limits mapping
  | operationDefined known executable arguments | limitSet known limit
  | limitsRemoved known entity limitClass => exact registered

/-- Only a request to remove an ad-hoc storage unregisters it. -/
theorem Begun.keeps_adhoc {s s' : Service} {call : Call} (begun : Begun s call s')
    (orderly : s.Orderly) {id : AdhocId}
    (stays : ∀ caller, call ≠ .request (.removeAdhocStorage id caller))
    (registered : (s.registry.adhoc.get? id).isSome) : (s'.registry.adhoc.get? id).isSome := by
  cases begun with
  | steady steady => exact steady.adhoc id registered
  | @operation request op asked =>
      obtain ⟨entry, found⟩ := Option.isSome_iff_exists.mp registered
      have step := Registry.apply_entry orderly.registry found op
      generalize Registry.apply ⟨s.ids, s.registry⟩ op = result at step ⊢
      cases now : result.2.store.adhoc.get? id with
      | some other => rfl
      | none =>
          rw [now] at step
          cases step with
          | @removed caller same clear =>
              have removal : request = .removeAdhocStorage id caller := by
                cases request <;> cases asked <;> cases same
                rfl
              exact absurd (congrArg Call.request removal) (stays caller)
  | jobRemoved known =>
      simp only [dropJob, Table.get?_mapValues, Option.isSome_map]
      exact registered
  | transferCreated known sources targets limits mapping
  | operationDefined known executable arguments | limitSet known limit
  | limitsRemoved known entity limitClass => exact registered

end Service

/-- An event is steady, or it starts a call that does what was asked of it. -/
theorem Machine.Step.begun {m m' : Machine} {event : Event} (step : Step m event m') :
    Service.Steady m.service m'.service ∨
      ∃ call, event = .call call ∧ Service.Begun m.service call m'.service := by
  cases step with
  | started call =>
      rw [settle_service]
      exact .inr ⟨call, rfl, m.service.start_begun call⟩
  | resumed sent held went =>
      rw [settle_service]
      exact .inl (Service.resume_steady went)
  | idle nothing deaf => exact .inl (.refl _)

end StorageBroker
