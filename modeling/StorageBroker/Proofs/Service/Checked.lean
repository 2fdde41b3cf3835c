import Mathlib.Data.Option.Basic
import StorageBroker.Message.Validity
import StorageBroker.Proofs.Service.Begun
import StorageBroker.Proofs.Service.WellFormed

/-! # What the checks of a request are for

A request that has passed its checks gives every store that it reaches what the store needs to stay
well-formed. What a call does after a wait needs no checks: it writes nothing new. -/

set_option autoImplicit false

namespace StorageBroker

/-! ## What has been checked of a request -/

theorem complain_eq_none {bad : Bool} {complaint : Malformation} :
    complain bad complaint = none ↔ bad = false := by
  unfold complain
  cases bad <;> simp

theorem Node.complaint?_eq_none {nodes : List Node} :
    Node.complaint? nodes = none ↔ Node.AllNamed nodes := by
  simp [Node.complaint?, complain_eq_none, Node.AllNamed]

theorem Dataset.complaint?_eq_none {datasets : List Dataset} :
    Dataset.complaint? datasets = none ↔ Dataset.AllNamed datasets := by
  simp [Dataset.complaint?, complain_eq_none, Dataset.AllNamed]

theorem LimitEntity.complaint?_eq_none {entity : LimitEntity} :
    entity.complaint? = none ↔ entity.Named := by
  cases entity <;> simp [LimitEntity.complaint?, complain_eq_none, LimitEntity.Named]

theorem Request.isValid_iff {request : Request} :
    request.isValid = true ↔ request.complaint? = none :=
  Option.isNone_iff_eq_none

/-- What a well-formed request asks of the registry keeps the registry well-formed. -/
theorem Request.operation_sound {request : Request} (valid : request.isValid = true)
    {op : Registry.Operation} (asked : request.operation? = some op) : op.Sound := by
  rw [isValid_iff] at valid
  cases request with
  | registerJob slurmId resources requirements | updateJob job resources requirements =>
      cases asked
      exact Node.complaint?_eq_none.mp valid
  | registerAdhocStorage name kind context resources =>
      cases asked
      simp only [complaint?, Option.orElse_eq_none, complain_eq_none,
        Node.complaint?_eq_none] at valid
      exact ⟨valid.1, by simpa using valid.2.1, valid.2.2⟩
  | registerPfsStorage name kind context =>
      cases asked
      simp only [complaint?, Option.orElse_eq_none, complain_eq_none] at valid
      exact fun id => ⟨valid.1, by simpa using valid.2⟩
  | updatePfsStorage pfs context =>
      cases asked
      simp only [complaint?, complain_eq_none] at valid
      change context.mountPoint ≠ ""
      simpa using valid
  | updateAdhocStorage adhoc context caller | removeAdhocStorage adhoc caller
  | bindAdhocStorage adhoc job | unbindAdhocStorage adhoc | removePfsStorage pfs =>
      cases asked
      trivial
  | _ => exact nomatch asked

namespace Service

/-! ## What a call leaves behind -/

section

variable {s : Service} (formed : s.WellFormed)
include formed

theorem startDispatch_preserves_wellFormed (job : JobId) {sources targets : List Dataset}
    {limits : List Limit} (mapping : Mapping) (reads : Dataset.AllNamed sources)
    (writes : Dataset.AllNamed targets) (capped : ∀ limit ∈ limits, limit.entity.Named) :
    (s.startDispatch job sources targets limits mapping).2.WellFormed := by
  have created := TransferLedger.create_preserves_wellFormed (s := ⟨s.ids, s.transfers⟩)
    formed.transfers job mapping reads writes capped
  rw [startDispatch_eq]
  cases s.registry.job job with
  | error e => exact formed
  | ok owner =>
      cases result : TransferLedger.create ⟨s.ids, s.transfers⟩ job sources targets limits
          mapping with
      | mk answer n =>
          rw [result] at created
          have left : WellFormed { s with ids := n.ids, transfers := n.store } :=
            { formed with transfers := created }
          cases answer with
          | error e => exact left
          | ok transfer => exact left

theorem defineOperation_preserves_wellFormed (job : JobId) {executable : String}
    (arguments : List Argument) (named : Text.isBlank executable = false) :
    (s.defineOperation job executable arguments).2.WellFormed := by
  have defined := Pipeline.define_preserves_wellFormed (s := ⟨s.ids, s.pipeline⟩)
    formed.pipeline job arguments named
  rw [defineOperation_eq]
  cases s.registry.job job with
  | error e => exact formed
  | ok owner => exact { formed with pipeline := defined }

theorem setLimit_preserves_wellFormed (job : JobId) {limit : Limit} (named : limit.entity.Named) :
    (s.setLimit job limit).2.WellFormed := by
  have set := LimitStore.set_preserves_wellFormed formed.limits named
  unfold setLimit
  cases s.registry.job job with
  | error e => exact formed
  | ok owner => exact { formed with limits := set }

theorem removeLimits_preserves_wellFormed (job : JobId) (entity : LimitEntity)
    (limitClass : Option LimitClass) :
    (s.removeLimits job entity limitClass).2.WellFormed := by
  have left := LimitStore.remove_preserves_wellFormed formed.limits entity limitClass
  unfold removeLimits
  cases s.registry.job job with
  | error e => exact formed
  | ok owner => exact { formed with limits := left }

theorem linkTransfer_preserves_wellFormed (job : JobId) (operation : OperationId) (link : Link) :
    (s.linkTransfer job operation link).2.WellFormed := by
  have linked := Pipeline.link_preserves_wellFormed formed.pipeline job operation link
  unfold linkTransfer
  split
  · exact formed
  · split
    · exact formed
    · split
      · exact formed
      · exact { formed with pipeline := linked }

theorem endFinalize_preserves_wellFormed (job : JobId) (operation : OperationId)
    (outcome : OperationOutcome) : (s.endFinalize job operation outcome).2.WellFormed := by
  have finalized := Pipeline.finalize_preserves_wellFormed formed.pipeline job operation outcome
  exact { formed with pipeline := finalized }

theorem startFinalize_preserves_wellFormed (job : JobId) (operation : OperationId) :
    (s.startFinalize job operation).2.WellFormed := by
  have ended := endFinalize_preserves_wellFormed formed job operation
  unfold startFinalize
  split
  · exact formed
  · split
    · exact ended _
    · split
      · exact ended _
      · split
        · exact ended _
        · exact formed

theorem startAwait_preserves_wellFormed (transfer : TransferId) (timeoutMs : Option UInt64) :
    (s.startAwait transfer timeoutMs).2.WellFormed := by
  unfold startAwait
  split
  · exact formed
  · split <;> exact formed

theorem removeJob_preserves_wellFormed (sound : s.transfers.Sound) (job : JobId) :
    (s.removeJob job).2.WellFormed := by
  rcases s.removeJob_outcome job with ⟨-, refused⟩ | ⟨removed, -, done⟩
  · rw [refused]
    exact formed
  · rw [done]
    exact formed.dropJob sound job

theorem startRequest_preserves_wellFormed (sound : s.transfers.Sound) {request : Request}
    (valid : request.isValid = true) : (s.startRequest request).2.WellFormed := by
  have complete := Request.isValid_iff.mp valid
  cases request with
  | registerJob slurmId resources requirements =>
      exact formed.of_operation (.registerJob slurmId resources requirements)
        (Request.operation_sound valid rfl)
  | updateJob job resources requirements =>
      exact formed.of_operation (.updateJob job resources requirements)
        (Request.operation_sound valid rfl)
  | removeJob job => exact removeJob_preserves_wellFormed formed sound job
  | registerAdhocStorage name kind context resources =>
      exact formed.of_operation (.registerAdhoc name kind context resources)
        (Request.operation_sound valid rfl)
  | updateAdhocStorage adhoc context caller =>
      exact formed.of_operation (.updateAdhoc adhoc context caller) trivial
  | removeAdhocStorage adhoc caller =>
      exact formed.of_operation (.removeAdhoc adhoc caller) trivial
  | deployAdhocStorage adhoc =>
      exact formed.of_moved (s.startDeploy_moved (fun _ same => same) adhoc)
  | terminateAdhocStorage adhoc =>
      exact formed.of_moved (s.terminate_moved (fun _ same => same) adhoc)
  | bindAdhocStorage adhoc job => exact formed.of_operation (.bind adhoc job) trivial
  | unbindAdhocStorage adhoc => exact formed.of_operation (.unbind adhoc) trivial
  | registerPfsStorage name kind context =>
      exact formed.of_operation (.registerPfs name kind context)
        (Request.operation_sound valid rfl)
  | updatePfsStorage pfs context =>
      exact formed.of_operation (.updatePfs pfs context)
        (Request.operation_sound valid rfl)
  | removePfsStorage pfs => exact formed.of_operation (.removePfs pfs) trivial
  | transferDatasets job sources targets limits mapping =>
      simp only [Request.complaint?, Option.orElse_eq_none, Dataset.complaint?_eq_none,
        List.findSome?_eq_none_iff, LimitEntity.complaint?_eq_none] at complete
      exact startDispatch_preserves_wellFormed formed job mapping complete.1 complete.2.1
        complete.2.2
  | setTransferPriority transfer delta =>
      exact formed.of_ledger sound
        (TransferLedger.setPriority_effect s.ids s.transfers transfer delta)
  | cancelTransfer transfer =>
      have left := formed.of_ledger sound
        (TransferLedger.cancel_effect s.ids s.transfers transfer)
      simp only [startRequest, ofLedger]
      cases (s.transfers.cancel transfer).1 <;> exact left
  | transferUpdate transfer status progress =>
      have left := formed.of_ledger sound
        (TransferLedger.update_effect s.ids s.transfers transfer status progress)
      simp only [startRequest, ofLedger]
      cases (s.transfers.update transfer status progress).1 <;> exact left
  | waitTransfer transfer timeoutMs =>
      exact startAwait_preserves_wellFormed formed transfer timeoutMs
  | setLimit job limit =>
      exact setLimit_preserves_wellFormed formed job (LimitEntity.complaint?_eq_none.mp complete)
  | removeLimits job entity limitClass =>
      exact removeLimits_preserves_wellFormed formed job entity limitClass
  | defineDataOperation job executable arguments =>
      exact defineOperation_preserves_wellFormed formed job arguments
        (complain_eq_none.mp complete)
  | connectDataOperation job operation connection =>
      simp only [Request.complaint?, Option.orElse_eq_none, Dataset.complaint?_eq_none] at complete
      have connected := Pipeline.connect_preserves_wellFormed formed.pipeline job operation
        complete.1 complete.2
      exact { formed with pipeline := connected }
  | linkTransfer job operation link =>
      exact linkTransfer_preserves_wellFormed formed job operation link
  | finalizeDataOperation job operation =>
      exact startFinalize_preserves_wellFormed formed job operation
  | ping | getJob _ | query _ | getAdhocStorage _ | currentClient _ | getPfsStorage _
  | getPendingTransfers _ | getTransferPriority _ | transferStatus _ | getLimits _ _ _
  | getStatistics _ | adhocDeploy _ _ _ _ | adhocTerminate _ _ _ | startTransfer _ =>
      exact formed

theorem resume_preserves_wellFormed (sound : s.transfers.Sound) {wait : Waiting} {signal : Signal}
    {r : CallState × Service} (resumed : s.resume wait signal = some r) : r.2.WellFormed := by
  rcases resume_outcome resumed with
    moved | ⟨transfer, e, failed⟩ | ⟨job, operation, outcome, ended⟩
  · exact formed.of_moved moved
  · rw [failed]
    exact formed.of_ledger sound (TransferLedger.update_effect s.ids s.transfers transfer.id .failed
      ⟨0, none, some e.message⟩)
  · rw [ended]
    exact endFinalize_preserves_wellFormed formed job operation outcome

end

end Service

end StorageBroker
