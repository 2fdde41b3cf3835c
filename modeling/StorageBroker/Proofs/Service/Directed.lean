import StorageBroker.Proofs.Service.Shutdown
import StorageBroker.Proofs.Service.WellFormed

/-! # A controller is always found

A deployment or a teardown fails for want of a controller if the storage names no address and has no
nodes. No other call fails like that, and with well-formed stores none of them does. -/

set_option autoImplicit false

namespace StorageBroker

/-- Whether a call has ended for want of a controller. -/
def Outcome.undirected : Outcome → Bool
  | .reply (.error (.noController _)) => true
  | _ => false

/-- Whether a call has failed for want of a controller. -/
def CallState.undirected (state : CallState) : Bool := state.outcome?.any Outcome.undirected

/-- A storage that is well-formed has a node to look for its controller on. -/
theorem AdhocEntry.WellFormed.located {entry : AdhocEntry} (formed : entry.WellFormed)
    (id : AdhocId) (path : Option String) : (entry.plan id path).location ≠ .nowhere := by
  intro nowhere
  have bare := DeploymentPlan.location_eq_nowhere.mp nowhere
  simp only [AdhocEntry.isUnreachable, Bool.and_eq_true, List.isEmpty_iff] at bare
  exact formed.staffed bare.2

namespace Service

section

variable {α : Type} {s : Service}

theorem finish_directed {ε : Type} {wrap : ε → ServiceError}
    (other : ∀ e, (CallState.failed (wrap e)).undirected = false) (reply : α → Reply)
    (r : Except ε α) : (finish reply (r.mapError wrap, s)).1.undirected = false := by
  cases r with
  | error e => exact other e
  | ok a => rfl

theorem statusReply_directed (id : TransferId) (status : TransferStatus) :
    (CallState.ofResult (s.statusReply id status)).undirected = false := by
  unfold statusReply
  split <;> rfl

theorem startDeploy_directed (formed : s.WellFormed) (adhoc : AdhocId) :
    (s.startDeploy adhoc).1.undirected = false := by
  unfold startDeploy
  rcases s.registry.beginDeploy_outcome adhoc with ⟨e, refused⟩ | ⟨entry, found, -, done⟩
  · rw [refused]
    rfl
  · rw [done]
    cases located : (entry.plan adhoc none).location with
    | address address => simp only [located]; rfl
    | host hostname => simp only [located]; rfl
    | nowhere => exact absurd located ((formed.registry.adhoc adhoc entry found).located adhoc _)

theorem terminate_directed (formed : s.WellFormed) (adhoc : AdhocId) :
    (s.startRequest (.terminateAdhocStorage adhoc)).1.undirected = false := by
  simp only [startRequest, startTeardown]
  rcases s.registry.beginTeardown_outcome adhoc with ⟨e, refused⟩ | ⟨entry, path, found, -, done⟩
  · rw [refused]
    rfl
  · rw [done]
    cases located : (entry.plan adhoc (some path)).location with
    | address address => simp only [located]; rfl
    | host hostname => simp only [located]; rfl
    | nowhere => exact absurd located ((formed.registry.adhoc adhoc entry found).located adhoc _)

theorem startRequest_directed (formed : s.WellFormed) (request : Request) :
    (s.startRequest request).1.undirected = false := by
  cases request with
  | deployAdhocStorage adhoc => exact startDeploy_directed formed adhoc
  | terminateAdhocStorage adhoc => exact terminate_directed formed adhoc
  | registerJob _ _ _ | updateJob _ _ _ | getJob _ | registerAdhocStorage _ _ _ _
  | updateAdhocStorage _ _ _ | removeAdhocStorage _ _ | getAdhocStorage _ | bindAdhocStorage _ _
  | unbindAdhocStorage _ | currentClient _ | registerPfsStorage _ _ _ | updatePfsStorage _ _
  | removePfsStorage _ | getPfsStorage _ | setTransferPriority _ _ | getTransferPriority _
  | connectDataOperation _ _ _ => exact finish_directed (fun _ => rfl) _ _
  | cancelTransfer transfer =>
      simp only [startRequest, ofLedger]
      cases (s.transfers.cancel transfer).1 with
      | error e => rfl
      | ok status => exact statusReply_directed transfer status
  | transferUpdate transfer status progress =>
      simp only [startRequest, ofLedger]
      cases (s.transfers.update transfer status progress).1 with
      | error e => rfl
      | ok status => exact statusReply_directed transfer status
  | _ =>
      -- the others look something up first; none of them is after a controller
      simp only [startRequest, removeJob, query, pendingTransfers, setLimit, getLimits,
        removeLimits, defineOperation_eq, linkTransfer, statistics, transferStatus, startDispatch_eq,
        startAwait, endAwait, startFinalize, endFinalize, ofPipeline]
      repeat' split
      all_goals first
        | rfl
        | exact finish_directed (fun _ => rfl) _ _
        | exact statusReply_directed _ _

theorem sweep_directed (rest : List AdhocId) (tornDown : Nat) :
    (s.sweep rest tornDown).1.undirected = false := by
  induction rest generalizing s with
  | nil => rfl
  | cons adhoc rest ih =>
      unfold sweep
      split
      · rfl
      · exact ih

theorem start_directed (formed : s.WellFormed) (call : Call) :
    (s.start call).1.undirected = false := by
  cases call with
  | request request => exact startRequest_directed formed request
  | shutdown => exact sweep_directed _ 0

theorem failDeploy_directed (plan : DeploymentPlan) {e : ServiceError}
    (other : (CallState.failed e).undirected = false) :
    (s.failDeploy plan e).1.undirected = false := by
  unfold failDeploy
  split
  · exact other
  · rfl

theorem endTeardown_directed (origin : TeardownOrigin) {e : ServiceError}
    (other : (CallState.failed e).undirected = false) :
    (s.endTeardown origin (.error e)).1.undirected = false := by
  cases origin with
  | client => exact other
  | shutdown rest tornDown => exact sweep_directed rest tornDown

theorem failTeardown_directed (plan : DeploymentPlan) (origin : TeardownOrigin) {e : ServiceError}
    (other : (CallState.failed e).undirected = false) :
    (s.failTeardown plan origin e).1.undirected = false := by
  simp only [failTeardown, undoTeardown]
  split
  · exact endTeardown_directed origin other
  · exact endTeardown_directed origin rfl

theorem completeTeardown_directed (plan : DeploymentPlan) (origin : TeardownOrigin) :
    (s.completeTeardown plan origin).1.undirected = false := by
  unfold completeTeardown
  split
  · cases origin with
    | client => rfl
    | shutdown rest tornDown => exact sweep_directed rest _
  · exact endTeardown_directed origin rfl

/-- A call that has waited does not fail for want of a controller. -/
theorem resume_directed {wait : Waiting} {signal : Signal} {r : CallState × Service}
    (resumed : s.resume wait signal = some r) : r.1.undirected = false := by
  unfold resume at resumed
  split at resumed <;> first
    | obtain rfl := Option.some.inj resumed
    | exact absurd resumed (by simp)
  · rfl
  · unfold completeDeploy
    split <;> rfl
  · exact failDeploy_directed _ rfl
  · exact failDeploy_directed _ rfl
  · exact failDeploy_directed _ rfl
  · exact failDeploy_directed _ rfl
  · rfl
  · exact completeTeardown_directed _ _
  · exact failTeardown_directed _ _ rfl
  · exact failTeardown_directed _ _ rfl
  · exact failTeardown_directed _ _ rfl
  · exact failTeardown_directed _ _ rfl
  · rfl
  · rfl
  · rfl
  · exact statusReply_directed _ _
  · rfl
  · exact finish_directed (fun _ => rfl) _ _
  · exact finish_directed (fun _ => rfl) _ _

end

end Service

end StorageBroker
