import StorageBroker.Message.Request
import StorageBroker.Service.Basic

/-! # Calls that wait

A call runs until it is finished or has to wait: for the address of a controller, for a controller,
for a data mover, or for a transfer to end. `start` runs a call to its first such point, and
`resume` runs a waiting call on from there once it is told how the wait ended. -/

set_option autoImplicit false

namespace StorageBroker

/-- Who asked for a teardown: a client, or a shutdown that goes on with further storages and has
torn down some already. -/
inductive TeardownOrigin
  | client
  | shutdown (rest : List AdhocId) (tornDown : Nat)
  deriving DecidableEq, Repr

inductive Waiting
  | locatingForDeploy (plan : DeploymentPlan) (hostname : String)
  | deploying (plan : DeploymentPlan) (address : String)
  | locatingForTeardown (plan : DeploymentPlan) (hostname : String) (origin : TeardownOrigin)
  | tearingDown (plan : DeploymentPlan) (address : String) (origin : TeardownOrigin)
  | dispatching (transfer : Transfer) (address : String)
  | awaiting (transfer : TransferId) (budgetMs : Nat)
  | finalizing (job : JobId) (operation : OperationId) (transfer : TransferId)
  deriving DecidableEq, Repr

/-- How a wait ends: with the answer of a collaborator (an address, a mount path, or nothing to
say), with the terminal status of a transfer, or with the time that the wait may take. -/
inductive Signal
  | answered (result : Except NetError String)
  | ended (status : TransferStatus)
  | expired

inductive Call
  | request (request : Request)
  | shutdown
  deriving DecidableEq, Repr

inductive Outcome
  | reply (result : Except ServiceError Reply)
  | tornDown (count : Nat)

inductive CallState
  | finished (outcome : Outcome)
  | waiting (wait : Waiting)

/-- The call of a collaborator that a wait stands for. -/
inductive Outbound
  | resolve (hostname : String) (port : UInt16)
  | deploy (address : String) (plan : DeploymentPlan)
  | terminate (address : String) (plan : DeploymentPlan)
  | startTransfer (address : String) (transfer : Transfer)
  deriving DecidableEq, Repr

inductive ControllerLocation
  | address (address : String)
  | host (hostname : String)
  | nowhere
  deriving DecidableEq, Repr

def DeploymentPlan.location (plan : DeploymentPlan) : ControllerLocation :=
  if plan.context.controllerAddress.isEmpty then
    match plan.resources.nodes with
    | [] => .nowhere
    | node :: _ => .host node.hostname
  else .address plan.context.controllerAddress

namespace Waiting

def outbound? (port : UInt16) : Waiting → Option Outbound
  | .locatingForDeploy _ hostname | .locatingForTeardown _ hostname _ =>
    some (.resolve hostname port)
  | .deploying plan address => some (.deploy address plan)
  | .tearingDown plan address _ => some (.terminate address plan)
  | .dispatching transfer address => some (.startTransfer address transfer)
  | .awaiting _ _ | .finalizing _ _ _ => none

/-- The time that a wait may take; a controller call shares it with the search for its address. -/
def budgetMs (config : ServiceConfig) : Waiting → Nat
  | .locatingForDeploy _ _ | .deploying _ _ | .locatingForTeardown _ _ _
  | .tearingDown _ _ _ => config.controllerMs
  | .dispatching _ _ => config.dispatchMs
  | .awaiting _ budgetMs => budgetMs
  | .finalizing _ _ _ => config.waitMs

def isLocating : Waiting → Bool
  | .locatingForDeploy _ _ | .locatingForTeardown _ _ _ => true
  | _ => false

def transfer? : Waiting → Option TransferId
  | .awaiting transfer _ | .finalizing _ _ transfer => some transfer
  | _ => none

end Waiting

namespace CallState

def ofResult (result : Except ServiceError Reply) : CallState := .finished (.reply result)

def failed (e : ServiceError) : CallState := ofResult (.error e)

def replied (reply : Reply) : CallState := ofResult (.ok reply)

end CallState

namespace Service

variable {α : Type}

def finish (reply : α → Reply) (r : Except ServiceError α × Service) : CallState × Service :=
  (.ofResult (r.1.map reply), r.2)

/-! ## Deployment -/

def failDeploy (s : Service) (plan : DeploymentPlan) (e : ServiceError) : CallState × Service :=
  match s.registry.abortDeploy plan.id with
  | (.ok _, r) => (.failed e, { s with registry := r })
  | (.error undone, r) => (.failed (.registry undone), { s with registry := r })

def completeDeploy (s : Service) (plan : DeploymentPlan) (path : String) : CallState × Service :=
  match s.registry.completeDeploy plan.id path with
  | (.ok _, r) => (.replied (.mountPath path), { s with registry := r })
  | (.error e, r) => (.failed (.registry e), { s with registry := r })

def startDeploy (s : Service) (adhoc : AdhocId) : CallState × Service :=
  match s.registry.beginDeploy adhoc with
  | (.error e, r) => (.failed (.registry e), { s with registry := r })
  | (.ok plan, r) =>
    let s := { s with registry := r }
    match plan.location with
    | .address address => (.waiting (.deploying plan address), s)
    | .host hostname => (.waiting (.locatingForDeploy plan hostname), s)
    | .nowhere => s.failDeploy plan (.noController adhoc)

/-! ## Teardown -/

/-- Takes a teardown back; gives what went wrong. -/
def undoTeardown (s : Service) (plan : DeploymentPlan) (e : ServiceError) :
    ServiceError × Service :=
  match s.registry.abortTeardown plan.id with
  | (.ok _, r) => (e, { s with registry := r })
  | (.error undone, r) => (.registry undone, { s with registry := r })

/-- Starts a teardown: what it waits for, or what went wrong. -/
def startTeardown (s : Service) (adhoc : AdhocId) (origin : TeardownOrigin) :
    Except ServiceError Waiting × Service :=
  match s.registry.beginTeardown adhoc with
  | (.error e, r) => (.error (.registry e), { s with registry := r })
  | (.ok plan, r) =>
    let s := { s with registry := r }
    match plan.location with
    | .address address => (.ok (.tearingDown plan address origin), s)
    | .host hostname => (.ok (.locatingForTeardown plan hostname origin), s)
    | .nowhere =>
      let (e, s) := s.undoTeardown plan (.noController adhoc)
      (.error e, s)

/-- Goes on with a shutdown: the next storage whose teardown can start is waited for. -/
def sweep (s : Service) : List AdhocId → Nat → CallState × Service
  | [], tornDown => (.finished (.tornDown tornDown), s)
  | adhoc :: rest, tornDown =>
    match s.startTeardown adhoc (.shutdown rest tornDown) with
    | (.ok wait, s) => (.waiting wait, s)
    | (.error _, s) => s.sweep rest tornDown

def endTeardown (s : Service) (origin : TeardownOrigin) (result : Except ServiceError Unit) :
    CallState × Service :=
  match origin, result with
  | .client, .ok _ => (.replied .empty, s)
  | .client, .error e => (.failed e, s)
  | .shutdown rest tornDown, .ok _ => s.sweep rest (tornDown + 1)
  | .shutdown rest tornDown, .error _ => s.sweep rest tornDown

def failTeardown (s : Service) (plan : DeploymentPlan) (origin : TeardownOrigin)
    (e : ServiceError) : CallState × Service :=
  let (e, s) := s.undoTeardown plan e
  s.endTeardown origin (.error e)

/-- Records that a controller has torn a storage down, and ends the teardown. -/
def completeTeardown (s : Service) (plan : DeploymentPlan) (origin : TeardownOrigin) :
    CallState × Service :=
  match s.registry.completeTeardown plan.id with
  | (.ok _, r) => { s with registry := r }.endTeardown origin (.ok ())
  | (.error e, r) => { s with registry := r }.endTeardown origin (.error (.registry e))

/-- Starts a shutdown: every storage that is deployed now is to be torn down, by id. -/
def startShutdown (s : Service) : CallState × Service :=
  s.sweep ((s.registry.adhocStorages.filter AdhocStorage.isDeployed).map AdhocStorage.id) 0

/-! ## Transfers -/

/-- Hands a new transfer to the data mover of its job, if it has one. A job that is gone by now takes
its transfers with it. -/
def dispatchCreated (s : Service) (job : JobId) (owner : Job) (transfer : Transfer) :
    CallState × Service :=
  match s.registry.job job with
  | .error e =>
    let (_, cancelled) := s.transfers.cancelAll job
    let (_, transfers) := cancelled.evictJob job
    (.failed (.registry e), { s with transfers })
  | .ok _ =>
    match s.moverAddress owner with
    | none => (.replied (.transfer transfer), s)
    | some address => (.waiting (.dispatching transfer address), s)

/-- Creates a transfer for a registered job and hands it to the job's data mover. -/
def startDispatch (s : Service) (job : JobId) (sources targets : List Dataset)
    (limits : List Limit) (mapping : Mapping) : CallState × Service :=
  match s.registry.job job with
  | .error e => (.failed (.registry e), s)
  | .ok owner =>
    match TransferLedger.create ⟨s.ids, s.transfers⟩ job sources targets limits mapping with
    | (.error e, n) => (.failed (.transfer e), { s with ids := n.ids, transfers := n.store })
    | (.ok transfer, n) =>
      dispatchCreated { s with ids := n.ids, transfers := n.store } job owner transfer

theorem dispatchCreated_of_registered {s : Service} {job : JobId} {now : Job}
    (found : s.registry.job job = .ok now) (owner : Job) (transfer : Transfer) :
    s.dispatchCreated job owner transfer = (match s.moverAddress owner with
      | none => .replied (.transfer transfer)
      | some address => .waiting (.dispatching transfer address), s) := by
  simp only [dispatchCreated, found]
  split <;> rfl

/-- The call does not wait between its two looks at the job, so the second one finds the job that the
first one has found. -/
theorem startDispatch_eq (s : Service) (job : JobId) (sources targets : List Dataset)
    (limits : List Limit) (mapping : Mapping) :
    s.startDispatch job sources targets limits mapping = match s.registry.job job with
      | .error e => (.failed (.registry e), s)
      | .ok owner =>
        match TransferLedger.create ⟨s.ids, s.transfers⟩ job sources targets limits mapping with
        | (.error e, n) => (.failed (.transfer e), { s with ids := n.ids, transfers := n.store })
        | (.ok transfer, n) => (match s.moverAddress owner with
            | none => .replied (.transfer transfer)
            | some address => .waiting (.dispatching transfer address),
          { s with ids := n.ids, transfers := n.store }) := by
  unfold startDispatch
  cases found : s.registry.job job with
  | error e => rfl
  | ok owner =>
      rcases TransferLedger.create ⟨s.ids, s.transfers⟩ job sources targets limits mapping with
        ⟨e | transfer, n⟩
      · rfl
      · exact dispatchCreated_of_registered (s := { s with ids := n.ids, transfers := n.store })
          found owner transfer

/-- Marks a transfer that could not be handed over as failed, unless it has ended meanwhile. -/
def failDispatch (s : Service) (transfer : Transfer) (e : ServiceError) : CallState × Service :=
  let (_, transfers) := s.transfers.update transfer.id .failed ⟨0, none, some e.message⟩
  (.failed e, { s with transfers })

/-- Ends a wait for a transfer with its terminal status and the progress that is recorded now. -/
def endAwait (s : Service) (transfer : TransferId) (status : TransferStatus) :
    CallState × Service :=
  (.ofResult (s.statusReply transfer status), s)

/-- Starts a wait for a transfer; one that has ended is not waited for. -/
def startAwait (s : Service) (transfer : TransferId) (timeoutMs : Option UInt64) :
    CallState × Service :=
  match s.transfers.watch transfer with
  | .error e => (.failed (.transfer e), s)
  | .ok transfer =>
    match s.transfers.ending? transfer with
    | some status => s.endAwait transfer status
    | none =>
      let budgetMs := (timeoutMs.map UInt64.toNat).getD s.config.waitMs
      (.waiting (.awaiting transfer budgetMs), s)

/-! ## Finalization -/

def outcomeOf (status : TransferStatus) : OperationOutcome :=
  if status = .finished then .succeeded else .failed

def endFinalize (s : Service) (job : JobId) (operation : OperationId)
    (outcome : OperationOutcome) : CallState × Service :=
  finish .outcome (s.ofPipeline (s.pipeline.finalize job operation outcome))

/-- Starts to finalize an operation; a linked one waits for its transfer. -/
def startFinalize (s : Service) (job : JobId) (operation : OperationId) : CallState × Service :=
  match s.pipeline.finalizable job operation with
  | .error e => (.failed (.pipeline e), s)
  | .ok found =>
    match found.link with
    | none => s.endFinalize job operation .succeeded
    | some link =>
      match s.transfers.watch link.transfer with
      | .error _ => s.endFinalize job operation .failed
      | .ok transfer =>
        match s.transfers.ending? transfer with
        | some status => s.endFinalize job operation (outcomeOf status)
        | none => (.waiting (.finalizing job operation transfer), s)

/-! ## Calls -/

def startRequest (s : Service) : Request → CallState × Service
  | .ping => (.replied .empty, s)
  | .registerJob slurmId resources requirements =>
    finish .job (s.ofNumberedRegistry
      (Registry.registerJob ⟨s.ids, s.registry⟩ slurmId resources requirements))
  | .updateJob job resources requirements =>
    finish .job (s.ofRegistry (s.registry.updateJob job resources requirements))
  | .removeJob job => finish .job (s.removeJob job)
  | .getJob job => finish .job (s.ofRegistry (s.registry.job job, s.registry))
  | .query slurmId => finish .jobInfo (s.query slurmId, s)
  | .registerAdhocStorage name kind context resources =>
    finish .adhocStorage (s.ofNumberedRegistry
      (Registry.registerAdhoc ⟨s.ids, s.registry⟩ name kind context resources))
  | .updateAdhocStorage adhoc context caller =>
    finish .adhocStorage (s.ofRegistry (s.registry.updateAdhoc adhoc context caller))
  | .removeAdhocStorage adhoc caller =>
    finish .adhocStorage (s.ofRegistry (s.registry.removeAdhoc adhoc caller))
  | .getAdhocStorage adhoc =>
    finish .adhocStorage (s.ofRegistry (s.registry.adhocStorage adhoc, s.registry))
  | .deployAdhocStorage adhoc => s.startDeploy adhoc
  | .terminateAdhocStorage adhoc =>
    match s.startTeardown adhoc .client with
    | (.ok wait, s) => (.waiting wait, s)
    | (.error e, s) => (.failed e, s)
  | .bindAdhocStorage adhoc job =>
    finish (fun _ => .empty) (s.ofRegistry (s.registry.bind adhoc job))
  | .unbindAdhocStorage adhoc =>
    finish (fun _ => .empty) (s.ofRegistry (s.registry.unbind adhoc))
  | .currentClient adhoc =>
    finish .client (s.ofRegistry (s.registry.currentClient adhoc, s.registry))
  | .registerPfsStorage name kind context =>
    finish .pfsStorage (s.ofNumberedRegistry
      (Registry.registerPfs ⟨s.ids, s.registry⟩ name kind context))
  | .updatePfsStorage pfs context =>
    finish .pfsStorage (s.ofRegistry (s.registry.updatePfs pfs context))
  | .removePfsStorage pfs => finish .pfsStorage (s.ofRegistry (s.registry.removePfs pfs))
  | .getPfsStorage pfs =>
    finish .pfsStorage (s.ofRegistry (s.registry.pfsStorage pfs, s.registry))
  | .transferDatasets job sources targets limits mapping =>
    s.startDispatch job sources targets limits mapping
  | .getPendingTransfers job => finish .transfers (s.pendingTransfers job, s)
  | .setTransferPriority transfer delta =>
    finish .priority (s.ofLedger (s.transfers.setPriority transfer delta))
  | .getTransferPriority transfer =>
    finish .priority (s.ofLedger (s.transfers.priority transfer, s.transfers))
  | .cancelTransfer transfer =>
    match s.ofLedger (s.transfers.cancel transfer) with
    | (.error e, s) => (.failed e, s)
    | (.ok status, s) => (.ofResult (s.statusReply transfer status), s)
  | .transferUpdate transfer status progress =>
    match s.ofLedger (s.transfers.update transfer status progress) with
    | (.error e, s) => (.failed e, s)
    | (.ok status, s) => (.ofResult (s.statusReply transfer status), s)
  | .transferStatus transfer => (.ofResult (s.transferStatus transfer), s)
  | .waitTransfer transfer timeoutMs => s.startAwait transfer timeoutMs
  | .setLimit job limit => finish (fun _ => .empty) (s.setLimit job limit)
  | .getLimits job scope entity => finish .limits (s.getLimits job scope entity, s)
  | .removeLimits job entity limitClass =>
    finish (fun n => .removed (UInt64.ofNat n)) (s.removeLimits job entity limitClass)
  | .defineDataOperation job executable arguments =>
    finish .dataOperation (s.defineOperation job executable arguments)
  | .connectDataOperation job operation connection =>
    finish .dataOperation (s.ofPipeline (s.pipeline.connect job operation connection))
  | .linkTransfer job operation link =>
    finish .dataOperation (s.linkTransfer job operation link)
  | .finalizeDataOperation job operation => s.startFinalize job operation
  | .getStatistics job => finish .statistics (s.statistics job, s)
  | .adhocDeploy .. | .adhocTerminate .. | .startTransfer .. => (.failed .notServed, s)

/-- Runs a call to its end or to the point where it waits. -/
def start (s : Service) : Call → CallState × Service
  | .request request => s.startRequest request
  | .shutdown => s.startShutdown

/-- Runs a waiting call on; nothing happens on a signal that its wait cannot end with. -/
def resume (s : Service) : Waiting → Signal → Option (CallState × Service)
  | .locatingForDeploy plan _, .answered (.ok address) =>
    some (.waiting (.deploying plan address), s)
  | .deploying plan _, .answered (.ok path) => some (s.completeDeploy plan path)
  | .locatingForDeploy plan _, .answered (.error e)
  | .deploying plan _, .answered (.error e) => some (s.failDeploy plan (.net e))
  | .locatingForDeploy plan _, .expired
  | .deploying plan _, .expired =>
    some (s.failDeploy plan (.timeout (.deployment plan.id) s.config.controllerMs))
  | .locatingForTeardown plan _ origin, .answered (.ok address) =>
    some (.waiting (.tearingDown plan address origin), s)
  | .tearingDown plan _ origin, .answered (.ok _) => some (s.completeTeardown plan origin)
  | .locatingForTeardown plan _ origin, .answered (.error e)
  | .tearingDown plan _ origin, .answered (.error e) =>
    some (s.failTeardown plan origin (.net e))
  | .locatingForTeardown plan _ origin, .expired
  | .tearingDown plan _ origin, .expired =>
    some (s.failTeardown plan origin (.timeout (.teardown plan.id) s.config.controllerMs))
  | .dispatching transfer _, .answered (.ok _) => some (.replied (.transfer transfer), s)
  | .dispatching transfer _, .answered (.error e) => some (s.failDispatch transfer (.net e))
  | .dispatching transfer _, .expired =>
    some (s.failDispatch transfer (.timeout (.dispatch transfer.id) s.config.dispatchMs))
  | .awaiting transfer _, .ended status => some (s.endAwait transfer status)
  | .awaiting transfer budgetMs, .expired =>
    some (.failed (.timeout (.transfer transfer) budgetMs), s)
  | .finalizing job operation _, .ended status =>
    some (s.endFinalize job operation (outcomeOf status))
  | .finalizing job operation _, .expired => some (s.endFinalize job operation .failed)
  | _, _ => none

end Service

def Response.ofResult : Except ServiceError Reply → Response
  | .ok reply => .ok reply
  | .error e => .error e.code e.message

end StorageBroker
