import StorageBroker.Message.Reply
import StorageBroker.Registry.Operation
import StorageBroker.Service.Error

/-! # The service

The stores that the service owns, one allocator for all of them, and the calls on several stores
that are answered without waiting. -/

set_option autoImplicit false

namespace StorageBroker

/-- How a service is set up; times are in milliseconds. -/
structure ServiceConfig where
  defaultMover : Option String
  controllerPort : UInt16
  waitMs : Nat
  dispatchMs : Nat
  controllerMs : Nat
  deriving DecidableEq, Repr

/-- No default data mover, half a minute for waits, ten seconds for dispatches and two minutes for
controllers. -/
def ServiceConfig.standard : ServiceConfig := ⟨none, 52001, 30000, 10000, 120000⟩

/-- The stores of a service and the allocator that they share. -/
structure Service where
  config : ServiceConfig
  ids : IdAllocator
  registry : Registry
  transfers : TransferLedger
  limits : LimitStore
  pipeline : Pipeline

namespace Service

def fresh (config : ServiceConfig) : Service :=
  ⟨config, .fresh, .empty, .empty, .empty, .empty⟩

variable {α : Type}

def ofRegistry (s : Service) (r : Except RegistryError α × Registry) :
    Except ServiceError α × Service :=
  (r.1.mapError .registry, { s with registry := r.2 })

/-- Gives a registry result that may have drawn a number as a result of the service. -/
def ofNumberedRegistry (s : Service) (r : Except RegistryError α × Numbered Registry) :
    Except ServiceError α × Service :=
  (r.1.mapError .registry, { s with ids := r.2.ids, registry := r.2.store })

def ofLedger (s : Service) (r : Except TransferError α × TransferLedger) :
    Except ServiceError α × Service :=
  (r.1.mapError .transfer, { s with transfers := r.2 })

def ofPipeline (s : Service) (r : Except PipelineError α × Pipeline) :
    Except ServiceError α × Service :=
  (r.1.mapError .pipeline, { s with pipeline := r.2 })

/-! ## Jobs -/

/-- Removes a job and everything that is kept for it: its live transfers are cancelled, then its
transfers, the limits on it and its data operations are dropped. -/
def removeJob (s : Service) (job : JobId) : Except ServiceError Job × Service :=
  match s.registry.removeJob job with
  | (.error e, r) => (.error (.registry e), { s with registry := r })
  | (.ok removed, r) =>
    let (_, cancelled) := s.transfers.cancelAll job
    let (_, transfers) := cancelled.evictJob job
    let (_, limits) := s.limits.purgeJob job
    let (_, pipeline) := s.pipeline.purgeJob job
    (.ok removed, { s with registry := r, transfers, limits, pipeline })

/-- What a starting job learns about its storage: without one, an empty address and no nodes. -/
def query (s : Service) (slurmId : UInt64) : Except ServiceError JobInfo :=
  match s.registry.jobBySlurmId slurmId with
  | .error e => .error (.registry e)
  | .ok job =>
    match job.requirements.adhocStorage.bind s.registry.adhoc.get? with
    | none => .ok ⟨job.id, "", 0⟩
    | some entry =>
      .ok ⟨job.id, entry.context.controllerAddress,
        UInt32.ofNat (min entry.resources.nodes.length (UInt32.size - 1))⟩

/-! ## Transfers -/

/-- The data mover of a job: that of its storage, or the default one. -/
def moverAddress (s : Service) (owner : Job) : Option String :=
  match owner.requirements.adhocStorage.bind s.registry.adhoc.get? with
  | none => s.config.defaultMover
  | some entry =>
    if entry.context.moverAddress.isEmpty then s.config.defaultMover
    else some entry.context.moverAddress

def pendingTransfers (s : Service) (job : JobId) : Except ServiceError (List Transfer) :=
  match s.registry.job job with
  | .error e => .error (.registry e)
  | .ok _ => .ok (s.transfers.pending job)

def statusReply (s : Service) (id : TransferId) (status : TransferStatus) :
    Except ServiceError Reply :=
  match s.transfers.transfer id with
  | .error e => .error (.transfer e)
  | .ok transfer => .ok (.transferStatus status transfer.progress)

def transferStatus (s : Service) (id : TransferId) : Except ServiceError Reply :=
  match s.transfers.transfer id with
  | .error e => .error (.transfer e)
  | .ok transfer => .ok (.transferStatus transfer.status transfer.progress)

/-! ## Limits -/

def setLimit (s : Service) (job : JobId) (limit : Limit) : Except ServiceError Unit × Service :=
  match s.registry.job job with
  | .error e => (.error (.registry e), s)
  | .ok _ =>
    let (_, limits) := s.limits.set limit
    (.ok (), { s with limits })

def getLimits (s : Service) (job : JobId) (scope : LimitScope) (entity : LimitEntity) :
    Except ServiceError (List Limit) :=
  match s.registry.job job with
  | .error e => .error (.registry e)
  | .ok _ => (s.limits.get scope entity).mapError .limit

def removeLimits (s : Service) (job : JobId) (entity : LimitEntity)
    (limitClass : Option LimitClass) : Except ServiceError Nat × Service :=
  match s.registry.job job with
  | .error e => (.error (.registry e), s)
  | .ok _ =>
    let (answer, limits) := s.limits.remove entity limitClass
    (answer.mapError .limit, { s with limits })

/-! ## Data operations -/

/-- Answers a new data operation. A job that is gone by now takes its operations with it. -/
def answerDefined (s : Service) (job : JobId) (operation : DataOperation) :
    Except ServiceError DataOperation × Service :=
  match s.registry.job job with
  | .error e =>
    let (_, pipeline) := s.pipeline.purgeJob job
    (.error (.registry e), { s with pipeline })
  | .ok _ => (.ok operation, s)

def defineOperation (s : Service) (job : JobId) (executable : String)
    (arguments : List Argument) : Except ServiceError DataOperation × Service :=
  match s.registry.job job with
  | .error e => (.error (.registry e), s)
  | .ok _ =>
    match Pipeline.define ⟨s.ids, s.pipeline⟩ job executable arguments with
    | (.error e, n) => (.error (.pipeline e), { s with ids := n.ids, pipeline := n.store })
    | (.ok operation, n) =>
      answerDefined { s with ids := n.ids, pipeline := n.store } job operation

theorem answerDefined_of_registered {s : Service} {job : JobId} {now : Job}
    (found : s.registry.job job = .ok now) (operation : DataOperation) :
    s.answerDefined job operation = (.ok operation, s) := by
  simp only [answerDefined, found]

/-- The call does not wait between its two looks at the job, so the second one finds the job that the
first one has found. -/
theorem defineOperation_eq (s : Service) (job : JobId) (executable : String)
    (arguments : List Argument) :
    s.defineOperation job executable arguments = match s.registry.job job with
      | .error e => (.error (.registry e), s)
      | .ok _ =>
        let (answer, n) := Pipeline.define ⟨s.ids, s.pipeline⟩ job executable arguments
        (answer.mapError .pipeline, { s with ids := n.ids, pipeline := n.store }) := by
  unfold defineOperation
  cases found : s.registry.job job with
  | error e => rfl
  | ok owner =>
      rcases Pipeline.define ⟨s.ids, s.pipeline⟩ job executable arguments with ⟨e | operation, n⟩
      · rfl
      · exact answerDefined_of_registered (s := { s with ids := n.ids, pipeline := n.store })
          found operation

/-- Ties a connected operation to a transfer of the same job that is not terminal. -/
def linkTransfer (s : Service) (job : JobId) (operation : OperationId) (link : Link) :
    Except ServiceError DataOperation × Service :=
  match s.transfers.transfer link.transfer with
  | .error e => (.error (.transfer e), s)
  | .ok transfer =>
    if transfer.jobId ≠ job then (.error (.transferNotInJob link.transfer job), s)
    else if transfer.status.isTerminal then
      (.error (.transferTerminal link.transfer transfer.status), s)
    else s.ofPipeline (s.pipeline.link job operation link)

def countStatus (transfers : List Transfer) (status : TransferStatus) : UInt64 :=
  UInt64.ofNat (transfers.countP fun transfer => transfer.status = status)

def statistics (s : Service) (job : JobId) : Except ServiceError JobStatistics :=
  match s.registry.job job with
  | .error e => .error (.registry e)
  | .ok _ =>
    let transfers := s.transfers.transfersFor job
    .ok {
      pendingTransfers := countStatus transfers .pending
      inProgressTransfers := countStatus transfers .inProgress
      finishedTransfers := countStatus transfers .finished
      failedTransfers := countStatus transfers .failed
      cancelledTransfers := countStatus transfers .cancelled
      dataOperations := UInt64.ofNat (s.pipeline.countForJob job)
      limits := UInt64.ofNat (s.limits.countForJob job) }

end Service

end StorageBroker
