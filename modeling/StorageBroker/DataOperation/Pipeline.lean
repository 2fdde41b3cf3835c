import StorageBroker.DataOperation
import StorageBroker.StatusCode
import StorageBroker.Table
import StorageBroker.Text.Blank

/-! # The pipeline of data operations

Data operations by id, each moved along its stages by the job that defined it. To any other job an
operation does not exist. -/

set_option autoImplicit false

namespace StorageBroker

/-- The steps that a stage can forbid. -/
inductive PipelineStep
  | connect
  | link
  | finalize
  deriving DecidableEq, Repr

def PipelineStep.name : PipelineStep → String
  | .connect => "connect"
  | .link => "link"
  | .finalize => "finalize"

inductive PipelineError
  | notFound (job : JobId) (operation : OperationId)
  | invalidState (operation : OperationId) (status : OperationStatus) (step : PipelineStep)
  | emptyExecutable
  | idsExhausted
  deriving DecidableEq, Repr

namespace PipelineError

def code : PipelineError → StatusCode
  | .notFound _ _ => .notFound
  | .invalidState _ _ _ => .invalidState
  | .emptyExecutable => .badArguments
  | .idsExhausted => .resourceExhausted

def message : PipelineError → String
  | .notFound job operation => s!"data operation {operation} not found for job {job}"
  | .invalidState operation status step =>
    s!"data operation {operation} is {status}, cannot " ++ step.name
  | .emptyExecutable => "bad arguments: empty executable path"
  | .idsExhausted => "out of identifiers"

end PipelineError

@[ext]
structure Pipeline where
  operations : Table OperationId DataOperation
  deriving DecidableEq

namespace Pipeline

def empty : Pipeline := ⟨.empty⟩

instance : Inhabited Pipeline := ⟨empty⟩

def define (s : Numbered Pipeline) (job : JobId) (executable : String)
    (arguments : List Argument) : Except PipelineError DataOperation × Numbered Pipeline :=
  if Text.isBlank executable then (.error .emptyExecutable, s)
  else
    match s.ids.allocate with
    | none => (.error .idsExhausted, s)
    | some (raw, ids) =>
      let operation : DataOperation :=
        ⟨⟨raw⟩, job, executable, arguments, .defined, none, none, none⟩
      (.ok operation, ⟨ids, ⟨s.store.operations.insert operation.id operation⟩⟩)

def get (p : Pipeline) (job : JobId) (id : OperationId) : Except PipelineError DataOperation :=
  match p.operations.get? id with
  | none => .error (.notFound job id)
  | some operation =>
    if operation.jobId = job then .ok operation else .error (.notFound job id)

def connect (p : Pipeline) (job : JobId) (id : OperationId) (connection : Connection) :
    Except PipelineError DataOperation × Pipeline :=
  match p.get job id with
  | .error e => (.error e, p)
  | .ok operation =>
    match operation.status with
    | .defined =>
      let connected := { operation with status := .connected, connection := some connection }
      (.ok connected, ⟨p.operations.insert id connected⟩)
    | status => (.error (.invalidState id status .connect), p)

def link (p : Pipeline) (job : JobId) (id : OperationId) (link : Link) :
    Except PipelineError DataOperation × Pipeline :=
  match p.get job id with
  | .error e => (.error e, p)
  | .ok operation =>
    match operation.status with
    | .connected =>
      let linked := { operation with status := .linked, link := some link }
      (.ok linked, ⟨p.operations.insert id linked⟩)
    | status => (.error (.invalidState id status .link), p)

def finalizable (p : Pipeline) (job : JobId) (id : OperationId) :
    Except PipelineError DataOperation :=
  match p.get job id with
  | .error e => .error e
  | .ok operation =>
    match operation.status with
    | .connected | .linked => .ok operation
    | status => .error (.invalidState id status .finalize)

/-- Records the outcome of a connected or linked operation. -/
def finalize (p : Pipeline) (job : JobId) (id : OperationId) (outcome : OperationOutcome) :
    Except PipelineError OperationOutcome × Pipeline :=
  match p.get job id with
  | .error e => (.error e, p)
  | .ok operation =>
    if operation.status.isFinalizable then
      (.ok outcome,
        ⟨p.operations.insert id { operation with status := .finalized, outcome := some outcome }⟩)
    else (.error (.invalidState id operation.status .finalize), p)

def countForJob (p : Pipeline) (job : JobId) : Nat :=
  (p.operations.values.filter fun operation => operation.jobId = job).length

def purgeJob (p : Pipeline) (job : JobId) : Nat × Pipeline :=
  let rest := p.operations.filter fun _ operation => operation.jobId ≠ job
  (p.operations.size - rest.size, ⟨rest⟩)

/-! ## Operations as data -/

inductive Operation
  | define (job : JobId) (executable : String) (arguments : List Argument)
  | connect (job : JobId) (operation : OperationId) (connection : Connection)
  | link (job : JobId) (operation : OperationId) (link : Link)
  | finalizable (job : JobId) (operation : OperationId)
  | finalize (job : JobId) (operation : OperationId) (outcome : OperationOutcome)
  | get (job : JobId) (operation : OperationId)
  | countForJob (job : JobId)
  | purgeJob (job : JobId)
  deriving DecidableEq, Repr

inductive Answer
  | operation (operation : DataOperation)
  | outcome (outcome : OperationOutcome)
  | count (n : Nat)
  deriving DecidableEq, Repr

def apply (s : Numbered Pipeline) : Operation → Except PipelineError Answer × Numbered Pipeline
  | .define job executable arguments =>
    let (answer, s) := define s job executable arguments
    (answer.map .operation, s)
  | .connect job id connection =>
    let (answer, p) := s.store.connect job id connection
    (answer.map .operation, ⟨s.ids, p⟩)
  | .link job id link =>
    let (answer, p) := s.store.link job id link
    (answer.map .operation, ⟨s.ids, p⟩)
  | .finalizable job id => ((s.store.finalizable job id).map .operation, s)
  | .finalize job id outcome =>
    let (answer, p) := s.store.finalize job id outcome
    (answer.map .outcome, ⟨s.ids, p⟩)
  | .get job id => ((s.store.get job id).map .operation, s)
  | .countForJob job => (.ok (.count (s.store.countForJob job)), s)
  | .purgeJob job =>
    let (n, p) := s.store.purgeJob job
    (.ok (.count n), ⟨s.ids, p⟩)

def run (s : Numbered Pipeline) (history : List Operation) : Numbered Pipeline :=
  history.foldl (fun s op => (apply s op).2) s

end Pipeline

end StorageBroker
