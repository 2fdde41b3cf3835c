import StorageBroker.StatusCode
import StorageBroker.Table
import StorageBroker.Transfer

/-! # The transfer ledger

Transfers by id, an index of the ids of each job, and for each transfer the status that its
waiters watch. A watched status outlives its transfer, so that a waiter learns it even when the
transfer is dropped before the waiter looks. -/

set_option autoImplicit false

namespace StorageBroker

/-- Why a transfer operation is refused. -/
inductive TransferError
  | notFound (transfer : TransferId)
  | notSchedulable (transfer : TransferId) (status : TransferStatus)
  | mappingMismatch (mapping : Mapping) (sources targets : Nat)
  | invalidTransition (transfer : TransferId) (source target : TransferStatus)
  | idsExhausted
  deriving DecidableEq, Repr

namespace TransferError

def code : TransferError → StatusCode
  | .notFound _ | .notSchedulable _ _ => .notFound
  | .mappingMismatch _ _ _ => .badArguments
  | .invalidTransition _ _ _ => .invalidState
  | .idsExhausted => .resourceExhausted

def message : TransferError → String
  | .notFound transfer => s!"transfer {transfer} not found"
  | .notSchedulable transfer status => s!"transfer {transfer} is {status}, not schedulable"
  | .mappingMismatch mapping sources targets =>
    s!"{sources} sources and {targets} targets do not fit mapping " ++ mapping.name
  | .invalidTransition transfer source target =>
    s!"transfer {transfer} cannot move from {source} to {target}"
  | .idsExhausted => "out of identifiers"

end TransferError

/-- Shifts a priority, staying at the end of the range instead of leaving it. -/
def shiftPriority (a b : Int64) : Int64 :=
  let sum := a.toInt + b.toInt
  if sum < Int64.minValue.toInt then Int64.minValue
  else if Int64.maxValue.toInt < sum then Int64.maxValue
  else Int64.ofInt sum

/-- A transfer and its place in the order of creation. -/
structure LedgerEntry where
  transfer : Transfer
  order : Nat
  deriving DecidableEq, Repr

/-- Transfers by id, their ids by job, and the statuses that waiters watch. -/
@[ext]
structure TransferLedger where
  entries : Table TransferId LedgerEntry
  byJob : Table JobId (List TransferId)
  watched : Table TransferId TransferStatus
  created : Nat
  deriving DecidableEq

namespace TransferLedger

def empty : TransferLedger := ⟨.empty, .empty, .empty, 0⟩

instance : Inhabited TransferLedger := ⟨empty⟩

def count (l : TransferLedger) : Nat := l.entries.size

def idsOf (l : TransferLedger) (job : JobId) : List TransferId := (l.byJob.get? job).getD []

def entriesOf (l : TransferLedger) (job : JobId) : List LedgerEntry :=
  (l.idsOf job).filterMap l.entries.get?

def write (l : TransferLedger) (entry : LedgerEntry) (transfer : Transfer) : TransferLedger :=
  { l with entries := l.entries.insert transfer.id { entry with transfer } }

/-- Writes a transfer back and shows its status to the waiters. -/
def publish (l : TransferLedger) (entry : LedgerEntry) (transfer : Transfer) : TransferLedger :=
  { l.write entry transfer with watched := l.watched.insert transfer.id transfer.status }

/-- Creates a pending transfer; its sources and targets must pair up. -/
def create (s : Numbered TransferLedger) (job : JobId) (sources targets : List Dataset)
    (limits : List Limit) (mapping : Mapping) :
    Except TransferError Transfer × Numbered TransferLedger :=
  if mapping.accepts sources.length targets.length then
    match s.ids.allocate with
    | none => (.error .idsExhausted, s)
    | some (raw, ids) =>
      let transfer : Transfer :=
        ⟨⟨raw⟩, job, sources, targets, limits, mapping, 0, .pending, .none⟩
      let l := s.store
      (.ok transfer, ⟨ids, {
        entries := l.entries.insert transfer.id ⟨transfer, l.created⟩
        byJob := l.byJob.insert job (l.idsOf job ++ [transfer.id])
        watched := l.watched.insert transfer.id transfer.status
        created := l.created + 1 }⟩)
  else (.error (.mappingMismatch mapping sources.length targets.length), s)

def transfer (l : TransferLedger) (id : TransferId) : Except TransferError Transfer :=
  match l.entries.get? id with
  | none => .error (.notFound id)
  | some entry => .ok entry.transfer

def transfersFor (l : TransferLedger) (job : JobId) : List Transfer :=
  ((l.entriesOf job).mergeSort fun a b => a.order ≤ b.order).map LedgerEntry.transfer

/-- Whether one entry is listed before another: by descending priority, then by creation. -/
def listedBefore (a b : LedgerEntry) : Bool :=
  b.transfer.priority.toInt < a.transfer.priority.toInt ||
    (a.transfer.priority = b.transfer.priority && a.order ≤ b.order)

def pending (l : TransferLedger) (job : JobId) : List Transfer :=
  (((l.entriesOf job).filter fun entry => !entry.transfer.status.isTerminal).mergeSort
    listedBefore).map LedgerEntry.transfer

def setPriority (l : TransferLedger) (id : TransferId) (delta : Int64) :
    Except TransferError Int64 × TransferLedger :=
  match l.entries.get? id with
  | none => (.error (.notFound id), l)
  | some entry =>
    let transfer := entry.transfer
    if transfer.status = .pending then
      let priority := shiftPriority transfer.priority delta
      (.ok priority, l.write entry { transfer with priority })
    else (.error (.notSchedulable id transfer.status), l)

def priority (l : TransferLedger) (id : TransferId) : Except TransferError Int64 :=
  match l.entries.get? id with
  | none => .error (.notFound id)
  | some entry =>
    if entry.transfer.status.isTerminal then
      .error (.notSchedulable id entry.transfer.status)
    else .ok entry.transfer.priority

/-- Cancels a transfer; cancelling a cancelled one changes nothing. -/
def cancel (l : TransferLedger) (id : TransferId) :
    Except TransferError TransferStatus × TransferLedger :=
  match l.entries.get? id with
  | none => (.error (.notFound id), l)
  | some entry =>
    match entry.transfer.status with
    | .cancelled => (.ok .cancelled, l)
    | .finished | .failed =>
      (.error (.invalidTransition id entry.transfer.status .cancelled), l)
    | .pending | .inProgress =>
      (.ok .cancelled, l.publish entry { entry.transfer with status := .cancelled })

/-- Records what the data mover reports; the status of a live transfer may stay or move forward. -/
def update (l : TransferLedger) (id : TransferId) (status : TransferStatus) (progress : Progress) :
    Except TransferError TransferStatus × TransferLedger :=
  match l.entries.get? id with
  | none => (.error (.notFound id), l)
  | some entry =>
    let transfer := entry.transfer
    if transfer.status.isTerminal || status.rank < transfer.status.rank then
      (.error (.invalidTransition id transfer.status status), l)
    else if transfer.status = status then
      (.ok status, l.write entry { transfer with progress })
    else (.ok status, l.publish entry { transfer with status, progress })

def watch (l : TransferLedger) (id : TransferId) : Except TransferError TransferId :=
  match l.entries.get? id with
  | none => .error (.notFound id)
  | some _ => .ok id

/-- The terminal status that a waiter of a transfer sees, once there is one. -/
def ending? (l : TransferLedger) (id : TransferId) : Option TransferStatus :=
  (l.watched.get? id).filter TransferStatus.isTerminal

def cancelLive (state : Nat × TransferLedger) (id : TransferId) : Nat × TransferLedger :=
  match state.2.entries.get? id with
  | none => state
  | some entry =>
    if entry.transfer.status.isTerminal then state
    else (state.1 + 1, state.2.publish entry { entry.transfer with status := .cancelled })

/-- Cancels every live transfer of a job and counts them. -/
def cancelAll (l : TransferLedger) (job : JobId) : Nat × TransferLedger :=
  (l.idsOf job).foldl cancelLive (0, l)

def isEnded (l : TransferLedger) (id : TransferId) : Bool := (l.ending? id).isSome

/-- Drops the terminal transfers of a job and counts them. -/
def evictJob (l : TransferLedger) (job : JobId) : Nat × TransferLedger :=
  match l.byJob.get? job with
  | none => (0, l)
  | some ids =>
    let tracked := ids.filter l.entries.contains
    let dropped := tracked.filter l.isEnded
    let kept := tracked.filter fun id => !l.isEnded id
    (dropped.length, { l with
      entries := dropped.foldl Table.erase l.entries
      byJob := if kept.isEmpty then l.byJob.erase job else l.byJob.insert job kept })

/-! ## Operations as data -/

inductive Operation
  | create (job : JobId) (sources targets : List Dataset) (limits : List Limit) (mapping : Mapping)
  | transfer (transfer : TransferId)
  | transfersFor (job : JobId)
  | pending (job : JobId)
  | setPriority (transfer : TransferId) (delta : Int64)
  | priority (transfer : TransferId)
  | cancel (transfer : TransferId)
  | update (transfer : TransferId) (status : TransferStatus) (progress : Progress)
  | wait (transfer : TransferId)
  | cancelAll (job : JobId)
  | evictJob (job : JobId)
  deriving DecidableEq, Repr

/-- What an operation answers; `blocked` is a wait for a transfer that is not terminal. -/
inductive Answer
  | transfer (transfer : Transfer)
  | transfers (transfers : List Transfer)
  | priority (value : Int64)
  | status (status : TransferStatus)
  | blocked
  | count (n : Nat)
  deriving DecidableEq, Repr

def apply (s : Numbered TransferLedger) :
    Operation → Except TransferError Answer × Numbered TransferLedger
  | .create job sources targets limits mapping =>
    let (answer, s) := create s job sources targets limits mapping
    (answer.map .transfer, s)
  | .transfer id => ((s.store.transfer id).map .transfer, s)
  | .transfersFor job => (.ok (.transfers (s.store.transfersFor job)), s)
  | .pending job => (.ok (.transfers (s.store.pending job)), s)
  | .setPriority id delta =>
    let (answer, l) := s.store.setPriority id delta
    (answer.map .priority, ⟨s.ids, l⟩)
  | .priority id => ((s.store.priority id).map .priority, s)
  | .cancel id =>
    let (answer, l) := s.store.cancel id
    (answer.map .status, ⟨s.ids, l⟩)
  | .update id status progress =>
    let (answer, l) := s.store.update id status progress
    (answer.map .status, ⟨s.ids, l⟩)
  | .wait id =>
    ((s.store.watch id).map fun id => ((s.store.ending? id).map .status).getD .blocked, s)
  | .cancelAll job =>
    let (n, l) := s.store.cancelAll job
    (.ok (.count n), ⟨s.ids, l⟩)
  | .evictJob job =>
    let (n, l) := s.store.evictJob job
    (.ok (.count n), ⟨s.ids, l⟩)

def run (s : Numbered TransferLedger) (history : List Operation) : Numbered TransferLedger :=
  history.foldl (fun s op => (apply s op).2) s

end TransferLedger

end StorageBroker
