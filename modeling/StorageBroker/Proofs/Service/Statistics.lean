import Mathlib.Data.List.Induction
import StorageBroker.Proofs.DataOperation.Count
import StorageBroker.Proofs.Limit.Map
import StorageBroker.Proofs.Service.Creation
import StorageBroker.Proofs.Service.OperationFate
import StorageBroker.Proofs.Transfer.Clearing

/-! # What the counters of a job count

The counters of a job are computed anew from the ledger, the pipeline and the limits each time. On
the other hand a history tells which transfers and operations it has created for the job. As long as
the job is registered nothing that is its own is dropped, so what is on record for it is what was
created for it, and each counter is the length of a list. -/

set_option autoImplicit false

namespace StorageBroker

/-! ## Whom a transfer or an operation is for -/

def Entity.transfer? : Entity → Option TransferId
  | .transfer id => some id
  | .job _ | .adhoc _ | .pfs _ | .operation _ => none

def Entity.operation? : Entity → Option OperationId
  | .operation id => some id
  | .job _ | .adhoc _ | .pfs _ | .transfer _ => none

/-- The job that a request is to create a transfer or a data operation for. -/
def Request.owner? : Request → Option JobId
  | .transferDatasets job _ _ _ _ | .defineDataOperation job _ _ => some job
  | _ => none

/-- The job that an event is to create a transfer or a data operation for. -/
def Event.owner? : Event → Option JobId
  | .call (.request request) => request.owner?
  | .call .shutdown | .answer _ _ | .wake _ | .expire _ => none

namespace Service

/-- The job that a transfer or a data operation on record is for. -/
def owner? (s : Service) : Entity → Option JobId
  | .transfer id => (s.transfers.entries.get? id).map fun entry => entry.transfer.jobId
  | .operation id => (s.pipeline.operations.get? id).map fun operation => operation.jobId
  | .job _ | .adhoc _ | .pfs _ => none

variable {allowed : Registry.Operation → Prop} {s s' : Service} {e : Entity} {job : JobId}

theorem keeps_iff_owner? (owned : (s'.owner? e).isSome) : s.keeps e = (s.owner? e).isSome := by
  cases e with
  | transfer id | operation id => simp [keeps, owner?, Table.contains]
  | job id | adhoc id | pfs id => exact absurd owned (by simp [owner?])

theorem Coherent.registered_of_owner? (coherent : Coherent s) (mine : s.owner? e = some job) :
    s.Registered job := by
  cases e with
  | transfer id =>
      obtain ⟨entry, found, rfl⟩ := Option.map_eq_some_iff.mp mine
      exact coherent.owned id entry found
  | operation id =>
      obtain ⟨operation, found, rfl⟩ := Option.map_eq_some_iff.mp mine
      exact coherent.operated id operation found
  | job id | adhoc id | pfs id => cases mine

/-- What is on record for a job stays on record for it, or both are gone. -/
theorem Changes.owner? (changes : Changes allowed s s') (orderly : Orderly s)
    (coherent : Coherent s) (mine : s.owner? e = some job) :
    s'.owner? e = some job ∨ (s'.owner? e = none ∧ ¬ s'.Registered job) := by
  cases e with
  | transfer id =>
      obtain ⟨entry, found, rfl⟩ := Option.map_eq_some_iff.mp mine
      cases changes.fate orderly coherent found with
      | tracked now still task frozen => exact .inl (by simp [Service.owner?, still, task.jobId])
      | dropped status untracked unregistered ended frozen =>
          exact .inr ⟨by simp [Service.owner?, untracked], unregistered⟩
  | operation id =>
      obtain ⟨operation, found, rfl⟩ := Option.map_eq_some_iff.mp mine
      cases changes.operationFate orderly coherent found with
      | recorded now still later => exact .inl (by simp [Service.owner?, still, later.jobId])
      | dropped gone unregistered => exact .inr ⟨by simp [Service.owner?, gone], unregistered⟩
  | job id | adhoc id | pfs id => cases mine

/-- What a request creates for a job is on record for that job. -/
theorem owner?_of_created {request : Request} (asked : request.owner? = some job)
    (made : request.created? (s.startRequest request).1 = some e) :
    (s.startRequest request).2.owner? e = some job := by
  cases request with
  | transferDatasets owner sources targets limits mapping =>
      obtain rfl := Option.some.inj asked
      simp only [startRequest] at made ⊢
      rcases s.startDispatch_outcome owner sources targets limits mapping with
        ⟨e, refused⟩ | ⟨holder, transfer, n, found, created⟩
      · rw [refused] at made
        cases made
      · rw [startDispatch_of_created found created] at made ⊢
        obtain ⟨shape, -, -, tracked⟩ := TransferLedger.create_ok created
        obtain rfl : Entity.transfer transfer.id = e := by
          cases mover : s.moverAddress holder <;> rw [mover] at made <;> exact Option.some.inj made
        simp only [Service.owner?, tracked, Option.map_some]
        rw [shape]
  | defineDataOperation owner executable arguments =>
      obtain rfl := Option.some.inj asked
      simp only [startRequest, finish, defineOperation_eq] at made ⊢
      cases found : s.registry.job owner with
      | error e =>
          rw [found] at made
          cases made
      | ok holder =>
          rw [found] at made
          rcases Pipeline.define_outcome ⟨s.ids, s.pipeline⟩ owner executable arguments with
            ⟨e, refused⟩ | ⟨raw, ids, drawn, done⟩
          · rw [refused] at made
            cases made
          · rw [done] at made ⊢
            obtain rfl := Option.some.inj made
            simp [Service.owner?]
  | _ => cases asked

/-- Transfers and operations are created by the requests that are made for a job. -/
theorem asked_of_created {request : Request} {state : CallState}
    (made : request.created? state = some e) (owned : (s.owner? e).isSome) :
    ∃ job, request.owner? = some job := by
  unfold Request.created? at made
  split at made
  · obtain rfl := Option.some.inj made
    cases owned
  · obtain rfl := Option.some.inj made
    cases owned
  · obtain rfl := Option.some.inj made
    cases owned
  · exact ⟨_, rfl⟩
  · exact ⟨_, rfl⟩
  · exact ⟨_, rfl⟩
  · cases made

theorem Change.preserves_single (change : Change allowed s s') (orderly : Orderly s)
    (single : s.transfers.Single) : s'.transfers.Single := by
  cases change with
  | jobRemoved registered => exact TransferLedger.dropJob_preserves_single single _
  | transfers registered effect =>
      exact effect.preserves_single orderly.transfers orderly.sound single
  | registry may stays effect | operations registered tied effect | limitSet registered limit
  | limitsRemoved registered entity limitClass => exact single

end Service

namespace Machine

theorem run_single (config : ServiceConfig) (history : List Event) :
    ((fresh config).run history).service.transfers.Single := by
  have kept : ∀ s s', Service.Change (fun _ => True) s s' →
      s.Orderly ∧ s.transfers.Single → s'.Orderly ∧ s'.transfers.Single := by
    rintro s s' change ⟨orderly, single⟩
    exact ⟨change.preserves_orderly orderly, change.preserves_single orderly single⟩
  exact (((fresh config).run_changes history).invariant kept
    ⟨Service.orderly_fresh config, TransferLedger.single_empty⟩).2

/-! ## What a history creates for a job -/

/-- The transfer or operation that an event creates for a job. -/
def createdFor? (m : Machine) (job : JobId) (event : Event) : Option Entity :=
  if event.owner? = some job then m.created? event else none

/-- The transfers and operations created for a job during a history, the oldest first. -/
def createdFor (m : Machine) (job : JobId) : List Event → List Entity
  | [] => []
  | event :: rest => (m.createdFor? job event).toList ++ (m.step event).createdFor job rest

def transfersFor (m : Machine) (job : JobId) (history : List Event) : List TransferId :=
  (m.createdFor job history).filterMap Entity.transfer?

/-- The data operations ever defined for a job. -/
def operationsFor (m : Machine) (job : JobId) (history : List Event) : List OperationId :=
  (m.createdFor job history).filterMap Entity.operation?

theorem createdFor_append (m : Machine) (job : JobId) (first last : List Event) :
    m.createdFor job (first ++ last) =
      m.createdFor job first ++ (m.run first).createdFor job last :=
  @collect_append _ (fun m => m.createdFor job) _ (fun _ => rfl) (fun _ _ _ => rfl) m first last

theorem createdFor_concat (m : Machine) (job : JobId) (history : List Event) (event : Event) :
    m.createdFor job (history ++ [event]) =
      m.createdFor job history ++ ((m.run history).createdFor? job event).toList := by
  rw [createdFor_append]
  exact congrArg _ (List.append_nil _)

theorem createdFor_sublist (m : Machine) (job : JobId) (history : List Event) :
    (m.createdFor job history).Sublist (m.created history) := by
  induction history generalizing m with
  | nil => exact .slnil
  | cons event rest ih =>
      refine List.Sublist.append ?_ (ih (m.step event))
      unfold createdFor?
      split
      · exact .refl _
      · exact List.nil_sublist _

theorem owner?_of_createdFor? {m : Machine} {job : JobId} {event : Event} {e : Entity}
    (made : m.createdFor? job event = some e) : (m.step event).service.owner? e = some job := by
  unfold createdFor? at made
  split at made
  · rename_i asked
    cases event with
    | call call =>
        cases call with
        | request request =>
            rw [step, settle_service]
            exact Service.owner?_of_created asked made
        | shutdown => cases asked
    | answer id result | wake id | expire id => cases asked
  · cases made

/-- What is on record for a job was there before the event, or the event has created it for the
job. -/
theorem createdFor?_of_owner? {m : Machine} (orderly : m.service.Orderly)
    (coherent : m.service.Coherent) {job : JobId} {event : Event} {e : Entity}
    (mine : (m.step event).service.owner? e = some job) :
    m.service.owner? e = some job ∨ m.createdFor? job event = some e := by
  have owned : ((m.step event).service.owner? e).isSome := by rw [mine]; rfl
  have kept := (m.step_step event).gains orderly |>.kept e
    ((Service.keeps_iff_owner? owned).trans owned)
  rcases kept with before | made
  · left
    rw [Service.keeps_iff_owner? owned] at before
    obtain ⟨holder, known⟩ := Option.isSome_iff_exists.mp before
    rcases (m.step_changes event).owner? orderly coherent known with same | ⟨gone, -⟩
    · rw [known, ← same, mine]
    · exact absurd (gone.symm.trans mine) (by simp)
  · right
    cases event with
    | call call =>
        cases call with
        | request request =>
            obtain ⟨holder, asked⟩ := Service.asked_of_created made owned
            have his : (m.step (.call (.request request))).service.owner? e = some holder := by
              rw [step, settle_service]
              exact Service.owner?_of_created asked made
            obtain rfl := Option.some.inj (his.symm.trans mine)
            exact (if_pos asked).trans made
        | shutdown => cases made
    | answer id result | wake id | expire id => cases made

section

variable (config : ServiceConfig) (history : List Event)

theorem mem_createdFor_of_owner? {job : JobId} {e : Entity}
    (mine : ((fresh config).run history).service.owner? e = some job) :
    e ∈ (fresh config).createdFor job history := by
  induction history using List.reverseRecOn with
  | nil => cases e <;> cases mine
  | append_singleton history event ih =>
      rw [createdFor_concat, List.mem_append, Option.mem_toList]
      rw [run_append] at mine
      exact (createdFor?_of_owner? (run_orderly config history) (run_coherent config history)
        mine).imp ih id

/-- What was created for a job is on record for it, unless the job is gone for good. -/
theorem owner?_of_mem_createdFor {job : JobId} {e : Entity}
    (made : e ∈ (fresh config).createdFor job history) :
    let s := ((fresh config).run history).service
    s.owner? e = some job ∨ (¬ s.Registered job ∧ job.raw.toNat ≤ s.ids.issued) := by
  induction history using List.reverseRecOn with
  | nil => exact absurd made List.not_mem_nil
  | append_singleton history event ih =>
      rw [createdFor_concat, List.mem_append, Option.mem_toList] at made
      rw [run_append]
      have orderly := run_orderly config history
      have coherent := run_coherent config history
      have changes := ((fresh config).run history).step_changes event
      have later := (changes.draws orderly).registry.later
      rcases made with old | new
      · rcases ih old with mine | ⟨gone, spent⟩
        · have spent := orderly.registry.jobs job (coherent.registered_of_owner? mine)
          rcases changes.owner? orderly coherent mine with still | ⟨-, gone⟩
          · exact .inl still
          · exact .inr ⟨gone, Nat.le_trans spent later⟩
        · exact .inr ⟨changes.unregistered orderly gone spent, Nat.le_trans spent later⟩
      · exact .inl (owner?_of_createdFor? new)

/-- While a job is registered, what is on record for it is what was created for it. -/
theorem mem_createdFor_iff {job : JobId}
    (registered : ((fresh config).run history).service.Registered job) (e : Entity) :
    e ∈ (fresh config).createdFor job history ↔
      ((fresh config).run history).service.owner? e = some job := by
  refine ⟨fun made => ?_, mem_createdFor_of_owner? config history⟩
  rcases owner?_of_mem_createdFor config history made with mine | ⟨gone, -⟩
  · exact mine
  · exact absurd registered gone

theorem createdFor_nodup (job : JobId) : ((fresh config).createdFor job history).Nodup := by
  have ordered := (run_accounts config history).ordered
  refine List.Nodup.sublist (createdFor_sublist _ job history) (ordered.imp fun less same => ?_)
  rw [same] at less
  exact UInt64.lt_irrefl _ less

theorem transfersFor_nodup (job : JobId) : ((fresh config).transfersFor job history).Nodup := by
  refine (createdFor_nodup config history job).filterMap fun e e' id named named' => ?_
  cases e <;> cases e' <;> simp_all [Entity.transfer?]

theorem operationsFor_nodup (job : JobId) : ((fresh config).operationsFor job history).Nodup := by
  refine (createdFor_nodup config history job).filterMap fun e e' id named named' => ?_
  cases e <;> cases e' <;> simp_all [Entity.operation?]

theorem mem_transfersFor {m : Machine} {job : JobId} {history : List Event} {id : TransferId} :
    id ∈ m.transfersFor job history ↔ .transfer id ∈ m.createdFor job history := by
  rw [transfersFor, List.mem_filterMap]
  refine ⟨?_, fun made => ⟨_, made, rfl⟩⟩
  rintro ⟨e, made, named⟩
  cases e with
  | transfer other => exact Option.some.inj named ▸ made
  | job id | adhoc id | pfs id | operation id => cases named

theorem mem_operationsFor {m : Machine} {job : JobId} {history : List Event} {id : OperationId} :
    id ∈ m.operationsFor job history ↔ .operation id ∈ m.createdFor job history := by
  rw [operationsFor, List.mem_filterMap]
  refine ⟨?_, fun made => ⟨_, made, rfl⟩⟩
  rintro ⟨e, made, named⟩
  cases e with
  | operation other => exact Option.some.inj named ▸ made
  | job id | adhoc id | pfs id | transfer id => cases named

/-- There are fewer entities than numbers: each has a number that none before it has reached. -/
theorem length_created_lt : ((fresh config).created history).length < UInt64.size := by
  induction history using List.reverseRecOn with
  | nil => exact Nat.two_pow_pos 64
  | append_singleton history event ih =>
      rw [created_append, List.length_append]
      cases made : ((fresh config).run history).created? event with
      | none => simpa [created, made] using ih
      | some e =>
          have gains := (((fresh config).run history).step_step event).gains
            (run_orderly config history)
          have number := gains.number e made
          have count := (run_accounts config history).count
          have word := e.raw.toNat_lt
          simp only [created, made, Option.toList_some, List.append_nil, List.length_singleton]
          simp only [UInt64.size]
          omega

theorem length_createdFor_lt (job : JobId) :
    ((fresh config).createdFor job history).length < UInt64.size :=
  Nat.lt_of_le_of_lt (createdFor_sublist _ job history).length_le (length_created_lt config history)

end

end Machine

/-! ## The three stores -/

theorem LimitStore.get_job (s : LimitStore) (job : JobId) :
    ∃ limits, s.get .job (.job job) = .ok limits ∧ limits.length = s.countForJob job ∧
      s.countForJob job ≤ LimitClass.all.length := by
  refine ⟨_, if_pos rfl, ?_⟩
  have size : (LimitClass.all.filterMap (s.classes (.job job)).get?).length = s.countForJob job :=
    Table.length_filterMap_get? (by decide) LimitClass.mem_all
  refine ⟨?_, size ▸ List.length_filterMap_le _ _⟩
  rw [← size, List.length_filterMap_eq_countP, List.length_filterMap_eq_countP]
  simp

namespace TransferLedger

theorem sum_countP_status (transfers : List Transfer) :
    (transfers.countP fun t => t.status = .pending) +
      (transfers.countP fun t => t.status = .inProgress) +
      (transfers.countP fun t => t.status = .finished) +
      (transfers.countP fun t => t.status = .failed) +
      (transfers.countP fun t => t.status = .cancelled) = transfers.length := by
  induction transfers with
  | nil => rfl
  | cons t rest ih =>
      simp only [List.countP_cons, List.length_cons]
      cases t.status <;> simp <;> omega

theorem countP_live (transfers : List Transfer) :
    (transfers.countP fun t => t.status = .pending) +
      (transfers.countP fun t => t.status = .inProgress) =
      transfers.countP fun t => !t.status.isTerminal := by
  induction transfers with
  | nil => rfl
  | cons t rest ih =>
      simp only [List.countP_cons, ← ih]
      cases t.status <;> simp [TransferStatus.isTerminal] <;> omega

theorem length_pending_eq (l : TransferLedger) (job : JobId) :
    (l.pending job).length = (l.transfersFor job).countP fun t => !t.status.isTerminal := by
  rw [length_pending, countP_transfersFor]
  rfl

end TransferLedger

/-! ## The counters -/

namespace Service

/-- The counters of a job, whether it is registered or not. -/
def counters (s : Service) (job : JobId) : JobStatistics where
  pendingTransfers := countStatus (s.transfers.transfersFor job) .pending
  inProgressTransfers := countStatus (s.transfers.transfersFor job) .inProgress
  finishedTransfers := countStatus (s.transfers.transfersFor job) .finished
  failedTransfers := countStatus (s.transfers.transfersFor job) .failed
  cancelledTransfers := countStatus (s.transfers.transfersFor job) .cancelled
  dataOperations := UInt64.ofNat (s.pipeline.countForJob job)
  limits := UInt64.ofNat (s.limits.countForJob job)

theorem statistics_eq_ok {s : Service} {job : JobId} {told : JobStatistics} :
    s.statistics job = .ok told ↔ s.Registered job ∧ s.counters job = told := by
  unfold statistics
  rw [registered_iff]
  cases s.registry.job job <;> simp [counters]

theorem toNat_countStatus {transfers : List Transfer} (few : transfers.length < UInt64.size)
    (status : TransferStatus) :
    (countStatus transfers status).toNat = transfers.countP fun t => t.status = status :=
  UInt64.toNat_ofNat_of_lt' (Nat.lt_of_le_of_lt List.countP_le_length few)

end Service

namespace Machine

section

variable (config : ServiceConfig) (history : List Event) {job : JobId}
  (registered : ((fresh config).run history).service.Registered job)
include registered

theorem length_transfersFor :
    (((fresh config).run history).service.transfers.transfersFor job).length =
      ((fresh config).transfersFor job history).length := by
  have sound := (run_orderly config history).sound
  have listed := TransferLedger.transfersFor_nodup sound (run_single config history) job
  have perm := (List.perm_ext_iff_of_nodup listed (transfersFor_nodup config history job)).mpr
    fun id => by
      rw [TransferLedger.mem_ids_transfersFor sound, mem_transfersFor,
        mem_createdFor_iff config history registered]
      simp [Service.owner?, TransferLedger.transfer_eq_ok]
  simpa using perm.length_eq

theorem countForJob_operations :
    ((fresh config).run history).service.pipeline.countForJob job =
      ((fresh config).operationsFor job history).length := by
  refine Table.length_filter_values (operationsFor_nodup config history job) fun id => ?_
  rw [mem_operationsFor, mem_createdFor_iff config history registered]
  simp [Service.owner?]

theorem length_transfersFor_lt :
    (((fresh config).run history).service.transfers.transfersFor job).length < UInt64.size := by
  rw [length_transfersFor config history registered]
  exact Nat.lt_of_le_of_lt (List.length_filterMap_le _ _) (length_createdFor_lt config history job)

end

/-- The transfers of a job that have ended in some way are still there later, ended in that way. -/
theorem countP_ended_le (config : ServiceConfig) (before after : List Event) {job : JobId}
    (registered : ((fresh config).run (before ++ after)).service.Registered job)
    {status : TransferStatus} (ended : status.isTerminal = true) :
    (((fresh config).run before).service.transfers.transfersFor job).countP
        (fun t => t.status = status) ≤
      (((fresh config).run (before ++ after)).service.transfers.transfersFor job).countP
        fun t => t.status = status := by
  have sound := (run_orderly config before).sound
  have distinct := (TransferLedger.transfersFor_nodup sound (run_single config before) job).of_map
  rw [List.countP_eq_length_filter, List.countP_eq_length_filter]
  refine (List.subperm_of_subset (distinct.filter _) fun t listed => ?_).length_le
  obtain ⟨listed, same⟩ := List.mem_filter.mp listed
  obtain ⟨tracked, mine⟩ := (TransferLedger.mem_transfersFor sound).mp listed
  obtain ⟨entry, found, rfl⟩ := TransferLedger.transfer_eq_ok.mp tracked
  have terminal : entry.transfer.status.isTerminal = true := by rw [of_decide_eq_true same, ended]
  refine List.mem_filter.mpr ⟨?_, same⟩
  rw [TransferLedger.mem_transfersFor (run_orderly config (before ++ after)).sound]
  cases run_fate config before after found with
  | tracked now still task frozen =>
      rw [frozen terminal] at still
      exact ⟨TransferLedger.transfer_eq_ok.mpr ⟨entry, still, rfl⟩, mine⟩
  | dropped status untracked unregistered seen frozen =>
      exact absurd registered (mine ▸ unregistered)

/-- In every state that a service reaches, the counters of each registered job account for all that
was ever created for it:

* the five counters of transfers add up to the number of transfers created for the job, and those of
  the pending and the running ones to the length of the list of pending transfers;
* the counter of operations is the number of operations defined for the job;
* the counter of limits is the length of the list of its limits, whoever asks for that list;
* the counters of finished, failed and cancelled transfers are not greater than in any later state
  in which the job is registered still. -/
theorem statistics_account_for_job (config : ServiceConfig) (history : List Event) :
    let start := fresh config
    let s := (start.run history).service
    ∀ job owner, s.registry.job job = .ok owner → ∃ counters, s.statistics job = .ok counters ∧
      counters.pendingTransfers.toNat + counters.inProgressTransfers.toNat +
        counters.finishedTransfers.toNat + counters.failedTransfers.toNat +
        counters.cancelledTransfers.toNat = (start.transfersFor job history).length ∧
      (∃ pending, s.pendingTransfers job = .ok pending ∧
        counters.pendingTransfers.toNat + counters.inProgressTransfers.toNat = pending.length) ∧
      counters.dataOperations.toNat = (start.operationsFor job history).length ∧
      (∀ asker holder, s.registry.job asker = .ok holder →
        ∃ limits, s.getLimits asker .job (.job job) = .ok limits ∧
          counters.limits.toNat = limits.length) ∧
      ∀ more later, (start.run (history ++ more)).service.statistics job = .ok later →
        counters.finishedTransfers ≤ later.finishedTransfers ∧
        counters.failedTransfers ≤ later.failedTransfers ∧
        counters.cancelledTransfers ≤ later.cancelledTransfers := by
  intro start s job owner found
  have registered : s.Registered job := Service.registered_of_job found
  have few : (s.transfers.transfersFor job).length < UInt64.size :=
    length_transfersFor_lt config history registered
  refine ⟨s.counters job, Service.statistics_eq_ok.mpr ⟨registered, rfl⟩, ?_, ?_, ?_, ?_, ?_⟩
  · simp only [Service.counters, Service.toNat_countStatus few]
    rw [TransferLedger.sum_countP_status, length_transfersFor config history registered]
  · refine ⟨s.transfers.pending job, by simp only [Service.pendingTransfers, found], ?_⟩
    simp only [Service.counters, Service.toNat_countStatus few]
    rw [TransferLedger.countP_live, TransferLedger.length_pending_eq]
  · have defined := countForJob_operations config history registered
    have most := Nat.lt_of_le_of_lt (List.length_filterMap_le Entity.operation? _)
      (length_createdFor_lt config history job)
    rw [← defined]
    exact UInt64.toNat_ofNat_of_lt' (defined ▸ most)
  · intro asker holder known
    obtain ⟨limits, listed, length, most⟩ := s.limits.get_job job
    refine ⟨limits, by simp only [Service.getLimits, known, listed]; rfl, ?_⟩
    rw [length]
    exact UInt64.toNat_ofNat_of_lt' (Nat.lt_of_le_of_lt most (by decide))
  · intro more later told
    obtain ⟨registered', rfl⟩ := Service.statistics_eq_ok.mp told
    have few' := length_transfersFor_lt config (history ++ more) registered'
    have rises : ∀ status : TransferStatus, status.isTerminal = true →
        Service.countStatus (s.transfers.transfersFor job) status ≤ Service.countStatus
          ((start.run (history ++ more)).service.transfers.transfersFor job) status := by
      intro status ended
      rw [UInt64.le_iff_toNat_le, Service.toNat_countStatus few, Service.toNat_countStatus few']
      exact countP_ended_le config history more registered' ended
    exact ⟨rises .finished rfl, rises .failed rfl, rises .cancelled rfl⟩

/-- A job has two transfers, one of them cancelled, an operation and a limit. When the other
transfer ends too, the one that is cancelled is counted as before. -/
theorem counters_of_busy_job :
    let history : List Event := [
      .call (.request (.registerJob 10 ⟨[]⟩ ⟨[], [], [], none⟩)),
      .call (.request (.transferDatasets ⟨1⟩ [⟨"a"⟩] [⟨"b"⟩] [] .oneToOne)),
      .call (.request (.transferDatasets ⟨1⟩ [⟨"c"⟩] [⟨"d"⟩] [] .oneToOne)),
      .call (.request (.defineDataOperation ⟨1⟩ "sort" [])),
      .call (.request (.setLimit ⟨1⟩ ⟨.job ⟨1⟩, .iops, 100⟩)),
      .call (.request (.cancelTransfer ⟨3⟩))]
    let more : List Event := [
      .call (.request (.transferUpdate ⟨2⟩ .finished ⟨7, none, none⟩))]
    let start := fresh .standard
    start.transfersFor ⟨1⟩ history = [⟨2⟩, ⟨3⟩] ∧ start.operationsFor ⟨1⟩ history = [⟨4⟩] ∧
    ∃ counters later, (start.run history).service.statistics ⟨1⟩ = .ok counters ∧
      counters.pendingTransfers.toNat + counters.inProgressTransfers.toNat +
        counters.finishedTransfers.toNat + counters.failedTransfers.toNat +
        counters.cancelledTransfers.toNat = 2 ∧
      counters.dataOperations.toNat = 1 ∧ counters.limits.toNat = 1 ∧
      (start.run (history ++ more)).service.statistics ⟨1⟩ = .ok later ∧
      counters.cancelledTransfers ≤ later.cancelledTransfers := by
  intro history more start
  have made : start.transfersFor ⟨1⟩ history = [⟨2⟩, ⟨3⟩] := by decide +kernel
  have defined : start.operationsFor ⟨1⟩ history = [⟨4⟩] := by decide +kernel
  obtain ⟨counters, told, sum, -, operations, limits, rises⟩ :=
    statistics_account_for_job .standard history ⟨1⟩ ⟨⟨1⟩, 10, ⟨[]⟩, ⟨[], [], [], none⟩⟩ rfl
  obtain ⟨listed, got, length⟩ := limits ⟨1⟩ ⟨⟨1⟩, 10, ⟨[]⟩, ⟨[], [], [], none⟩⟩ rfl
  obtain rfl : [⟨.job ⟨1⟩, .iops, 100⟩] = listed := Except.ok.inj got
  have stays : (start.run (history ++ more)).service.Registered ⟨1⟩ := by
    unfold Service.Registered
    decide +kernel
  have again := Service.statistics_eq_ok.mpr ⟨stays, rfl⟩
  rw [made] at sum
  rw [defined] at operations
  exact ⟨made, defined, counters, _, told, sum, operations, length, again,
    (rises more _ again).2.2⟩

end Machine

end StorageBroker
