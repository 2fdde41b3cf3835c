import StorageBroker.Proofs.Service.Fate
import StorageBroker.Proofs.Service.Origin
import StorageBroker.Proofs.Service.Outbound
import StorageBroker.Proofs.Service.Wait

/-! # Handing transfers over

A transfer is created and then handed to the data mover of its job. The mover may accept it, refuse
it or never answer, and meanwhile other calls may move the transfer on, cancel it or remove its
job. A transfer is handed over at most once, and one whose handover failed does not stay live. -/

set_option autoImplicit false

namespace StorageBroker

/-- Whether a collaborator call hands a transfer to a data mover. -/
def Outbound.starts (id : TransferId) : Outbound → Bool
  | .startTransfer _ transfer => transfer.id = id
  | .resolve _ _ | .deploy _ _ | .terminate _ _ => false

namespace TransferLedger

/-- What is created: a pending transfer with a number of its own, tracked from then on. -/
theorem create_ok {s n : Numbered TransferLedger} {job : JobId} {sources targets : List Dataset}
    {limits : List Limit} {mapping : Mapping} {transfer : Transfer}
    (created : create s job sources targets limits mapping = (.ok transfer, n)) :
    transfer = ⟨transfer.id, job, sources, targets, limits, mapping, 0, .pending, .none⟩ ∧
    transfer.id.raw.toNat = s.ids.issued + 1 ∧ n.ids.issued = s.ids.issued + 1 ∧
    n.store.entries.get? transfer.id = some ⟨transfer, s.store.created⟩ := by
  rcases create_outcome s job sources targets limits mapping with
    ⟨e, refused⟩ | ⟨raw, ids, made, drawn, -, rfl, done⟩
  · rw [refused] at created
    exact absurd (Prod.mk.inj created).1 (by simp)
  · rw [done] at created
    obtain ⟨same, rfl⟩ := Prod.mk.inj created
    obtain rfl := Except.ok.inj same
    obtain ⟨number, next⟩ := IdAllocator.allocate_some drawn
    exact ⟨rfl, number, next, by rw [Table.get?_insert, if_pos rfl]⟩

/-- A live transfer is marked as failed, and one that has ended stays as it is. -/
theorem transfer_update_failed {l : TransferLedger} (sound : l.Sound) (id : TransferId)
    (progress : Progress) :
    (l.update id .failed progress).2.transfer id = (l.transfer id).map fun now =>
      if now.status.isTerminal then now else { now with status := .failed, progress } := by
  unfold update
  cases found : l.entries.get? id with
  | none => simp [transfer, found, Except.map]
  | some entry =>
      cases ended : entry.transfer.status.isTerminal with
      | true => simp [transfer, found, ended, Except.map]
      | false =>
          have forward : ¬ TransferStatus.failed.rank < entry.transfer.status.rank :=
            Nat.not_lt.mpr (TransferStatus.rank_le_cancelled _)
          have other : entry.transfer.status ≠ .failed := by
            intro same
            simp [same, TransferStatus.isTerminal] at ended
          have named := sound.filed id entry found
          simp only [ended, Bool.false_or, decide_eq_true_eq, if_neg forward, if_neg other]
          simp [transfer, get?_publish, named, found, ended, Except.map]

end TransferLedger

namespace Service

/-! ## The data mover of a job -/

/-- The data mover that serves a job: the one that the storage of the job names, else the default
one, if there is any. -/
inductive MoverOf (s : Service) (job : JobId) : Option String → Prop
  | named {adhoc : AdhocId} {storage : AdhocStorage}
      (found : s.registry.adhocStorage adhoc = .ok storage) (bound : storage.client = some job)
      (names : storage.context.moverAddress ≠ "") :
      MoverOf s job (some storage.context.moverAddress)
  | unnamed (silent : ∀ adhoc storage, s.registry.adhocStorage adhoc = .ok storage →
      storage.client = some job → storage.context.moverAddress = "") :
      MoverOf s job s.config.defaultMover

theorem moverAddress_eq {s : Service} (linked : s.registry.Linked) {job : JobId} {owner : Job}
    (found : s.registry.job job = .ok owner) {mover : Option String}
    (serves : s.MoverOf job mover) : s.moverAddress owner = mover := by
  unfold moverAddress
  cases serves with
  | @named adhoc storage known bound names =>
      unfold Registry.adhocStorage at known
      cases row : s.registry.adhoc.get? adhoc with
      | none => simp [row] at known
      | some entry =>
          rw [row] at known
          obtain rfl := Except.ok.inj known
          have client : Registry.clientOf s.registry.adhoc adhoc = some job := by
            simp [Registry.clientOf, row, show entry.client = some job from bound]
          obtain ⟨holder, registered, holds⟩ := Registry.exists_holder.mpr ((linked adhoc job).mp client)
          obtain rfl := Except.ok.inj (registered.symm.trans found)
          rw [holds, Option.bind_some, row]
          simp only [String.isEmpty_iff]
          exact if_neg names
  | unnamed silent =>
      cases holds : owner.requirements.adhocStorage with
      | none => rfl
      | some adhoc =>
          rw [Option.bind_some]
          cases row : s.registry.adhoc.get? adhoc with
          | none => rfl
          | some entry =>
              have client := (linked adhoc job).mpr (Registry.exists_holder.mp ⟨owner, found, holds⟩)
              have bound : entry.client = some job := by
                simpa [Registry.clientOf, row] using client
              have empty := silent adhoc (entry.view adhoc)
                (by simp [Registry.adhocStorage, row]) bound
              exact if_pos (String.isEmpty_iff.mpr empty)

/-! ## The start of a handover -/

/-- A call that has created a transfer waits for the data mover of the job, if there is one. -/
theorem startDispatch_of_created {s : Service} {job : JobId} {owner : Job}
    {sources targets : List Dataset} {limits : List Limit} {mapping : Mapping}
    {transfer : Transfer} {n : Numbered TransferLedger} (found : s.registry.job job = .ok owner)
    (created : TransferLedger.create ⟨s.ids, s.transfers⟩ job sources targets limits mapping =
      (.ok transfer, n)) :
    s.startDispatch job sources targets limits mapping =
      (match s.moverAddress owner with
        | none => .replied (.transfer transfer)
        | some address => .waiting (.dispatching transfer address),
      { s with ids := n.ids, transfers := n.store }) := by
  have started := startDispatch_eq s job sources targets limits mapping
  simp only [found, created] at started
  exact started

/-- A call for a transfer is refused and changes nothing, or it has created the transfer. -/
theorem startDispatch_outcome (s : Service) (job : JobId) (sources targets : List Dataset)
    (limits : List Limit) (mapping : Mapping) :
    (∃ e, s.startDispatch job sources targets limits mapping = (.failed e, s)) ∨
    ∃ owner transfer n, s.registry.job job = .ok owner ∧
      TransferLedger.create ⟨s.ids, s.transfers⟩ job sources targets limits mapping =
        (.ok transfer, n) := by
  rw [startDispatch_eq]
  cases found : s.registry.job job with
  | error e => exact .inl ⟨_, rfl⟩
  | ok owner =>
      rcases TransferLedger.create_outcome ⟨s.ids, s.transfers⟩ job sources targets limits mapping
        with ⟨e, refused⟩ | ⟨raw, ids, transfer, -, -, -, done⟩
      · rw [refused]
        exact .inl ⟨_, rfl⟩
      · exact .inr ⟨owner, transfer, _, rfl, done⟩

/-- A call that waits for a data mover from its start on has created the transfer. -/
theorem number_of_dispatching {s : Service} {call : Call} {transfer : Transfer} {address : String}
    (waits : (s.start call).1 = .waiting (.dispatching transfer address)) :
    transfer.id.raw.toNat = s.ids.issued + 1 ∧ (s.start call).2.ids.issued = s.ids.issued + 1 := by
  have asked := s.start_of call
  rw [waits] at asked
  obtain rfl := show call = _ from asked
  simp only [start, startRequest] at waits ⊢
  rcases s.startDispatch_outcome transfer.jobId transfer.sources transfer.targets transfer.limits
    transfer.mapping with ⟨e, refused⟩ | ⟨owner, made, n, found, created⟩
  · rw [refused] at waits
    exact absurd waits (by simp [CallState.failed, CallState.ofResult])
  · rw [startDispatch_of_created found created] at waits ⊢
    obtain ⟨-, number, next, -⟩ := TransferLedger.create_ok created
    cases mover : s.moverAddress owner with
    | none =>
        rw [mover] at waits
        exact absurd waits (by simp [CallState.replied, CallState.ofResult])
    | some other =>
        rw [mover] at waits
        obtain rfl := (Waiting.dispatching.inj (CallState.waiting.inj waits)).1
        exact ⟨number, next⟩

/-- No call comes to wait for a data mover after it has waited for something else. -/
theorem not_dispatching_of_resume {s : Service} {wait : Waiting} {signal : Signal}
    {r : CallState × Service} (resumed : s.resume wait signal = some r) (transfer : Transfer)
    (address : String) : r.1 ≠ .waiting (.dispatching transfer address) := by
  intro waits
  cases last : wait.isLast with
  | true =>
      obtain ⟨outcome, ended⟩ := resume_finished last resumed
      rw [waits] at ended
      exact absurd ended (by simp)
  | false =>
      have asked : ∀ call, wait.Of call → call = .request (.transferDatasets transfer.jobId
          transfer.sources transfer.targets transfer.limits transfer.mapping) := by
        intro call mine
        have goes := resume_of mine resumed
        rw [waits] at goes
        exact goes
      cases wait with
      | locatingForDeploy plan hostname | deploying plan address =>
          exact absurd (asked (.request (.deployAdhocStorage plan.id)) rfl) (by simp)
      | locatingForTeardown plan hostname origin | tearingDown plan address origin =>
          cases origin with
          | client => exact absurd (asked (.request (.terminateAdhocStorage plan.id)) rfl) (by simp)
          | shutdown rest tornDown => exact absurd (asked .shutdown rfl) (by simp)
      | dispatching transfer address | awaiting id budgetMs | finalizing job operation id =>
          exact Bool.noConfusion last

/-! ## The end of a handover -/

theorem transfer_failDispatch {s : Service} (sound : s.transfers.Sound) (transfer : Transfer)
    (e : ServiceError) :
    (s.failDispatch transfer e).2.transfers.transfer transfer.id =
      (s.transfers.transfer transfer.id).map fun now =>
        if now.status.isTerminal then now
        else { now with status := .failed, progress := ⟨0, none, some e.message⟩ } :=
  TransferLedger.transfer_update_failed sound _ _

theorem ended_of_failDispatch {s : Service} (sound : s.transfers.Sound) {transfer now : Transfer}
    {e : ServiceError}
    (tracked : (s.failDispatch transfer e).2.transfers.transfer transfer.id = .ok now) :
    now.status.isTerminal = true := by
  rw [transfer_failDispatch sound] at tracked
  cases before : s.transfers.transfer transfer.id with
  | error e =>
      rw [before] at tracked
      exact absurd tracked (by simp [Except.map])
  | ok known =>
      rw [before] at tracked
      simp only [Except.map, Except.ok.injEq] at tracked
      subst tracked
      split
      · assumption
      · rfl

end Service

namespace Machine

/-! ## Handed over once -/

/-- The calls of data movers for a transfer that a history brings about. -/
def handovers (m : Machine) (id : TransferId) (history : List Event) : List (Nat × Outbound) :=
  (m.outbounds history).filter fun made => made.2.starts id

theorem handovers_append (m : Machine) (id : TransferId) (first last : List Event) :
    m.handovers id (first ++ last) = m.handovers id first ++ (m.run first).handovers id last := by
  simp only [handovers, outbounds_append, List.filter_append]

/-- A transfer that is handed to a data mover has just been created. -/
theorem number_of_outbound? {m : Machine} {event : Event} {call : Nat} {address : String}
    {transfer : Transfer}
    (brought : m.outbound? event = some (call, .startTransfer address transfer)) :
    m.service.ids.issued < transfer.id.raw.toNat ∧
      transfer.id.raw.toNat ≤ (m.step event).service.ids.issued := by
  obtain ⟨wait, asked, origin⟩ := wait_of_outbound? brought
  cases wait with
  | dispatching handed place =>
      obtain ⟨rfl, rfl⟩ := Outbound.startTransfer.inj (Option.some.inj asked)
      rcases origin with ⟨begun, rfl, rfl, waits⟩ | ⟨before, signal, r, -, -, went, waits⟩
      · obtain ⟨number, next⟩ := Service.number_of_dispatching waits
        rw [step, settle_service]
        omega
      · exact absurd waits (Service.not_dispatching_of_resume went _ _)
  | locatingForDeploy plan hostname | deploying plan address
  | locatingForTeardown plan hostname origin | tearingDown plan address origin
  | awaiting id budgetMs | finalizing job operation id => simp [Waiting.outbound?] at asked

theorem issued_le_run {m : Machine} (orderly : m.service.Orderly) (history : List Event) :
    m.service.ids.issued ≤ (m.run history).service.ids.issued :=
  ((m.run_changes history).draws orderly).registry.later

theorem number_of_outbounds {m : Machine} (orderly : m.service.Orderly) {history : List Event}
    {call : Nat} {address : String} {transfer : Transfer}
    (made : (call, .startTransfer address transfer) ∈ m.outbounds history) :
    m.service.ids.issued < transfer.id.raw.toNat ∧
      transfer.id.raw.toNat ≤ (m.run history).service.ids.issued := by
  induction history generalizing m with
  | nil => exact absurd made List.not_mem_nil
  | cons event rest ih =>
      have orderly' := (m.step_changes event).preserve_orderly orderly
      have later : m.service.ids.issued ≤ (m.step event).service.ids.issued :=
        ((m.step_changes event).draws orderly).registry.later
      rcases List.mem_append.mp made with now | late
      · obtain ⟨new, spent⟩ := number_of_outbound? (Option.mem_toList.mp now)
        exact ⟨new, Nat.le_trans spent (issued_le_run orderly' rest)⟩
      · obtain ⟨new, spent⟩ := ih orderly' late
        exact ⟨Nat.lt_of_le_of_lt later new, spent⟩

/-- While a transfer is not being created, nobody hands it over. -/
theorem handovers_eq_nil {m : Machine} (orderly : m.service.Orderly) {history : List Event}
    {id : TransferId} (outside : id.raw.toNat ≤ m.service.ids.issued ∨
      (m.run history).service.ids.issued < id.raw.toNat) : m.handovers id history = [] := by
  unfold handovers
  rw [List.filter_eq_nil_iff]
  rintro ⟨call, made⟩ member starts
  cases made with
  | startTransfer address transfer =>
      obtain ⟨new, spent⟩ := number_of_outbounds orderly member
      rw [show transfer.id = id by simpa [Outbound.starts] using starts] at new spent
      omega
  | resolve hostname port | deploy address plan | terminate address plan =>
      simp [Outbound.starts] at starts

/-! ## Waiting for the data mover -/

/-- The ways in which a handover fails, each with its error. -/
inductive DispatchFails (call : Nat) (id : TransferId) (budgetMs : Nat) :
    Event → ServiceError → Prop
  | refused (e : NetError) : DispatchFails call id budgetMs (.answer call (.error e)) (.net e)
  | unanswered :
      DispatchFails call id budgetMs (.expire call) (.timeout (.dispatch id) budgetMs)

section

variable {m : Machine} {call : Nat} {transfer : Transfer} {address : String}
  (waits : m.waiting.get? call = some (.dispatching transfer address))
include waits

theorem step_of_accepted (text : String) :
    m.step (.answer call (.ok text)) =
      m.settle call (.replied (.transfer transfer), m.service) :=
  (step_of_sends (.answer _)).trans (signal_of_waits waits rfl)

theorem step_of_dispatchFails {event : Event} {error : ServiceError}
    (fails : DispatchFails call transfer.id m.service.config.dispatchMs event error) :
    m.step event = m.settle call (m.service.failDispatch transfer error) := by
  cases fails with
  | refused e => exact (step_of_sends (.answer _)).trans (signal_of_waits waits rfl)
  | unanswered =>
      have asleep : m.wakeStatus? call = none := by
        rw [wakeStatus?_of_waiting waits]
        rfl
      exact (step_of_sends (.expire asleep)).trans (signal_of_waits waits rfl)

/-- Only the data mover and time answer a call that waits for the data mover. -/
theorem Step.keeps_dispatching {m' : Machine} {event : Event} (step : Step m event m')
    (tidy : Tidy m) :
    m'.waiting.get? call = some (.dispatching transfer address) ∨
      (∃ text, event = .answer call (.ok text) ∧
        m' = m.settle call (.replied (.transfer transfer), m.service)) ∨
      ∃ error, DispatchFails call transfer.id m.service.config.dispatchMs event error ∧
        m' = m.settle call (m.service.failDispatch transfer error) := by
  rcases step.keeps_wait tidy waits with still | ⟨signal, r, sent, went, rfl⟩
  · exact .inl still
  · right
    cases sent with
    | answer result =>
        cases result with
        | ok text =>
            obtain rfl := Option.some.inj went
            exact .inl ⟨text, rfl, rfl⟩
        | error e =>
            obtain rfl := Option.some.inj went
            exact .inr ⟨_, .refused e, rfl⟩
    | wake ended => exact absurd went (by simp [Service.resume])
    | expire going =>
        obtain rfl := Option.some.inj went
        exact .inr ⟨_, .unanswered, rfl⟩

end

end Machine

end StorageBroker
