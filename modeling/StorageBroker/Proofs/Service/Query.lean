import StorageBroker.Proofs.Registry.Ownership
import StorageBroker.Proofs.Registry.Scheduler
import StorageBroker.Proofs.Service.Admitted

/-! # What a starting job learns

A job asks by its scheduler number. The search goes by the storage that the job names, and the link
between the two says that this is the storage whose client the job is. -/

set_option autoImplicit false

namespace StorageBroker

namespace Service

theorem Change.preserves_scheduled {allowed : Registry.Operation → Prop} {s s' : Service}
    (change : Change allowed s s') (scheduled : s.registry.Scheduled) : s'.registry.Scheduled := by
  cases change with
  | registry may stays effect => exact effect.preserves_scheduled scheduled
  | jobRemoved registered => exact scheduled.of_inherits (.erase _ _)
  | transfers registered effect | operations registered tied effect | limitSet registered limit
  | limitsRemoved registered entity limitClass => exact scheduled

section

variable (s : Service) {slurmId : UInt64}

/-- The answer to a query of a registered job: from the storage that it names, if it names one that
is registered. -/
theorem query_of_job {job : Job} (found : s.registry.jobBySlurmId slurmId = .ok job) :
    (∃ adhoc entry, job.requirements.adhocStorage = some adhoc ∧
      s.registry.adhoc.get? adhoc = some entry ∧
      s.query slurmId = .ok ⟨job.id, entry.context.controllerAddress,
        UInt32.ofNat (min entry.resources.nodes.length (UInt32.size - 1))⟩) ∨
    (job.requirements.adhocStorage.bind s.registry.adhoc.get? = none ∧
      s.query slurmId = .ok ⟨job.id, "", 0⟩) := by
  cases named : job.requirements.adhocStorage.bind s.registry.adhoc.get? with
  | none => exact .inr ⟨rfl, by simp only [query, found, named]⟩
  | some entry =>
      obtain ⟨adhoc, held, known⟩ := Option.bind_eq_some_iff.mp named
      exact .inl ⟨adhoc, entry, held, known, by simp only [query, found, named]⟩

/-- A query succeeds exactly if the search by scheduler number does. -/
theorem query_succeeds_iff : (∃ info, s.query slurmId = .ok info) ↔
    ∃ job, s.registry.jobBySlurmId slurmId = .ok job := by
  cases found : s.registry.jobBySlurmId slurmId with
  | error e => simp [query, found]
  | ok job =>
      rcases s.query_of_job found with ⟨adhoc, entry, -, -, told⟩ | ⟨-, told⟩ <;> simp [told]

/-- The order of the rows of the registry has no part in a query. -/
theorem query_congr {r : Registry} (scheduled : s.registry.Scheduled)
    (jobs : ∀ id, r.jobs.get? id = s.registry.jobs.get? id)
    (adhoc : ∀ id, r.adhoc.get? id = s.registry.adhoc.get? id) (slurmId : UInt64) :
    query { s with registry := r } slurmId = s.query slurmId := by
  have views : r.adhoc.get? = s.registry.adhoc.get? := funext adhoc
  simp only [query, Registry.jobBySlurmId_congr scheduled jobs, views]

end

/-! ## A job and its storage -/

section

variable {s : Service} {id : JobId} {job : Job}

theorem jobBySlurmId_of_job (scheduled : s.registry.Scheduled)
    (found : s.registry.jobs.get? id = some job) :
    s.registry.jobBySlurmId job.slurmId = .ok job ∧ job.id = id := by
  have own := scheduled.filed id job found
  exact ⟨(Registry.jobBySlurmId_eq_ok scheduled).mpr ⟨own ▸ found, rfl⟩, own⟩

variable (scheduled : s.registry.Scheduled) (linked : s.registry.Linked)
  (found : s.registry.jobs.get? id = some job)
include scheduled linked found

/-- The client of a storage learns of that storage. -/
theorem query_of_client {adhoc : AdhocId} {entry : AdhocEntry}
    (known : s.registry.adhoc.get? adhoc = some entry) (client : entry.client = some id) :
    s.query job.slurmId = .ok ⟨id, entry.context.controllerAddress,
      UInt32.ofNat (min entry.resources.nodes.length (UInt32.size - 1))⟩ := by
  obtain ⟨searched, own⟩ := jobBySlurmId_of_job scheduled found
  have named : Registry.clientOf s.registry.adhoc adhoc = some id := by
    rw [Registry.clientOf, known, Option.bind_some, client]
  have held := (linked adhoc id).mp named
  rw [Registry.heldBy, found, Option.bind_some] at held
  rcases s.query_of_job searched with ⟨other, its, holds, there, told⟩ | ⟨nothing, -⟩
  · obtain rfl := Option.some.inj (held.symm.trans holds)
    obtain rfl := Option.some.inj (known.symm.trans there)
    rw [told, own]
  · rw [held, Option.bind_some, known] at nothing
    exact absurd nothing (by simp)

/-- A job that is nobody's client learns of nothing. -/
theorem query_of_stranger
    (nobody : ∀ adhoc, Registry.clientOf s.registry.adhoc adhoc ≠ some id) :
    s.query job.slurmId = .ok ⟨id, "", 0⟩ := by
  obtain ⟨searched, own⟩ := jobBySlurmId_of_job scheduled found
  rcases s.query_of_job searched with ⟨adhoc, entry, holds, -, -⟩ | ⟨-, told⟩
  · have held : Registry.heldBy s.registry.jobs id = some adhoc := by
      rw [Registry.heldBy, found, Option.bind_some, holds]
    exact absurd ((linked adhoc id).mpr held) (nobody adhoc)
  · rw [told, own]

end

end Service

/-- A number of nodes that is capped to fit does not become zero. -/
theorem toNat_capped (n : Nat) :
    (UInt32.ofNat (min n (UInt32.size - 1))).toNat = min n (UInt32.size - 1) := by
  have room : min n (UInt32.size - 1) < UInt32.size := by
    have : 0 < UInt32.size := by decide
    omega
  rw [UInt32.toNat_ofNat', Nat.mod_eq_of_lt room]

namespace Machine

theorem run_scheduled (config : ServiceConfig) (history : List Event) :
    ((fresh config).run history).service.registry.Scheduled :=
  ((fresh config).run_changes history).invariant
    (P := fun s => s.registry.Scheduled)
    (fun _ _ change => change.preserves_scheduled) Registry.scheduled_empty

/-- Without the checks at the gate a storage may have neither a controller nor a node, and then its
client learns what a job without a storage learns. -/
theorem client_of_bare_storage :
    let context : AdhocContext := ⟨"", "", .separateNew, .readWrite, 60, false⟩
    let s := ((fresh .standard).run [
      .call (.request (.registerAdhocStorage "burst" .gekkofs context ⟨[]⟩)),
      .call (.request (.registerJob 7 ⟨[]⟩ ⟨[], [], [], some ⟨1⟩⟩))]).service
    s.registry.currentClient ⟨1⟩ = .ok (some ⟨2⟩) ∧
    ¬ (s.query 7 = .ok ⟨⟨2⟩, "", 0⟩ ↔
      ∀ adhoc, s.registry.currentClient adhoc ≠ .ok (some ⟨2⟩)) := by
  intro context s
  have client : s.registry.currentClient ⟨1⟩ = .ok (some ⟨2⟩) := rfl
  have told : s.query 7 = .ok ⟨⟨2⟩, "", 0⟩ := rfl
  exact ⟨client, fun same => same.mp told ⟨1⟩ client⟩

/-- In every state that a service reaches, no two jobs have the same scheduler number. A search and
a query by scheduler number succeed exactly if some job has the number, and come to the same in
whatever order the registry keeps its rows. The job learns the controller and the number of nodes of
the one storage whose client it is, or an empty address and zero if there is none. If only requests
that pass the checks at the gate have been asked, it learns the latter only if there is none. -/
theorem query_tells_of_own_storage (config : ServiceConfig) (history : List Event) :
    let s := ((fresh config).run history).service
    (∀ id job other rival, s.registry.job id = .ok job → s.registry.job other = .ok rival →
      job.slurmId = rival.slurmId → id = other) ∧
    (∀ slurmId,
      ((∃ job, s.registry.jobBySlurmId slurmId = .ok job) ↔
        ∃ id job, s.registry.job id = .ok job ∧ job.slurmId = slurmId) ∧
      ((∃ info, s.query slurmId = .ok info) ↔
        ∃ id job, s.registry.job id = .ok job ∧ job.slurmId = slurmId)) ∧
    (∀ r : Registry, (∀ id, r.jobs.get? id = s.registry.jobs.get? id) →
      (∀ id, r.adhoc.get? id = s.registry.adhoc.get? id) → ∀ slurmId,
      r.jobBySlurmId slurmId = s.registry.jobBySlurmId slurmId ∧
      Service.query { s with registry := r } slurmId = s.query slurmId) ∧
    ∀ id job, s.registry.job id = .ok job →
      s.registry.jobBySlurmId job.slurmId = .ok job ∧ job.id = id ∧
      (∀ adhoc storage, s.registry.currentClient adhoc = .ok (some id) →
        s.registry.adhocStorage adhoc = .ok storage →
        (∀ other, s.registry.currentClient other = .ok (some id) → other = adhoc) ∧
        ∃ procs : UInt32,
          procs.toNat = min storage.resources.nodes.length (UInt32.size - 1) ∧
          s.query job.slurmId = .ok ⟨id, storage.context.controllerAddress, procs⟩) ∧
      ((∀ adhoc, s.registry.currentClient adhoc ≠ .ok (some id)) →
        s.query job.slurmId = .ok ⟨id, "", 0⟩) ∧
      ((∀ event ∈ history, event.Admitted) → s.query job.slurmId = .ok ⟨id, "", 0⟩ →
        ∀ adhoc, s.registry.currentClient adhoc ≠ .ok (some id)) := by
  intro s
  have scheduled : s.registry.Scheduled := run_scheduled config history
  have linked : s.registry.Linked := (run_coherent config history).linked
  have searches : ∀ slurmId, (∃ job, s.registry.jobBySlurmId slurmId = .ok job) ↔
      ∃ id job, s.registry.job id = .ok job ∧ job.slurmId = slurmId := by
    intro slurmId
    constructor
    · rintro ⟨job, found⟩
      obtain ⟨known, mine⟩ := (Registry.jobBySlurmId_eq_ok scheduled).mp found
      exact ⟨job.id, job, Registry.job_eq_ok.mpr known, mine⟩
    · rintro ⟨id, job, found, rfl⟩
      exact ⟨job, (Service.jobBySlurmId_of_job scheduled (Registry.job_eq_ok.mp found)).1⟩
  refine ⟨?_, ?_, ?_, ?_⟩
  · intro id job other rival found there clash
    exact scheduled.distinct id job other rival (Registry.job_eq_ok.mp found)
      (Registry.job_eq_ok.mp there) clash
  · intro slurmId
    exact ⟨searches slurmId, s.query_succeeds_iff.trans (searches slurmId)⟩
  · intro r jobs adhoc slurmId
    exact ⟨Registry.jobBySlurmId_congr scheduled jobs slurmId,
      s.query_congr scheduled jobs adhoc slurmId⟩
  · intro id job registered
    have found := Registry.job_eq_ok.mp registered
    obtain ⟨searched, own⟩ := Service.jobBySlurmId_of_job scheduled found
    refine ⟨searched, own, ?_, ?_, ?_⟩
    · intro adhoc storage client shown
      obtain ⟨entry, known, rfl⟩ := Registry.adhocStorage_eq_ok.mp shown
      have named := Registry.currentClient_eq_ok.mp client
      refine ⟨fun other rival => ?_, _, toNat_capped _,
        Service.query_of_client scheduled linked found known ?_⟩
      · have theirs := (linked other id).mp (Registry.currentClient_eq_ok.mp rival)
        exact Option.some.inj (theirs.symm.trans ((linked adhoc id).mp named))
      · rwa [Registry.clientOf, known, Option.bind_some] at named
    · intro nobody
      exact Service.query_of_stranger scheduled linked found fun adhoc named =>
        nobody adhoc (Registry.currentClient_eq_ok.mpr named)
    · intro admitted told adhoc client
      -- a storage that came through the gate has a node, so its client learns of one at least
      obtain ⟨entry, known, held⟩ :=
        Registry.clientOf_eq_some.mp (Registry.currentClient_eq_ok.mp client)
      have formed := (run_preserves_kept (kept_fresh config) admitted).formed
      have staffed := List.length_pos_iff.mpr (formed.registry.adhoc adhoc entry known).staffed
      have learned := Service.query_of_client scheduled linked found known held
      have none := congrArg JobInfo.ioProcs (Except.ok.inj (learned.symm.trans told))
      have count := toNat_capped entry.resources.nodes.length
      have room : 0 < UInt32.size - 1 := by decide
      simp only at none
      rw [none] at count
      simp only [UInt32.toNat_zero] at count
      omega

end Machine

end StorageBroker
