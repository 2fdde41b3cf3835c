import StorageBroker.Proofs.Registry.Effect

/-! # Scheduler numbers

No two registered jobs have the same scheduler number, so the first job that a search by scheduler
number comes upon is the only one, in whatever order the jobs are searched. -/

set_option autoImplicit false

namespace StorageBroker

namespace Registry

/-- Every job is filed under its own number, and its scheduler number is its own. -/
structure Scheduled (r : Registry) : Prop where
  filed : ∀ id job, r.jobs.get? id = some job → job.id = id
  distinct : ∀ id job other rival, r.jobs.get? id = some job → r.jobs.get? other = some rival →
    job.slurmId = rival.slurmId → id = other

theorem scheduled_empty : Scheduled empty where
  filed := by
    intro id job found
    exact nomatch found
  distinct := by
    intro id job other rival found
    exact nomatch found

/-! ## Every operation keeps scheduler numbers apart -/

def Inherits (old new : Table JobId Job) : Prop :=
  ∀ id job, new.get? id = some job →
    ∃ before, old.get? id = some before ∧ job.id = before.id ∧ job.slurmId = before.slurmId

section

variable {jobs : Table JobId Job}

theorem Inherits.refl (jobs : Table JobId Job) : Inherits jobs jobs :=
  fun _ job found => ⟨job, found, rfl, rfl⟩

theorem Inherits.insert {id : JobId} {job updated : Job} (found : jobs.get? id = some job)
    (kept : updated.id = job.id ∧ updated.slurmId = job.slurmId) :
    Inherits jobs (jobs.insert id updated) := by
  intro x now present
  rw [Table.get?_insert] at present
  by_cases here : x = id
  · subst here
    rw [if_pos rfl] at present
    obtain rfl := Option.some.inj present
    exact ⟨job, found, kept⟩
  · rw [if_neg here] at present
    exact ⟨now, present, rfl, rfl⟩

theorem Inherits.erase (jobs : Table JobId Job) (id : JobId) : Inherits jobs (jobs.erase id) := by
  intro x now present
  rw [Table.get?_erase] at present
  split at present
  · exact nomatch present
  · exact ⟨now, present, rfl, rfl⟩

theorem forget_numbers (job : Job) (adhoc : AdhocId) :
    (job.forget adhoc).id = job.id ∧ (job.forget adhoc).slurmId = job.slurmId := by
  unfold Job.forget
  split <;> exact ⟨rfl, rfl⟩

theorem Inherits.forget (jobs : Table JobId Job) (adhoc : AdhocId) :
    Inherits jobs (jobs.mapValues fun _ job => job.forget adhoc) := by
  intro x now present
  rw [Table.get?_mapValues] at present
  obtain ⟨before, found, rfl⟩ := Option.map_eq_some_iff.mp present
  exact ⟨before, found, forget_numbers before adhoc⟩

theorem Scheduled.of_inherits {r r' : Registry} (scheduled : r.Scheduled)
    (inherits : Inherits r.jobs r'.jobs) : r'.Scheduled where
  filed := by
    intro id job found
    obtain ⟨before, known, same, -⟩ := inherits id job found
    exact same.trans (scheduled.filed id before known)
  distinct := by
    intro id job other rival found there clash
    obtain ⟨before, known, -, same⟩ := inherits id job found
    obtain ⟨rivalBefore, rivalKnown, -, rivalSame⟩ := inherits other rival there
    rw [same, rivalSame] at clash
    exact scheduled.distinct id before other rivalBefore known rivalKnown clash

/-- A job with a scheduler number that no other job has can be added. -/
theorem Scheduled.insert {r r' : Registry} (scheduled : r.Scheduled) {id : JobId} {job : Job}
    (own : job.id = id) (unused : ∀ other ∈ r.jobs.values, other.slurmId ≠ job.slurmId)
    (added : r'.jobs = r.jobs.insert id job) : r'.Scheduled where
  filed := by
    intro x now found
    rw [added, Table.get?_insert] at found
    split at found
    · subst x
      exact Option.some.inj found ▸ own
    · exact scheduled.filed x now found
  distinct := by
    intro x now other rival found there clash
    rw [added, Table.get?_insert] at found there
    by_cases here : x = id <;> by_cases rivalHere : other = id
    · exact here.trans rivalHere.symm
    · rw [if_pos here] at found
      rw [if_neg rivalHere] at there
      obtain rfl := Option.some.inj found
      exact absurd clash.symm (unused rival (Table.mem_values_iff.mpr ⟨other, there⟩))
    · rw [if_neg here] at found
      rw [if_pos rivalHere] at there
      obtain rfl := Option.some.inj there
      exact absurd clash (unused now (Table.mem_values_iff.mpr ⟨x, found⟩))
    · rw [if_neg here] at found
      rw [if_neg rivalHere] at there
      exact scheduled.distinct x now other rival found there clash

end

theorem Effect.preserves_scheduled {op : Operation} {s s' : Numbered Registry}
    (effect : Effect op s s') (scheduled : s.store.Scheduled) : s'.store.Scheduled := by
  cases effect with
  | jobAdded drawn numbered unused claims => exact scheduled.insert numbered unused rfl
  | jobUpdated found kept moved => exact scheduled.of_inherits (.insert found kept)
  | jobRemoved asked found => exact scheduled.of_inherits (.erase _ _)
  | adhocRemoved found still => exact scheduled.of_inherits (.forget _ _)
  | bound found only claims => exact scheduled.of_inherits (.insert found ⟨rfl, rfl⟩)
  | unbound found sides =>
      rcases sides with ⟨-, rfl⟩ | ⟨client, job, -, registered, rfl⟩
      · exact scheduled.of_inherits (.refl _)
      · exact scheduled.of_inherits (.insert registered (forget_numbers job _))
  | nothing | number drawn | adhocAdded drawn unclaimed down | contextSet context found still
  | deploymentSet found moves | pfsAdded drawn numbered | pfsUpdated context found
  | pfsRemoved found => exact scheduled.of_inherits (.refl _)

/-! ## The search -/

theorem jobBySlurmId_outcome (r : Registry) (slurmId : UInt64) :
    (r.jobBySlurmId slurmId = .error (.slurmJobNotFound slurmId) ∧
      ∀ id job, r.jobs.get? id = some job → job.slurmId ≠ slurmId) ∨
    ∃ id job, r.jobs.get? id = some job ∧ job.slurmId = slurmId ∧
      r.jobBySlurmId slurmId = .ok job := by
  unfold jobBySlurmId
  cases searched : r.jobs.values.find? fun job => job.slurmId = slurmId with
  | none =>
      refine .inl ⟨rfl, fun id job found => ?_⟩
      have missed := List.find?_eq_none.mp searched job (Table.mem_values_iff.mpr ⟨id, found⟩)
      simpa using missed
  | some job =>
      obtain ⟨id, found⟩ := Table.mem_values_iff.mp (List.mem_of_find?_eq_some searched)
      have hit := List.find?_some searched
      exact .inr ⟨id, job, found, by simpa using hit, rfl⟩

section

variable {r : Registry} (scheduled : r.Scheduled)
include scheduled

/-- A search finds the job that has the number. -/
theorem jobBySlurmId_eq_ok {slurmId : UInt64} {job : Job} : r.jobBySlurmId slurmId = .ok job ↔
    r.jobs.get? job.id = some job ∧ job.slurmId = slurmId := by
  rcases r.jobBySlurmId_outcome slurmId with ⟨refused, none⟩ | ⟨id, first, found, mine, done⟩
  · rw [refused]
    refine iff_of_false nofun ?_
    rintro ⟨found, mine⟩
    exact none job.id job found mine
  · have own := scheduled.filed id first found
    rw [done, Except.ok.injEq]
    constructor
    · rintro rfl
      exact ⟨own ▸ found, mine⟩
    · rintro ⟨known, same⟩
      have here := scheduled.distinct id first job.id job found known (mine.trans same.symm)
      rw [← here] at known
      exact Option.some.inj (found.symm.trans known)

/-- The order of the jobs has no part in a search. -/
theorem jobBySlurmId_congr {r' : Registry} (same : ∀ id, r'.jobs.get? id = r.jobs.get? id)
    (slurmId : UInt64) : r'.jobBySlurmId slurmId = r.jobBySlurmId slurmId := by
  rcases r'.jobBySlurmId_outcome slurmId with ⟨refused, none⟩ | ⟨id, job, found, mine, done⟩
  · rcases r.jobBySlurmId_outcome slurmId with ⟨also, -⟩ | ⟨id, job, found, mine, -⟩
    · rw [refused, also]
    · exact absurd mine (none id job ((same id).trans found))
  · rw [same] at found
    have own := scheduled.filed id job found
    rw [done, (jobBySlurmId_eq_ok scheduled).mpr ⟨own ▸ found, mine⟩]

end

end Registry

end StorageBroker
