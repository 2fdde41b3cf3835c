import StorageBroker.Proofs.Registry.Applied

/-! # Operations that fail

An operation that fails leaves every job, every storage and every deployment as it was. A job draws
its number before it claims its storage, so a registration that fails because the storage has a
client is the one failure that leaves a trace: its number is lost. -/

set_option autoImplicit false

namespace StorageBroker.Registry

/-- The registration of a job fails because the storage that it names has a client. -/
inductive FailsBound (s : Numbered Registry) : Operation → RegistryError → Prop
  | taken {slurmId : UInt64} {resources : JobResources} {requirements : JobRequirements}
      {adhoc : AdhocId} {entry : AdhocEntry} {client : JobId}
      (named : requirements.adhocStorage = some adhoc)
      (found : s.store.adhoc.get? adhoc = some entry) (held : entry.client = some client) :
      FailsBound s (.registerJob slurmId resources requirements) (.adhocInUse adhoc client)

theorem number_lost {s s' : Numbered Registry} {op : Operation} {e : RegistryError}
    (bound : FailsBound s op e) (failed : apply s op = (.error e, s')) :
    s'.ids.issued = s.ids.issued + 1 := by
  cases bound with
  | @taken slurmId resources requirements adhoc entry client named found held =>
      have denied : (registerJob s slurmId resources requirements).1 =
          .error (.adhocInUse adhoc client) := by
        simp only [apply, Prod.mk.injEq] at failed
        cases answer : (registerJob s slurmId resources requirements).1 with
        | error e =>
            rw [answer] at failed
            exact congrArg Except.error (Except.error.inj failed.1)
        | ok job =>
            rw [answer] at failed
            cases failed.1
      obtain ⟨raw, ids, drawn, lost⟩ := registerJob_in_use denied
      have left : (registerJob s slurmId resources requirements).2 = s' := (Prod.mk.inj failed).2
      rw [← left, lost]
      exact (IdAllocator.allocate_some drawn).2

/-- An operation that fails leaves jobs and storages as they were. One number is lost if it is a
registration that fails because its storage has a client, and none by any other failure. -/
theorem failure_leaves_registry {s s' : Numbered Registry} {op : Operation} {e : RegistryError}
    (failed : apply s op = (.error e, s')) :
    s'.store = s.store ∧
    (FailsBound s op e ∧ s'.ids.issued = s.ids.issued + 1 ∨
      ¬ FailsBound s op e ∧ s'.ids = s.ids) := by
  have applied := apply_applied s op
  rw [failed] at applied
  cases applied with
  | refused e =>
      refine ⟨rfl, .inr ⟨fun bound => ?_, rfl⟩⟩
      -- a refusal by a storage that has a client would have drawn a number
      have lost := number_lost bound failed
      omega
  | denied named found held drawn =>
      exact ⟨rfl, .inl ⟨.taken named found held, (IdAllocator.allocate_some drawn).2⟩⟩

/-- A job that is registered with the storage of another one costs a number and nothing else. -/
theorem late_job_costs_number :
    let s := run ⟨.fresh, empty⟩ [
      .registerAdhoc "burst" .gekkofs ⟨"ctl:1", "", .separateNew, .readWrite, 60, false⟩
        ⟨[⟨"n01", .regular⟩]⟩,
      .registerJob 10 ⟨[]⟩ ⟨[], [], [], some ⟨1⟩⟩]
    let late := apply s (.registerJob 11 ⟨[]⟩ ⟨[], [], [], some ⟨1⟩⟩)
    late.1 = .error (.adhocInUse ⟨1⟩ ⟨2⟩) ∧ late.2.store = s.store ∧
    late.2.ids.issued = s.ids.issued + 1 := by
  intro s late
  have failed : apply s (.registerJob 11 ⟨[]⟩ ⟨[], [], [], some ⟨1⟩⟩) =
      (.error (.adhocInUse ⟨1⟩ ⟨2⟩), late.2) := rfl
  have bound : FailsBound s (.registerJob 11 ⟨[]⟩ ⟨[], [], [], some ⟨1⟩⟩)
      (.adhocInUse ⟨1⟩ ⟨2⟩) := .taken rfl rfl rfl
  obtain ⟨kept, ⟨-, lost⟩ | ⟨unbound, -⟩⟩ := failure_leaves_registry failed
  · exact ⟨rfl, kept, lost⟩
  · exact absurd bound unbound

end StorageBroker.Registry
