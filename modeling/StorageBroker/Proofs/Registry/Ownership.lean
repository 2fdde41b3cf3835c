import StorageBroker.Proofs.Registry.Entry

/-! # Exclusive ownership

A storage that has a client keeps it until the client gives it up, goes away or has the storage
removed, or somebody unbinds it. Until then nobody else gets hold of the storage, and an attempt
leaves no trace in the registry. -/

set_option autoImplicit false

namespace StorageBroker.Registry

namespace Operation

/-- The operations on a storage by which others than its client would take it, change it or remove
it; binding is one of them whoever asks for it. -/
inductive Contests (adhoc : AdhocId) (job : JobId) : Operation → Prop
  | bind (rival : JobId) : Contests adhoc job (.bind adhoc rival)
  | registerJob {slurmId : UInt64} {resources : JobResources} {requirements : JobRequirements}
      (names : requirements.adhocStorage = some adhoc) :
      Contests adhoc job (.registerJob slurmId resources requirements)
  | updateJob {rival : JobId} {resources : JobResources} {requirements : JobRequirements}
      (other : rival ≠ job) (names : requirements.adhocStorage = some adhoc) :
      Contests adhoc job (.updateJob rival resources (some requirements))
  | updateAdhoc {context : AdhocContext} {caller : Option JobId} (stranger : caller ≠ some job) :
      Contests adhoc job (.updateAdhoc adhoc context caller)
  | removeAdhoc {caller : Option JobId} (stranger : caller ≠ some job) :
      Contests adhoc job (.removeAdhoc adhoc caller)

/-- The operations that change or remove a storage on behalf of a caller. -/
inductive Modifies (adhoc : AdhocId) (caller : Option JobId) : Operation → Prop
  | updateAdhoc (context : AdhocContext) : Modifies adhoc caller (.updateAdhoc adhoc context caller)
  | removeAdhoc : Modifies adhoc caller (.removeAdhoc adhoc caller)

end Operation

/-! ## What keeps a caller from a storage -/

theorem caller_of_no_obstacle {entry : AdhocEntry} {id : AdhocId} {caller : Option JobId}
    {client : JobId} (held : entry.client = some client)
    (clear : entry.obstacle? id caller = none) : caller = some client := by
  unfold AdhocEntry.obstacle? at clear
  rw [held] at clear
  by_cases mine : caller = some client
  · exact mine
  · simp [mine] at clear

theorem obstacle_of_entitled {entry : AdhocEntry} {id : AdhocId} {caller : Option JobId}
    {e : RegistryError} (entitled : ∀ client, entry.client = some client → caller = some client)
    (kept : entry.obstacle? id caller = some e) : e = .invalidState id .changeInProgress := by
  unfold AdhocEntry.obstacle? at kept
  cases held : entry.client with
  | none =>
      rw [held] at kept
      by_cases changing : entry.deployment.isChanging = true
      · simpa [changing, eq_comm] using kept
      · simp [changing] at kept
  | some client =>
      have mine := entitled client held
      rw [held] at kept
      by_cases changing : entry.deployment.isChanging = true
      · simpa [mine, changing, eq_comm] using kept
      · simp [mine, changing] at kept

section

variable {s : Numbered Registry} {adhoc : AdhocId} {job : JobId} {op : Operation}

theorem clientOf_eq_some {entries : Table AdhocId AdhocEntry} :
    clientOf entries adhoc = some job ↔
      ∃ entry, entries.get? adhoc = some entry ∧ entry.client = some job :=
  Option.bind_eq_some_iff

/-! ## The client stays -/

theorem EntryStep.keeps_client {entry : AdhocEntry} {now : Option AdhocEntry}
    (step : EntryStep op adhoc entry now) (held : entry.client = some job)
    (stays : ¬ op.Releases adhoc job) : ∃ after, now = some after ∧ after.client = some job := by
  cases step with
  | same => exact ⟨entry, rfl, held⟩
  | claimed asked free => exact absurd (held.symm.trans free) (by simp)
  | @released client asked mine =>
      obtain rfl := Option.some.inj (held.symm.trans mine)
      exact absurd asked stays
  | contextSet asked clear => exact ⟨_, rfl, held⟩
  | moved moves => exact ⟨_, rfl, held⟩
  | removed asked clear =>
      obtain rfl := caller_of_no_obstacle held clear
      exact absurd (asked ▸ .removeAdhoc) stays

/-- No operation parts a storage from its client but those that release it. -/
theorem apply_keeps_client (issued : Issued s) (held : clientOf s.store.adhoc adhoc = some job)
    (stays : ¬ op.Releases adhoc job) : clientOf (apply s op).2.store.adhoc adhoc = some job := by
  obtain ⟨entry, found, client⟩ := clientOf_eq_some.mp held
  obtain ⟨after, still, same⟩ := (apply_entry issued found op).keeps_client client stays
  exact clientOf_eq_some.mpr ⟨after, still, same⟩

/-! ## Others are refused -/

theorem not_claims {entries now : Table AdhocId AdhocEntry} {rival : JobId}
    (held : clientOf entries adhoc = some job) : ¬ Claims entries rival (some adhoc) now := by
  intro claims
  exact absurd (held.symm.trans claims.clientOf_before) (by simp)

/-- What others try on a storage that has a client fails and changes nothing. -/
theorem apply_refuses (linked : s.store.Linked) (held : clientOf s.store.adhoc adhoc = some job)
    (contests : op.Contests adhoc job) :
    (∃ e, (apply s op).1 = .error e) ∧ (apply s op).2.store = s.store := by
  obtain ⟨entry, found, holds⟩ := clientOf_eq_some.mp held
  cases contests with
  | bind rival =>
      simp only [apply]
      rcases s.store.bind_outcome adhoc rival with ⟨e, refused⟩ | ⟨holder, entries, -, -, claims, -⟩
      · rw [refused]
        exact ⟨⟨e, rfl⟩, rfl⟩
      · exact absurd claims (not_claims held)
  | @registerJob slurmId resources requirements names =>
      simp only [apply]
      rcases registerJob_outcome s slurmId resources requirements with
        ⟨e, refused⟩ | ⟨id, taken, client, raw, ids, -, -, -, -, denied⟩ |
        ⟨raw, ids, entries, -, -, claims, -⟩
      · rw [refused]
        exact ⟨⟨e, rfl⟩, rfl⟩
      · rw [denied]
        exact ⟨⟨_, rfl⟩, rfl⟩
      · rw [names] at claims
        exact absurd claims (not_claims held)
  | @updateJob rival resources requirements other names =>
      simp only [apply]
      rcases s.store.updateJob_outcome rival resources (some requirements) with
        ⟨e, refused⟩ | ⟨holder, entries, known, moved, -⟩
      · rw [refused]
        exact ⟨⟨e, rfl⟩, rfl⟩
      · rw [Option.getD_some, names] at moved
        have needs : heldBy s.store.jobs rival = holder.requirements.adhocStorage := by
          rw [heldBy, known]
          rfl
        by_cases same : holder.requirements.adhocStorage = some adhoc
        · -- by the link, a job that requires the storage already is its client
          have client := (linked adhoc rival).mpr (needs.trans same)
          exact absurd (Option.some.inj (client.symm.trans held)) other
        · have free := rebind_clientOf_before moved adhoc same rfl
          exact absurd (held.symm.trans free) (by simp)
  | @updateAdhoc context caller stranger =>
      simp only [apply]
      rcases s.store.updateAdhoc_outcome adhoc context caller with
        ⟨e, refused⟩ | ⟨same, known, clear, -⟩
      · rw [refused]
        exact ⟨⟨e, rfl⟩, rfl⟩
      · obtain rfl := Option.some.inj (found.symm.trans known)
        exact absurd (caller_of_no_obstacle holds clear) stranger
  | @removeAdhoc caller stranger =>
      simp only [apply]
      rcases s.store.removeAdhoc_outcome adhoc caller with ⟨e, refused⟩ | ⟨same, known, clear, -⟩
      · rw [refused]
        exact ⟨⟨e, rfl⟩, rfl⟩
      · obtain rfl := Option.some.inj (found.symm.trans known)
        exact absurd (caller_of_no_obstacle holds clear) stranger

/-- Who may modify a storage is refused only if it does not exist or a controller is at work. -/
theorem apply_refusal_of_entitled {caller : Option JobId}
    (entitled : ∀ job, clientOf s.store.adhoc adhoc = some job → caller = some job)
    (modifies : op.Modifies adhoc caller) {e : RegistryError}
    (refused : (apply s op).1 = .error e) :
    e = .adhocNotFound adhoc ∨ e = .invalidState adhoc .changeInProgress := by
  cases found : s.store.adhoc.get? adhoc with
  | none =>
      have missing : e = .adhocNotFound adhoc := by
        cases modifies <;>
          simpa [apply, updateAdhoc, removeAdhoc, found, Except.map, eq_comm] using refused
      exact .inl missing
  | some entry =>
      have mine : ∀ client, entry.client = some client → caller = some client := by
        intro client held
        exact entitled client (clientOf_eq_some.mpr ⟨entry, found, held⟩)
      right
      cases kept : entry.obstacle? adhoc caller with
      | none =>
          cases modifies <;>
            simp [apply, updateAdhoc, removeAdhoc, found, kept, Except.map] at refused
      | some obstacle =>
          have only := obstacle_of_entitled mine kept
          cases modifies <;>
            simp only [apply, updateAdhoc, removeAdhoc, found, kept, Except.map,
              Except.error.injEq] at refused <;> exact refused ▸ only

end

/-! ## After any history -/

/-- After any history, a storage that has a client keeps it under every operation but those that
release it, and whatever others try on it fails and leaves the registry as it was. The client of a
storage, and anybody if it has none, is refused to change or remove it only while a controller is at
work on it. -/
theorem ownership_is_exclusive (ids : IdAllocator) (history : List Operation) :
    let s := run ⟨ids, empty⟩ history
    (∀ adhoc job, s.store.currentClient adhoc = .ok (some job) →
      (∀ op : Operation, ¬ op.Releases adhoc job →
        (apply s op).2.store.currentClient adhoc = .ok (some job)) ∧
      ∀ op : Operation, op.Contests adhoc job →
        (∃ e, (apply s op).1 = .error e) ∧ (apply s op).2.store = s.store) ∧
    ∀ adhoc caller, (∀ job, s.store.currentClient adhoc = .ok (some job) → caller = some job) →
      ∀ op : Operation, op.Modifies adhoc caller → ∀ e, (apply s op).1 = .error e →
        e = .adhocNotFound adhoc ∨ e = .invalidState adhoc .changeInProgress := by
  intro s
  have kept : ∀ op s s', Effect op s s' → Issued s → Issued s' :=
    fun op s s' effect => effect.preserves_issued
  have issued : Issued s := run_invariant kept ⟨ids, empty⟩ (issued_empty ids) history
  have linked : s.store.Linked := run_linked ids history
  refine ⟨?_, ?_⟩
  · intro adhoc job client
    have held := currentClient_eq_ok.mp client
    refine ⟨?_, ?_⟩
    · intro op stays
      exact currentClient_eq_ok.mpr (apply_keeps_client issued held stays)
    · intro op contests
      exact apply_refuses linked held contests
  · intro adhoc caller entitled op modifies e refused
    have mine : ∀ job, clientOf s.store.adhoc adhoc = some job → caller = some job := by
      intro job held
      exact entitled job (currentClient_eq_ok.mpr held)
    exact apply_refusal_of_entitled mine modifies refused

/-- A job that comes too late does not get the storage of another one. -/
theorem late_job_does_not_get_storage :
    let history : List Operation := [
      .registerAdhoc "burst" .gekkofs ⟨"ctl:1", "", .separateNew, .readWrite, 60, false⟩
        ⟨[⟨"n01", .regular⟩]⟩,
      .registerJob 10 ⟨[]⟩ ⟨[], [], [], some ⟨1⟩⟩,
      .registerJob 11 ⟨[]⟩ ⟨[], [], [], none⟩]
    let s := run ⟨.fresh, empty⟩ history
    s.store.currentClient ⟨1⟩ = .ok (some ⟨2⟩) ∧
    (∃ e, (apply s (.bind ⟨1⟩ ⟨3⟩)).1 = .error e) ∧
    (apply s (.bind ⟨1⟩ ⟨3⟩)).2.store = s.store := by
  intro history s
  have exclusive := ownership_is_exclusive .fresh history
  have refused := (exclusive.1 ⟨1⟩ ⟨2⟩ rfl).2 (.bind ⟨1⟩ ⟨3⟩) (.bind ⟨3⟩)
  exact ⟨rfl, refused⟩

end StorageBroker.Registry
