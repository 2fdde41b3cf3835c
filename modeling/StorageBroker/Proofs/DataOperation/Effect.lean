import StorageBroker.DataOperation.Pipeline
import StorageBroker.Proofs.Drawn

/-! # What an operation can do to the pipeline

One theorem per operation lists its outcomes, and `Effect` lists the ways in which the pipeline can
change: an operation is defined, or it is moved one stage on. -/

set_option autoImplicit false

namespace StorageBroker.Pipeline

/-! ## Outcomes -/

theorem get_ok {p : Pipeline} {job : JobId} {id : OperationId} {operation : DataOperation}
    (found : p.get job id = .ok operation) :
    p.operations.get? id = some operation ∧ operation.jobId = job := by
  unfold get at found
  cases row : p.operations.get? id with
  | none => simp [row] at found
  | some other =>
      rw [row] at found
      by_cases mine : other.jobId = job
      · simp only [if_pos mine, Except.ok.injEq] at found
        exact ⟨congrArg some found, found ▸ mine⟩
      · simp [mine] at found

theorem define_outcome (s : Numbered Pipeline) (job : JobId) (executable : String)
    (arguments : List Argument) :
    (∃ e, define s job executable arguments = (.error e, s)) ∨
    ∃ raw ids, s.ids.allocate = some (raw, ids) ∧
      define s job executable arguments =
        (.ok ⟨⟨raw⟩, job, executable, arguments, .defined, none, none, none⟩,
          ⟨ids, ⟨s.store.operations.insert ⟨raw⟩
            ⟨⟨raw⟩, job, executable, arguments, .defined, none, none, none⟩⟩⟩) := by
  unfold define
  by_cases blank : Text.isBlank executable = true
  · exact .inl ⟨_, if_pos blank⟩
  · rw [if_neg blank]
    cases drawn : s.ids.allocate with
    | none => exact .inl ⟨_, rfl⟩
    | some next => exact .inr ⟨next.1, next.2, rfl, rfl⟩

theorem connect_outcome (p : Pipeline) (job : JobId) (id : OperationId) (connection : Connection) :
    (∃ e, p.connect job id connection = (.error e, p)) ∨
    ∃ operation, p.get job id = .ok operation ∧ operation.status = .defined ∧
      p.connect job id connection =
        (.ok { operation with status := .connected, connection := some connection },
          ⟨p.operations.insert id
            { operation with status := .connected, connection := some connection }⟩) := by
  unfold connect
  cases found : p.get job id with
  | error e => exact .inl ⟨e, rfl⟩
  | ok operation =>
      cases status : operation.status with
      | defined => exact .inr ⟨operation, rfl, status, by simp only [status]⟩
      | connected => exact .inl ⟨_, by simp only [status]; rfl⟩
      | linked => exact .inl ⟨_, by simp only [status]; rfl⟩
      | finalized => exact .inl ⟨_, by simp only [status]; rfl⟩

theorem link_outcome (p : Pipeline) (job : JobId) (id : OperationId) (link : Link) :
    (∃ e, p.link job id link = (.error e, p)) ∨
    ∃ operation, p.get job id = .ok operation ∧ operation.status = .connected ∧
      p.link job id link =
        (.ok { operation with status := .linked, link := some link },
          ⟨p.operations.insert id { operation with status := .linked, link := some link }⟩) := by
  unfold Pipeline.link
  cases found : p.get job id with
  | error e => exact .inl ⟨e, rfl⟩
  | ok operation =>
      cases status : operation.status with
      | connected => exact .inr ⟨operation, rfl, status, by simp only [status]⟩
      | defined => exact .inl ⟨_, by simp only [status]; rfl⟩
      | linked => exact .inl ⟨_, by simp only [status]; rfl⟩
      | finalized => exact .inl ⟨_, by simp only [status]; rfl⟩

theorem finalize_outcome (p : Pipeline) (job : JobId) (id : OperationId)
    (outcome : OperationOutcome) :
    (∃ e, p.finalize job id outcome = (.error e, p)) ∨
    ∃ operation, p.get job id = .ok operation ∧ operation.status.isFinalizable = true ∧
      p.finalize job id outcome =
        (.ok outcome,
          ⟨p.operations.insert id
            { operation with status := .finalized, outcome := some outcome }⟩) := by
  unfold finalize
  cases found : p.get job id with
  | error e => exact .inl ⟨e, rfl⟩
  | ok operation =>
      by_cases ready : operation.status.isFinalizable = true
      · exact .inr ⟨operation, rfl, ready, by simp only [if_pos ready]⟩
      · exact .inl ⟨_, by simp only [if_neg ready]; rfl⟩

/-! ## Effects -/

/-- What one operation can do to a pipeline and its allocator; `owner` is the job that it is to
define an operation for, and `tie` the job and the link that it is to record. -/
inductive Effect (owner : Option JobId) (tie : Option (JobId × Link)) (s : Numbered Pipeline) :
    Numbered Pipeline → Prop
  | nothing : Effect owner tie s s
  | defined {raw : UInt64} {ids : IdAllocator} {job : JobId} {executable : String}
      {arguments : List Argument} (asked : owner = some job)
      (drawn : s.ids.allocate = some (raw, ids)) :
      Effect owner tie s ⟨ids, ⟨s.store.operations.insert ⟨raw⟩
        ⟨⟨raw⟩, job, executable, arguments, .defined, none, none, none⟩⟩⟩
  | connected {id : OperationId} {operation : DataOperation} (connection : Connection)
      (found : s.store.operations.get? id = some operation)
      (status : operation.status = .defined) :
      Effect owner tie s ⟨s.ids, ⟨s.store.operations.insert id
        { operation with status := .connected, connection := some connection }⟩⟩
  | linked {id : OperationId} {operation : DataOperation} {link : Link}
      (asked : tie = some (operation.jobId, link))
      (found : s.store.operations.get? id = some operation)
      (status : operation.status = .connected) :
      Effect owner tie s ⟨s.ids, ⟨s.store.operations.insert id
        { operation with status := .linked, link := some link }⟩⟩
  | finalized {id : OperationId} {operation : DataOperation} (outcome : OperationOutcome)
      (found : s.store.operations.get? id = some operation)
      (status : operation.status.isFinalizable = true) :
      Effect owner tie s ⟨s.ids, ⟨s.store.operations.insert id
        { operation with status := .finalized, outcome := some outcome }⟩⟩

theorem define_effect (s : Numbered Pipeline) (job : JobId) (executable : String)
    (arguments : List Argument) :
    Effect (some job) none s (define s job executable arguments).2 := by
  rcases define_outcome s job executable arguments with ⟨e, refused⟩ | ⟨raw, ids, drawn, done⟩
  · rw [refused]
    exact .nothing
  · rw [done]
    exact .defined rfl drawn

theorem connect_effect (ids : IdAllocator) (p : Pipeline) (job : JobId) (id : OperationId)
    (connection : Connection) :
    Effect none none ⟨ids, p⟩ ⟨ids, (p.connect job id connection).2⟩ := by
  rcases p.connect_outcome job id connection with ⟨e, refused⟩ | ⟨operation, found, status, done⟩
  · rw [refused]
    exact .nothing
  · rw [done]
    exact .connected connection (get_ok found).1 status

theorem link_effect (ids : IdAllocator) (p : Pipeline) (job : JobId) (id : OperationId)
    (link : Link) : Effect none (some (job, link)) ⟨ids, p⟩ ⟨ids, (p.link job id link).2⟩ := by
  rcases p.link_outcome job id link with ⟨e, refused⟩ | ⟨operation, found, status, done⟩
  · rw [refused]
    exact .nothing
  · rw [done]
    exact .linked (by rw [(get_ok found).2]) (get_ok found).1 status

theorem finalize_effect (ids : IdAllocator) (p : Pipeline) (job : JobId) (id : OperationId)
    (outcome : OperationOutcome) :
    Effect none none ⟨ids, p⟩ ⟨ids, (p.finalize job id outcome).2⟩ := by
  rcases p.finalize_outcome job id outcome with ⟨e, refused⟩ | ⟨operation, found, status, done⟩
  · rw [refused]
    exact .nothing
  · rw [done]
    exact .finalized outcome (get_ok found).1 status

/-- An operation on record was on record before with the same job, its link then or the one asked
for, or it is the one asked for. -/
theorem Effect.origin {owner : Option JobId} {tie : Option (JobId × Link)}
    {s s' : Numbered Pipeline} (effect : Effect owner tie s s') {id : OperationId}
    {operation : DataOperation} (found : s'.store.operations.get? id = some operation) :
    (∃ before, s.store.operations.get? id = some before ∧ operation.jobId = before.jobId ∧
      (operation.link = before.link ∨ operation.link.map (operation.jobId, ·) = tie)) ∨
    (owner = some operation.jobId ∧ operation.link = none) := by
  cases effect with
  | nothing => exact .inl ⟨operation, found, rfl, .inl rfl⟩
  | defined asked drawn =>
      rw [Table.get?_insert] at found
      split at found
      · obtain rfl := Option.some.inj found
        exact .inr ⟨asked, rfl⟩
      · exact .inl ⟨operation, found, rfl, .inl rfl⟩
  | connected connection known status =>
      rw [Table.get?_insert] at found
      split at found
      · subst id
        obtain rfl := Option.some.inj found
        exact .inl ⟨_, known, rfl, .inl rfl⟩
      · exact .inl ⟨operation, found, rfl, .inl rfl⟩
  | linked asked known status =>
      rw [Table.get?_insert] at found
      split at found
      · subst id
        obtain rfl := Option.some.inj found
        exact .inl ⟨_, known, rfl, .inr asked.symm⟩
      · exact .inl ⟨operation, found, rfl, .inl rfl⟩
  | finalized outcome known status =>
      rw [Table.get?_insert] at found
      split at found
      · subst id
        obtain rfl := Option.some.inj found
        exact .inl ⟨_, known, rfl, .inl rfl⟩
      · exact .inl ⟨operation, found, rfl, .inl rfl⟩

/-! ## Numbers -/

/-- What is new in the pipeline was drawn in between. -/
structure Draws (s s' : Numbered Pipeline) : Prop where
  later : s.ids.issued ≤ s'.ids.issued
  operations :
    KeysDrawn OperationId.raw s.ids.issued s'.ids.issued s.store.operations s'.store.operations

/-- Nothing is new in a pipeline when another store draws numbers. -/
theorem Draws.elsewhere {ids next : IdAllocator} (p : Pipeline)
    (later : ids.issued ≤ next.issued) : Draws ⟨ids, p⟩ ⟨next, p⟩ :=
  ⟨later, .refl _⟩

theorem Draws.trans {s s' s'' : Numbered Pipeline} (first : Draws s s') (last : Draws s' s'') :
    Draws s s'' where
  later := Nat.le_trans first.later last.later
  operations := first.operations.trans last.operations first.later last.later

theorem Effect.draws {owner : Option JobId} {tie : Option (JobId × Link)}
    {s s' : Numbered Pipeline} (effect : Effect owner tie s s') : Draws s s' := by
  cases effect with
  | nothing => exact ⟨Nat.le_refl _, .refl _⟩
  | defined asked drawn =>
      have value := IdAllocator.allocate_some drawn
      exact ⟨by simp only; omega, .insert drawn _ _ _ rfl⟩
  | connected connection found status =>
      exact ⟨Nat.le_refl _, (KeysDrawn.refl _).rewrite _ (by simp [found])⟩
  | linked asked found status =>
      exact ⟨Nat.le_refl _, (KeysDrawn.refl _).rewrite _ (by simp [found])⟩
  | finalized outcome found status =>
      exact ⟨Nat.le_refl _, (KeysDrawn.refl _).rewrite _ (by simp [found])⟩

end StorageBroker.Pipeline
