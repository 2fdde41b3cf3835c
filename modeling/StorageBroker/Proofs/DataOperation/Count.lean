import Mathlib.Data.List.DropRight
import StorageBroker.Proofs.DataOperation.Record

/-! # The operations of a job

The pipeline counts, for each job, the operations on record. By what has been answered, these are
the operations defined for the job since its last purge. An operation is there only for the job that
it was defined for; whatever is refused changes nothing. -/

set_option autoImplicit false

namespace StorageBroker

/-! ## Counting rows -/

namespace Table

variable {κ α : Type} [DecidableEq κ] {k : κ} {rows : List (κ × α)}

/-- A new key adds one row. -/
theorem countP_put_new (absent : find k rows = none) (p : κ × α → Bool) (v : α) :
    (put k v rows).countP p = rows.countP p + (if p (k, v) then 1 else 0) := by
  induction rows with
  | nil => simp [put, List.countP_cons]
  | cons row rest ih =>
      by_cases same : row.1 = k
      · rw [find, if_pos same] at absent
        exact absurd absent (by simp)
      · rw [find, if_neg same] at absent
        rw [put, if_neg same, List.countP_cons, List.countP_cons, ih absent]
        omega

/-- Rewriting a row keeps every count that does not tell the two values apart. -/
theorem countP_put_same {w : α} (found : find k rows = some w) {p : κ × α → Bool} {v : α}
    (same : p (k, v) = p (k, w)) : (put k v rows).countP p = rows.countP p := by
  induction rows with
  | nil => exact absurd found (by simp [find])
  | cons row rest ih =>
      by_cases here : row.1 = k
      · subst here
        rw [find, if_pos rfl] at found
        obtain rfl := Option.some.inj found
        rw [put, if_pos rfl, List.countP_cons, List.countP_cons, same]
      · rw [find, if_neg here] at found
        rw [put, if_neg here, List.countP_cons, List.countP_cons, ih found]

end Table

namespace Pipeline

theorem countForJob_eq_countP (p : Pipeline) (job : JobId) :
    p.countForJob job = p.operations.rows.countP fun row => row.2.jobId = job := by
  rw [countForJob, Table.values, ← List.countP_eq_length_filter, List.countP_map]
  rfl

theorem countForJob_insert_new {p : Pipeline} {id : OperationId}
    (absent : p.operations.get? id = none) (operation : DataOperation) (job : JobId) :
    countForJob ⟨p.operations.insert id operation⟩ job =
      p.countForJob job + (if operation.jobId = job then 1 else 0) := by
  rw [countForJob_eq_countP, countForJob_eq_countP, Table.insert, Table.countP_put_new absent]
  simp

theorem countForJob_insert_same {p : Pipeline} {id : OperationId} {before : DataOperation}
    (found : p.operations.get? id = some before) {operation : DataOperation}
    (owner : operation.jobId = before.jobId) (job : JobId) :
    countForJob ⟨p.operations.insert id operation⟩ job = p.countForJob job := by
  rw [countForJob_eq_countP, countForJob_eq_countP, Table.insert, Table.countP_put_same found]
  rw [owner]

theorem countForJob_purgeJob (p : Pipeline) (purged job : JobId) :
    (p.purgeJob purged).2.countForJob job = if purged = job then 0 else p.countForJob job := by
  rw [countForJob_eq_countP, countForJob_eq_countP, purgeJob, Table.filter, List.countP_filter]
  by_cases same : purged = job
  · rw [if_pos same, List.countP_eq_zero]
    simp [same]
  · rw [if_neg same]
    refine List.countP_congr fun row _ => ?_
    simp only [ne_eq, decide_not, Bool.and_eq_true, decide_eq_true_eq, Bool.not_eq_eq_eq_not,
      Bool.not_true, decide_eq_false_iff_not, and_iff_left_iff_imp]
    rintro rfl
    exact Ne.symm same

/-! ## What has been defined -/

/-- Whether an answer says that an operation has been defined for a job. -/
def defines (job : JobId) : Operation × Except PipelineError Answer → Bool
  | (.define owner _ _, .ok _) => owner = job
  | _ => false

/-- How many operations have been defined for a job since its last purge, by the answers given. -/
def definitions (job : JobId) (answers : List (Operation × Except PipelineError Answer)) : Nat :=
  (answers.rtakeWhile fun entry => entry.1 ≠ .purgeJob job).countP (defines job)

theorem definitions_concat (job : JobId) (answers : List (Operation × Except PipelineError Answer))
    (entry : Operation × Except PipelineError Answer) :
    definitions job (answers ++ [entry]) =
      if entry.1 = .purgeJob job then 0
      else definitions job answers + (if defines job entry then 1 else 0) := by
  unfold definitions
  by_cases purge : entry.1 = .purgeJob job
  · rw [if_pos purge, List.rtakeWhile_concat_neg _ _ _ (by simp [purge]), List.countP_nil]
  · rw [if_neg purge, List.rtakeWhile_concat_pos _ _ _ (by simp [purge]), List.countP_append,
      List.countP_singleton]

/-- One operation adds what it defines for a job to the count, or takes all of it away. -/
theorem apply_countForJob {s : Numbered Pipeline} (orderly : Orderly s) (operation : Operation)
    (job : JobId) :
    (apply s operation).2.store.countForJob job =
      if operation = .purgeJob job then 0
      else s.store.countForJob job +
        (if defines job (operation, (apply s operation).1) then 1 else 0) := by
  cases operation with
  | define owner executable arguments =>
      rcases define_outcome s owner executable arguments with ⟨e, refused⟩ | ⟨raw, ids, drawn, done⟩
      · simp [apply, refused, defines, Except.map]
      · have fresh : s.store.operations.get? ⟨raw⟩ = none := orderly.issued.fresh drawn rfl
        simp [apply, done, defines, Except.map, countForJob_insert_new fresh]
  | connect owner id connection =>
      rcases s.store.connect_outcome owner id connection with
        ⟨e, refused⟩ | ⟨before, found, -, done⟩
      · simp [apply, refused, defines]
      · simp [apply, done, defines, countForJob_insert_same (get_ok found).1]
  | link owner id link =>
      rcases s.store.link_outcome owner id link with ⟨e, refused⟩ | ⟨before, found, -, done⟩
      · simp [apply, refused, defines]
      · simp [apply, done, defines, countForJob_insert_same (get_ok found).1]
  | finalize owner id outcome =>
      rcases s.store.finalize_outcome owner id outcome with ⟨e, refused⟩ | ⟨before, found, -, done⟩
      · simp [apply, refused, defines]
      · simp [apply, done, defines, countForJob_insert_same (get_ok found).1]
  | purgeJob purged =>
      simp only [apply, defines, Bool.false_eq_true, if_false, Nat.add_zero,
        Operation.purgeJob.injEq]
      exact countForJob_purgeJob s.store purged job
  | finalizable owner id | get owner id | countForJob owner => rfl

/-- The count of a job is the number of operations defined for it since its last purge. -/
theorem turns_countForJob {s : Numbered Pipeline} (orderly : Orderly s) (job : JobId)
    (blank : s.store.countForJob job = 0) (history : List (Numbered.Turn Operation)) :
    (s.turns apply history).store.countForJob job = definitions job (s.answers apply history) := by
  induction history using List.reverseRecOn with
  | nil => exact blank
  | append_singleton history next ih =>
      rw [Numbered.turns_concat, Numbered.answers_concat]
      cases next with
      | elsewhere drawn => simpa [Numbered.turn, Numbered.answer?] using ih
      | own operation =>
          have held := turns_preserve_orderly orderly history
          simp only [Numbered.turn, Numbered.answer?, Option.toList_some, definitions_concat,
            apply_countForJob held, ih]

/-! ## Refusals -/

/-- What fails changes nothing. -/
theorem apply_error {s : Numbered Pipeline} {operation : Operation} {e : PipelineError}
    (failed : (apply s operation).1 = .error e) : (apply s operation).2 = s := by
  cases operation with
  | define owner executable arguments =>
      simp only [apply] at failed ⊢
      rcases define_outcome s owner executable arguments with ⟨e, refused⟩ | ⟨raw, ids, -, done⟩
      · rw [refused]
      · rw [done] at failed
        exact nomatch failed
  | connect owner id connection =>
      simp only [apply] at failed ⊢
      rcases s.store.connect_outcome owner id connection with ⟨e, refused⟩ | ⟨before, -, -, done⟩
      · rw [refused]
      · rw [done] at failed
        exact nomatch failed
  | link owner id link =>
      simp only [apply] at failed ⊢
      rcases s.store.link_outcome owner id link with ⟨e, refused⟩ | ⟨before, -, -, done⟩
      · rw [refused]
      · rw [done] at failed
        exact nomatch failed
  | finalize owner id outcome =>
      simp only [apply] at failed ⊢
      rcases s.store.finalize_outcome owner id outcome with ⟨e, refused⟩ | ⟨before, -, -, done⟩
      · rw [refused]
      · rw [done] at failed
        exact nomatch failed
  | countForJob owner | purgeJob owner => exact nomatch failed
  | finalizable owner id | get owner id => rfl

/-- The operations that name an operation of the pipeline on behalf of a job. -/
inductive Operation.Names (job : JobId) (id : OperationId) : Operation → Prop
  | connect (connection : Connection) : Names job id (.connect job id connection)
  | link (link : Link) : Names job id (.link job id link)
  | finalizable : Names job id (.finalizable job id)
  | finalize (outcome : OperationOutcome) : Names job id (.finalize job id outcome)
  | get : Names job id (.get job id)

/-- Whatever names an operation that is not there for the job is refused in the same way. -/
theorem apply_of_missing {s : Numbered Pipeline} {job : JobId} {id : OperationId}
    {operation : Operation} (missing : s.store.get job id = .error (.notFound job id))
    (names : operation.Names job id) : apply s operation = (.error (.notFound job id), s) := by
  cases names with
  | connect connection => simp only [apply, connect, missing, Except.map]
  | link link => simp only [apply, Pipeline.link, missing, Except.map]
  | finalizable => simp only [apply, finalizable, missing, Except.map]
  | finalize outcome => simp only [apply, finalize, missing, Except.map]
  | get => simp only [apply, missing, Except.map]

theorem get_of_stranger {p : Pipeline} {id : OperationId} {operation : DataOperation} {job : JobId}
    (found : p.operations.get? id = some operation) (other : operation.jobId ≠ job) :
    p.get job id = .error (.notFound job id) := by
  simp only [get, found, if_neg other]

theorem get_of_erased (p : Pipeline) (job : JobId) (id : OperationId) :
    get ⟨p.operations.erase id⟩ job id = .error (.notFound job id) := by
  simp [get]

/-! ## After any history -/

/-- After any history, what an operation has on record fits its status. Its status takes one step at
a time, its record only grows, and it is on record until its job is purged. To any other job it is
as if it were not there. A job has as many operations as were defined for it since its last purge,
and what fails changes nothing. -/
theorem operations_keep_their_record (ids : IdAllocator)
    (history : List (Numbered.Turn Operation)) :
    let start : Numbered Pipeline := ⟨ids, empty⟩
    let s := start.turns apply history
    (∀ id operation, s.store.operations.get? id = some operation →
      operation.Consistent ∧
      (∀ next now, (s.turn apply next).store.operations.get? id = some now →
        now.status = operation.status ∨ operation.status.Leads now.status) ∧
      (∀ after now, (s.turns apply after).store.operations.get? id = some now →
        operation.Onward now) ∧
      (∀ after, .own (.purgeJob operation.jobId) ∉ after →
        ∃ now, (s.turns apply after).store.operations.get? id = some now) ∧
      ∀ job asked, operation.jobId ≠ job → asked.Names job id →
        apply s asked = (.error (.notFound job id), s) ∧
        (apply s asked).1 = (apply ⟨s.ids, ⟨s.store.operations.erase id⟩⟩ asked).1) ∧
    (∀ job, s.store.countForJob job = definitions job (start.answers apply history)) ∧
    ∀ asked e, (apply s asked).1 = .error e → (apply s asked).2 = s := by
  intro start s
  have orderly : Orderly s := turns_preserve_orderly (orderly_empty ids) history
  refine ⟨?_, ?_, fun asked e => apply_error⟩
  · intro id operation found
    refine ⟨orderly.consistent id operation found, fun next now => turn_status orderly next found,
      fun after now => turns_onward orderly found after,
      fun after => turns_keep orderly found after, ?_⟩
    intro job asked other names
    have refused := apply_of_missing (get_of_stranger found other) names
    have erased := apply_of_missing
      (s := ⟨s.ids, ⟨s.store.operations.erase id⟩⟩) (get_of_erased s.store job id) names
    exact ⟨refused, by rw [refused, erased]⟩
  · intro job
    exact turns_countForJob (orderly_empty ids) job rfl history

/-- A job that is purged starts again at nothing, and the operations of others stay. -/
example :
    let s := (⟨.fresh, empty⟩ : Numbered Pipeline).turns apply [
      .own (.define ⟨1⟩ "sort" []), .own (.define ⟨2⟩ "cat" []), .own (.purgeJob ⟨1⟩),
      .elsewhere 3, .own (.define ⟨1⟩ " " []), .own (.define ⟨1⟩ "sort" [])]
    (s.store.countForJob ⟨1⟩, s.store.countForJob ⟨2⟩) = (1, 1) := by
  decide +kernel

end Pipeline

end StorageBroker
