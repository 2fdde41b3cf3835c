import StorageBroker.Proofs.DataOperation.Count

/-! # What can be finalized

Whoever finalizes an operation asks first whether it may be finalized, then perhaps waits, and
records the outcome last. The first answer is the one that recording would get at the same time. It
stands as long as nobody records an outcome and the job is not purged, whatever else is asked of the
pipeline in the meantime, and the link that it came with is the one on record in the end. -/

set_option autoImplicit false

namespace StorageBroker.Pipeline

/-! ## The check and the step -/

section

variable {p : Pipeline} {job : JobId} {id : OperationId} {operation : DataOperation}
  {outcome : OperationOutcome}

theorem get_eq_ok : p.get job id = .ok operation ↔
    p.operations.get? id = some operation ∧ operation.jobId = job := by
  refine ⟨get_ok, ?_⟩
  rintro ⟨found, mine⟩
  simp only [get, found, if_pos mine]

theorem finalizable_of_ready (found : p.get job id = .ok operation)
    (ready : operation.status.isFinalizable = true) : p.finalizable job id = .ok operation := by
  unfold finalizable
  cases status : operation.status <;> simp_all [OperationStatus.isFinalizable]

theorem finalizable_of_unready (found : p.get job id = .ok operation)
    (unready : operation.status.isFinalizable = false) :
    p.finalizable job id = .error (.invalidState id operation.status .finalize) := by
  unfold finalizable
  cases status : operation.status <;> simp_all [OperationStatus.isFinalizable]

theorem finalizable_eq_ok : p.finalizable job id = .ok operation ↔
    p.get job id = .ok operation ∧ operation.status.isFinalizable = true := by
  refine ⟨fun granted => ?_, fun both => finalizable_of_ready both.1 both.2⟩
  cases found : p.get job id with
  | error e => simp [finalizable, found] at granted
  | ok known =>
      cases ready : known.status.isFinalizable with
      | false =>
          simp [finalizable_of_unready found ready] at granted
      | true =>
          rw [finalizable_of_ready found ready] at granted
          obtain rfl := Except.ok.inj granted
          exact ⟨rfl, ready⟩

/-- Finalizing is answered as the check is, with the outcome in place of the operation. -/
theorem finalize_eq_finalizable (p : Pipeline) (job : JobId) (id : OperationId)
    (outcome : OperationOutcome) :
    (p.finalize job id outcome).1 = (p.finalizable job id).map fun _ => outcome := by
  unfold finalize
  cases found : p.get job id with
  | error e => simp [finalizable, found, Except.map]
  | ok operation =>
      cases ready : operation.status.isFinalizable with
      | false => rw [finalizable_of_unready found ready]; simp [ready, Except.map]
      | true => rw [finalizable_of_ready found ready]; simp [ready, Except.map]

theorem finalize_eq_ok : (p.finalize job id outcome).1 = .ok outcome ↔
    ∃ operation, p.finalizable job id = .ok operation := by
  rw [finalize_eq_finalizable]
  cases p.finalizable job id <;> simp [Except.map]

theorem finalize_eq_error {e : PipelineError} :
    (p.finalize job id outcome).1 = .error e ↔ p.finalizable job id = .error e := by
  rw [finalize_eq_finalizable]
  cases p.finalizable job id <;> simp [Except.map]

/-- What is on record once an operation has been finalized. -/
theorem get_finalize (granted : p.finalizable job id = .ok operation)
    (outcome : OperationOutcome) : (p.finalize job id outcome).2.get job id =
      .ok { operation with status := .finalized, outcome := some outcome } := by
  obtain ⟨found, ready⟩ := finalizable_eq_ok.mp granted
  have mine := (get_ok found).2
  simp only [finalize, found, if_pos ready]
  exact get_eq_ok.mpr ⟨by rw [Table.get?_insert, if_pos rfl], mine⟩

end

/-! ## How long the check stands -/

/-- What takes away, if it succeeds, that an operation of a job may be finalized: an outcome put on
record, by whichever job, or the purge of the operation's own job. -/
inductive Operation.Closes (job : JobId) (id : OperationId) : Operation → Prop
  | finalize (caller : JobId) (outcome : OperationOutcome) :
      Closes job id (.finalize caller id outcome)
  | purgeJob : Closes job id (.purgeJob job)

/-- Writing another operation, or one that may be finalized, leaves an operation that may be. -/
theorem insert_stays_ready {t : Table OperationId DataOperation} {id other : OperationId}
    {operation after : DataOperation} (found : t.get? id = some operation)
    (ready : operation.status.isFinalizable = true)
    (kept : other = id → after.status.isFinalizable = true) :
    ∃ now, (t.insert other after).get? id = some now ∧ now.status.isFinalizable = true := by
  rw [Table.get?_insert]
  by_cases here : id = other
  · exact ⟨after, if_pos here, kept here.symm⟩
  · exact ⟨operation, by rw [if_neg here, found], ready⟩

section

variable {s : Numbered Pipeline} (orderly : Orderly s) {id : OperationId}
include orderly

/-- An operation that may be finalized still may be after a turn that has not closed it. -/
theorem turn_stays_ready (next : Numbered.Turn Operation) {operation : DataOperation}
    (found : s.store.operations.get? id = some operation)
    (ready : operation.status.isFinalizable = true)
    (spared : ∀ asked, next = .own asked → asked.Closes operation.jobId id →
      ∃ e, (apply s asked).1 = .error e) :
    ∃ now, (s.turn apply next).store.operations.get? id = some now ∧
      now.status.isFinalizable = true := by
  cases next with
  | elsewhere drawn => exact ⟨operation, found, ready⟩
  | own asked =>
      change ∃ now, (apply s asked).2.store.operations.get? id = some now ∧ _
      -- what is refused changes nothing, so only what succeeds has to be looked at
      cases answered : (apply s asked).1 with
      | error e => exact ⟨operation, by rw [apply_error answered, found], ready⟩
      | ok answer =>
          have alive : ¬ asked.Closes operation.jobId id := by
            intro closes
            obtain ⟨e, refused⟩ := spared asked rfl closes
            exact nomatch answered.symm.trans refused
          cases asked with
          | define owner executable arguments =>
              rcases define_outcome s owner executable arguments with
                ⟨e, refused⟩ | ⟨raw, ids, drawn, done⟩
              · simp [apply, refused, Except.map] at answered
              · have unused := orderly.issued.fresh drawn (k := ⟨raw⟩) rfl
                simp only [apply, done]
                exact insert_stays_ready found ready fun here => by simp [← here, unused] at found
          | connect owner other connection =>
              rcases s.store.connect_outcome owner other connection with
                ⟨e, refused⟩ | ⟨before, known, -, done⟩
              · simp [apply, refused, Except.map] at answered
              · simp only [apply, done]
                exact insert_stays_ready found ready fun _ => rfl
          | link owner other link =>
              rcases s.store.link_outcome owner other link with
                ⟨e, refused⟩ | ⟨before, known, -, done⟩
              · simp [apply, refused, Except.map] at answered
              · simp only [apply, done]
                exact insert_stays_ready found ready fun _ => rfl
          | finalize owner other outcome =>
              rcases s.store.finalize_outcome owner other outcome with
                ⟨e, refused⟩ | ⟨before, known, -, done⟩
              · simp [apply, refused, Except.map] at answered
              · simp only [apply, done]
                refine insert_stays_ready found ready fun here => ?_
                exact absurd (here ▸ Operation.Closes.finalize owner outcome) alive
          | purgeJob purged =>
              have other : operation.jobId ≠ purged := by
                rintro rfl
                exact alive .purgeJob
              exact ⟨operation, by simp [apply, purgeJob, found, other], ready⟩
          | finalizable owner other | get owner other | countForJob owner =>
              exact ⟨operation, found, ready⟩

/-- An operation that may be finalized still may be after a history in which nothing closes it. -/
theorem turns_stay_ready (history : List (Numbered.Turn Operation)) {operation : DataOperation}
    (found : s.store.operations.get? id = some operation)
    (ready : operation.status.isFinalizable = true)
    (spared : ∀ entry ∈ s.answers apply history, entry.1.Closes operation.jobId id →
      ∃ e, entry.2 = .error e) :
    ∃ now, (s.turns apply history).store.operations.get? id = some now ∧
      now.status.isFinalizable = true := by
  induction history generalizing s operation with
  | nil => exact ⟨operation, found, ready⟩
  | cons next rest ih =>
      obtain ⟨now, still, may⟩ := turn_stays_ready orderly next found ready fun asked here => by
        subst here
        exact spared _ (List.mem_append_left _ (List.mem_singleton_self _))
      have same := (turns_onward orderly found [next] still).jobId
      refine ih (turn_preserves_orderly orderly next) still may fun entry listed closes => ?_
      exact spared entry (List.mem_append_right _ listed) (same ▸ closes)

end

/-- A number that has been spent and names no operation but perhaps one that is finalized. -/
structure Closed (id : OperationId) (s : Numbered Pipeline) : Prop where
  spent : id.raw.toNat ≤ s.ids.issued
  finalized : ∀ operation, s.store.operations.get? id = some operation →
    operation.status = .finalized

theorem turn_stays_closed {s : Numbered Pipeline} {id : OperationId} (closed : Closed id s)
    (next : Numbered.Turn Operation) : Closed id (s.turn apply next) where
  spent := Nat.le_trans closed.spent (issued_le_turn s next)
  finalized := by
    intro operation found
    rcases turn_record s next found with ⟨before, known, rfl | moved⟩ | ⟨new, -⟩
    · exact closed.finalized operation known
    · have leads := moved.leads
      rw [closed.finalized before known] at leads
      exact nomatch leads
    · exact absurd closed.spent (by omega)

/-- What closes an operation that is on record leaves it closed. -/
theorem closed_of_closes {s : Numbered Pipeline} (orderly : Orderly s) {id : OperationId}
    {operation : DataOperation} (found : s.store.operations.get? id = some operation)
    {asked : Operation} (closes : asked.Closes operation.jobId id) {answer : Answer}
    (answered : (apply s asked).1 = .ok answer) : Closed id (apply s asked).2 where
  spent := Nat.le_trans (orderly.issued id (by simp [found])) (issued_le_turn s (.own asked))
  finalized := by
    intro now later
    cases closes with
    | finalize caller outcome =>
        rcases s.store.finalize_outcome caller id outcome with
          ⟨e, refused⟩ | ⟨before, known, -, done⟩
        · simp [apply, refused, Except.map] at answered
        · simp only [apply, done, Table.get?_insert, if_pos] at later
          rw [← Option.some.inj later]
    | purgeJob =>
        obtain ⟨rfl, other⟩ : operation = now ∧ ¬ now.jobId = operation.jobId := by
          simpa [apply, purgeJob, found] using later
        exact absurd rfl other

/-- An operation that may be finalized after a history has not been closed in it. -/
theorem spared_of_ready {s : Numbered Pipeline} (orderly : Orderly s) {id : OperationId}
    (history : List (Numbered.Turn Operation)) {operation now : DataOperation}
    (found : s.store.operations.get? id = some operation)
    (later : (s.turns apply history).store.operations.get? id = some now)
    (ready : now.status.isFinalizable = true) :
    ∀ entry ∈ s.answers apply history, entry.1.Closes operation.jobId id →
      ∃ e, entry.2 = .error e := by
  induction history generalizing s operation with
  | nil => exact fun entry listed => absurd listed List.not_mem_nil
  | cons next rest ih =>
      have never : ¬ Closed id (s.turn apply next) := by
        intro closed
        have final := (Numbered.turns_invariant (P := Closed id)
          (fun _ next held => turn_stays_closed held next) closed rest).finalized now later
        simp [final, OperationStatus.isFinalizable] at ready
      intro entry listed closes
      rcases List.mem_append.mp listed with first | rest
      · cases next with
        | elsewhere drawn => exact absurd first List.not_mem_nil
        | own asked =>
            obtain rfl := List.mem_singleton.mp first
            cases answered : (apply s asked).1 with
            | error e => exact ⟨e, rfl⟩
            | ok answer => exact absurd (closed_of_closes orderly found closes answered) never
      · cases still : (s.turn apply next).store.operations.get? id with
        | none =>
            refine absurd ⟨?_, fun operation present => ?_⟩ never
            · exact Nat.le_trans (orderly.issued id (by simp [found])) (issued_le_turn s next)
            · simp [still] at present
        | some between =>
            have same := (turns_onward orderly found [next] still).jobId
            exact ih (turn_preserves_orderly orderly next) still later entry rest (same ▸ closes)

/-! ## After any history -/

/-- In every state that a history leads to:

* an operation may be finalized for a job exactly if finalizing it succeeds now, whatever the
  outcome, and otherwise both are refused with the same error;
* what the check gives is the operation on record. However the history goes on, finalizing it
  succeeds exactly as long as nobody has finalized it and its job has not been purged;
* if the operation came with a link, that is the link on record when it is finalized, and it stays
  on record with the outcome. -/
theorem early_check_is_final_check (ids : IdAllocator) (history : List (Numbered.Turn Operation))
    (job : JobId) (id : OperationId) (outcome : OperationOutcome) :
    let s := (⟨ids, empty⟩ : Numbered Pipeline).turns apply history
    ((∃ operation, s.store.finalizable job id = .ok operation) ↔
      (s.store.finalize job id outcome).1 = .ok outcome) ∧
    (∀ e, s.store.finalizable job id = .error e ↔
      (s.store.finalize job id outcome).1 = .error e) ∧
    ∀ operation, s.store.finalizable job id = .ok operation →
      s.store.get job id = .ok operation ∧
      ∀ later, let p := (s.turns apply later).store
        ((p.finalize job id outcome).1 = .ok outcome ↔
          ∀ entry ∈ s.answers apply later, entry.1.Closes job id → ∃ e, entry.2 = .error e) ∧
        ∀ link, operation.link = some link → (p.finalize job id outcome).1 = .ok outcome →
          ∃ now, p.get job id = .ok now ∧ now.link = some link ∧
            (p.finalize job id outcome).2.get job id =
              .ok { now with status := .finalized, outcome := some outcome } := by
  intro s
  have orderly : Orderly s := turns_preserve_orderly (orderly_empty ids) history
  refine ⟨finalize_eq_ok.symm, fun e => finalize_eq_error.symm, ?_⟩
  intro operation granted
  obtain ⟨known, ready⟩ := finalizable_eq_ok.mp granted
  obtain ⟨found, rfl⟩ := get_eq_ok.mp known
  refine ⟨known, fun later => ⟨⟨fun done => ?_, fun spared => ?_⟩, ?_⟩⟩
  · obtain ⟨now, may⟩ := finalize_eq_ok.mp done
    obtain ⟨still, ready⟩ := finalizable_eq_ok.mp may
    exact spared_of_ready orderly later found (get_ok still).1 ready
  · obtain ⟨now, still, ready⟩ := turns_stay_ready orderly later found ready spared
    have same := (turns_onward orderly found later still).jobId
    exact finalize_eq_ok.mpr ⟨now, finalizable_of_ready (get_eq_ok.mpr ⟨still, same⟩) ready⟩
  · intro link linked done
    obtain ⟨now, may⟩ := finalize_eq_ok.mp done
    have still := (finalizable_eq_ok.mp may).1
    have onward := turns_onward orderly found later (get_ok still).1
    exact ⟨now, still, onward.link link linked, get_finalize may outcome⟩

/-- An operation is linked and may be finalized. Another job tries to finalize it and is purged, and
numbers are drawn for others; then it is finalized, with the link it had. -/
theorem linked_operation_outlasts_strangers :
    let link : Link := ⟨⟨5⟩, true, []⟩
    let s := (⟨.fresh, empty⟩ : Numbered Pipeline).turns apply [
      .own (.define ⟨9⟩ "sort" []), .own (.connect ⟨9⟩ ⟨1⟩ ⟨[], [], false, []⟩),
      .own (.link ⟨9⟩ ⟨1⟩ link)]
    let p := (s.turns apply [
      .own (.finalize ⟨8⟩ ⟨1⟩ .failed), .elsewhere 2, .own (.purgeJob ⟨8⟩)]).store
    (p.finalize ⟨9⟩ ⟨1⟩ .succeeded).1 = .ok .succeeded ∧
      ∃ now, p.get ⟨9⟩ ⟨1⟩ = .ok now ∧ now.link = some link := by
  intro link s p
  have granted : s.store.finalizable ⟨9⟩ ⟨1⟩ =
      .ok ⟨⟨1⟩, ⟨9⟩, "sort", [], .linked, some ⟨[], [], false, []⟩, some link, none⟩ := by
    decide +kernel
  obtain ⟨-, stands⟩ := (early_check_is_final_check .fresh _ ⟨9⟩ ⟨1⟩ .succeeded).2.2 _ granted
  obtain ⟨succeeds, keeps⟩ := stands _
  have asked : s.answers apply [
      .own (.finalize ⟨8⟩ ⟨1⟩ .failed), .elsewhere 2, .own (.purgeJob ⟨8⟩)] =
      [(.finalize ⟨8⟩ ⟨1⟩ .failed, .error (.notFound ⟨8⟩ ⟨1⟩)),
        (.purgeJob ⟨8⟩, .ok (.count 0))] := by
    decide +kernel
  have done : (p.finalize ⟨9⟩ ⟨1⟩ .succeeded).1 = .ok .succeeded := by
    refine succeeds.mpr fun entry listed closes => ?_
    rw [asked] at listed
    simp only [List.mem_cons, List.not_mem_nil, or_false] at listed
    rcases listed with rfl | rfl
    · exact ⟨_, rfl⟩
    · exact nomatch closes
  obtain ⟨now, still, kept, -⟩ := keeps link rfl done
  exact ⟨done, now, still, kept⟩

end StorageBroker.Pipeline
