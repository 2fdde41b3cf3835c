import Mathlib.Data.List.Induction
import Mathlib.Logic.Relation
import StorageBroker.Proofs.DataOperation.Stage
import StorageBroker.Proofs.History

/-! # The record of a data operation

What an operation has on record fits its status: a connection from the time it is connected, an
outcome from the time it is finalized, and a link if it is linked. Over every history the record of
an operation only grows, and its status takes one step at a time. -/

set_option autoImplicit false

namespace StorageBroker

/-- The steps of a status; an operation may be finalized without being linked. -/
inductive OperationStatus.Leads : OperationStatus → OperationStatus → Prop
  | connect : Leads .defined .connected
  | link : Leads .connected .linked
  | finalize : Leads .connected .finalized
  | finalizeLinked : Leads .linked .finalized

namespace DataOperation

/-- What an operation has on record fits its status. -/
structure Consistent (operation : DataOperation) : Prop where
  connection : operation.connection.isSome = true ↔ operation.status ≠ .defined
  outcome : operation.outcome.isSome = true ↔ operation.status = .finalized
  unlinked : operation.status = .defined ∨ operation.status = .connected → operation.link = none
  linked : operation.status = .linked → operation.link.isSome = true

/-- Two states of one operation: it is what it was defined as, its status has taken its steps, and
what was on record still is. -/
structure Onward (before after : DataOperation) : Prop extends Later before after where
  id : after.id = before.id
  executable : after.executable = before.executable
  arguments : after.arguments = before.arguments
  steps : Relation.ReflTransGen OperationStatus.Leads before.status after.status
  connection : ∀ made, before.connection = some made → after.connection = some made
  link : ∀ tied, before.link = some tied → after.link = some tied
  outcome : ∀ ended, before.outcome = some ended → after.outcome = some ended

/-- The ways in which an operation takes one step. -/
inductive Moved (operation : DataOperation) : DataOperation → Prop
  | connected (connection : Connection) (status : operation.status = .defined) :
      Moved operation { operation with status := .connected, connection := some connection }
  | linked (link : Link) (status : operation.status = .connected) :
      Moved operation { operation with status := .linked, link := some link }
  | finalized (outcome : OperationOutcome) (ready : operation.status.isFinalizable = true) :
      Moved operation { operation with status := .finalized, outcome := some outcome }

theorem Consistent.defined (id : OperationId) (job : JobId) (executable : String)
    (arguments : List Argument) :
    Consistent ⟨id, job, executable, arguments, .defined, none, none, none⟩ := by
  constructor <;> simp

theorem Onward.refl (operation : DataOperation) : operation.Onward operation :=
  ⟨.refl operation, rfl, rfl, rfl, .refl, fun _ known => known, fun _ known => known,
    fun _ known => known⟩

theorem Onward.trans {before middle after : DataOperation} (first : before.Onward middle)
    (last : middle.Onward after) : before.Onward after where
  toLater := first.toLater.trans last.toLater
  id := last.id.trans first.id
  executable := last.executable.trans first.executable
  arguments := last.arguments.trans first.arguments
  steps := first.steps.trans last.steps
  connection made known := last.connection made (first.connection made known)
  link tied known := last.link tied (first.link tied known)
  outcome ended known := last.outcome ended (first.outcome ended known)

section

variable {operation after : DataOperation} (moved : operation.Moved after)
include moved

theorem Moved.leads : operation.status.Leads after.status := by
  cases moved with
  | connected connection status => exact status ▸ .connect
  | linked link status => exact status ▸ .link
  | finalized outcome ready =>
      cases status : operation.status with
      | connected => exact .finalize
      | linked => exact .finalizeLinked
      | defined => exact absurd ready (by simp [status, OperationStatus.isFinalizable])
      | finalized => exact absurd ready (by simp [status, OperationStatus.isFinalizable])

theorem Moved.consistent (held : operation.Consistent) : after.Consistent := by
  obtain ⟨connection, outcome, unlinked, linked⟩ := held
  cases moved with
  | connected made status =>
      exact ⟨by simp, by simp [outcome, status], fun _ => unlinked (.inl status), by simp⟩
  | linked tied status =>
      exact ⟨by simp [connection, status], by simp [outcome, status], by simp, by simp⟩
  | finalized ended ready =>
      have early : operation.status ≠ .defined := by
        rintro status
        simp [status, OperationStatus.isFinalizable] at ready
      exact ⟨by simp [connection, early], by simp, by simp, by simp⟩

theorem Moved.onward (held : operation.Consistent) : operation.Onward after := by
  have steps : Relation.ReflTransGen OperationStatus.Leads operation.status after.status :=
    .single moved.leads
  cases moved with
  | connected made status =>
      have blank : operation.connection = none := by simpa [status] using held.connection
      refine ⟨⟨rfl, ?_, ?_⟩, rfl, rfl, rfl, steps, ?_, fun _ known => known, fun _ known => known⟩
      · simp [status, OperationStatus.stage]
      · simp [status]
      · simp [blank]
  | linked tied status =>
      have blank : operation.link = none := held.unlinked (.inr status)
      refine ⟨⟨rfl, ?_, ?_⟩, rfl, rfl, rfl, steps, fun _ known => known, ?_, fun _ known => known⟩
      · simp [status, OperationStatus.stage]
      · simp [status]
      · simp [blank]
  | finalized ended ready =>
      have early := OperationStatus.isFinalizable_iff.mp ready
      have going : operation.status ≠ .finalized := by
        intro status
        simp [status, OperationStatus.stage] at early
      have blank : operation.outcome = none := by simpa [going] using held.outcome
      exact ⟨⟨rfl, Nat.le_of_lt early.2, fun final => absurd final going⟩, rfl, rfl, rfl, steps,
        fun _ known => known, fun _ known => known, by simp [blank]⟩

end

end DataOperation

namespace Pipeline

/-! ## One turn -/

/-- Where an operation on record comes from: it was on record and has taken at most one step, or it
has just been defined. -/
theorem Effect.record {owner : Option JobId} {tie : Option (JobId × Link)}
    {s s' : Numbered Pipeline} (effect : Effect owner tie s s') {id : OperationId}
    {operation : DataOperation} (found : s'.store.operations.get? id = some operation) :
    (∃ before, s.store.operations.get? id = some before ∧
      (operation = before ∨ before.Moved operation)) ∨
    (s.ids.issued < id.raw.toNat ∧ ∃ job executable arguments,
      operation = ⟨id, job, executable, arguments, .defined, none, none, none⟩) := by
  have moved : ∀ {known : OperationId} {before after : DataOperation},
      s.store.operations.get? known = some before → before.Moved after →
      (s.store.operations.insert known after).get? id = some operation →
      ∃ before, s.store.operations.get? id = some before ∧
        (operation = before ∨ before.Moved operation) := by
    intro known before after tracked moves found
    rw [Table.get?_insert] at found
    by_cases mine : id = known
    · subst mine
      rw [if_pos rfl] at found
      exact ⟨before, tracked, .inr (Option.some.inj found ▸ moves)⟩
    · rw [if_neg mine] at found
      exact ⟨operation, found, .inl rfl⟩
  cases effect with
  | nothing => exact .inl ⟨operation, found, .inl rfl⟩
  | @defined raw ids job executable arguments asked drawn =>
      rw [Table.get?_insert] at found
      by_cases new : id = ⟨raw⟩
      · subst new
        rw [if_pos rfl] at found
        have value := (IdAllocator.allocate_some drawn).1
        exact .inr ⟨by simp only; omega, job, executable, arguments, (Option.some.inj found).symm⟩
      · rw [if_neg new] at found
        exact .inl ⟨operation, found, .inl rfl⟩
  | connected connection known status =>
      exact .inl (moved known (.connected connection status) found)
  | linked asked known status => exact .inl (moved known (.linked _ status) found)
  | finalized outcome known status => exact .inl (moved known (.finalized outcome status) found)

/-- What one turn can do: an effect on one operation, the purge of a job, or a draw. -/
theorem turn_outcome (s : Numbered Pipeline) (next : Numbered.Turn Operation) :
    (∃ owner tie, Effect owner tie s (s.turn apply next)) ∨
    (∃ job, next = .own (.purgeJob job) ∧
      s.turn apply next = ⟨s.ids, ⟨s.store.operations.filter fun _ held => held.jobId ≠ job⟩⟩) ∨
    ∃ ids, s.ids.issued ≤ ids.issued ∧ s.turn apply next = ⟨ids, s.store⟩ := by
  cases next with
  | elsewhere drawn => exact .inr (.inr ⟨_, s.ids.issued_le_take drawn, rfl⟩)
  | own operation =>
      cases operation with
      | define job executable arguments =>
          exact .inl ⟨_, _, define_effect s job executable arguments⟩
      | connect job id connection =>
          exact .inl ⟨_, _, connect_effect s.ids s.store job id connection⟩
      | link job id link => exact .inl ⟨_, _, link_effect s.ids s.store job id link⟩
      | finalize job id outcome => exact .inl ⟨_, _, finalize_effect s.ids s.store job id outcome⟩
      | purgeJob job => exact .inr (.inl ⟨job, rfl, rfl⟩)
      | finalizable job id | get job id | countForJob job => exact .inl ⟨none, none, .nothing⟩

theorem issued_le_turn (s : Numbered Pipeline) (next : Numbered.Turn Operation) :
    s.ids.issued ≤ (s.turn apply next).ids.issued := by
  rcases turn_outcome s next with ⟨owner, tie, effect⟩ | ⟨job, -, purged⟩ | ⟨ids, later, drawn⟩
  · exact effect.draws.later
  · exact purged ▸ Nat.le_refl s.ids.issued
  · exact drawn ▸ later

theorem turn_record (s : Numbered Pipeline) (next : Numbered.Turn Operation) {id : OperationId}
    {operation : DataOperation}
    (found : (s.turn apply next).store.operations.get? id = some operation) :
    (∃ before, s.store.operations.get? id = some before ∧
      (operation = before ∨ before.Moved operation)) ∨
    (s.ids.issued < id.raw.toNat ∧ ∃ job executable arguments,
      operation = ⟨id, job, executable, arguments, .defined, none, none, none⟩) := by
  rcases turn_outcome s next with ⟨owner, tie, effect⟩ | ⟨job, -, purged⟩ | ⟨ids, -, drawn⟩
  · exact effect.record found
  · rw [purged, Table.get?_filter, Option.filter_eq_some_iff] at found
    exact .inl ⟨operation, found.1, .inl rfl⟩
  · rw [drawn] at found
    exact .inl ⟨operation, found, .inl rfl⟩

/-- Numbers on record have been issued, an operation is on record under its own number, and its
record fits its status. -/
structure Orderly (s : Numbered Pipeline) : Prop where
  issued : KeysIssued OperationId.raw s.ids.issued s.store.operations
  filed : ∀ id operation, s.store.operations.get? id = some operation → operation.id = id
  consistent : ∀ id operation, s.store.operations.get? id = some operation → operation.Consistent

theorem orderly_empty (ids : IdAllocator) : Orderly ⟨ids, empty⟩ where
  issued := by intro id present; simp [empty] at present
  filed := by intro id operation found; simp [empty] at found
  consistent := by intro id operation found; simp [empty] at found

section

variable {s : Numbered Pipeline} (orderly : Orderly s)
include orderly

theorem turn_preserves_issued (next : Numbered.Turn Operation) :
    KeysIssued OperationId.raw (s.turn apply next).ids.issued
      (s.turn apply next).store.operations := by
  rcases turn_outcome s next with ⟨owner, tie, effect⟩ | ⟨job, -, purged⟩ | ⟨ids, later, drawn⟩
  · exact orderly.issued.of_drawn effect.draws.operations effect.draws.later
  · rw [purged]
    exact orderly.issued.of_drawn (.filter _ _) (Nat.le_refl _)
  · rw [drawn]
    exact orderly.issued.of_drawn (.refl _) later

theorem turn_preserves_orderly (next : Numbered.Turn Operation) :
    Orderly (s.turn apply next) where
  issued := turn_preserves_issued orderly next
  filed := by
    intro id operation found
    rcases turn_record s next found with
      ⟨before, known, rfl | moved⟩ | ⟨-, job, executable, arguments, rfl⟩
    · exact orderly.filed id operation known
    · exact (moved.onward (orderly.consistent id before known)).id.trans
        (orderly.filed id before known)
    · rfl
  consistent := by
    intro id operation found
    rcases turn_record s next found with
      ⟨before, known, rfl | moved⟩ | ⟨-, job, executable, arguments, rfl⟩
    · exact orderly.consistent id operation known
    · exact moved.consistent (orderly.consistent id before known)
    · exact .defined id job executable arguments

/-- An operation takes at most one step in a turn. -/
theorem turn_status (next : Numbered.Turn Operation) {id : OperationId}
    {operation now : DataOperation} (found : s.store.operations.get? id = some operation)
    (later : (s.turn apply next).store.operations.get? id = some now) :
    now.status = operation.status ∨ operation.status.Leads now.status := by
  rcases turn_record s next later with ⟨before, known, rfl | moved⟩ | ⟨new, -⟩
  · obtain rfl := Option.some.inj (known.symm.trans found)
    exact .inl rfl
  · obtain rfl := Option.some.inj (known.symm.trans found)
    exact .inr moved.leads
  · have spent := orderly.issued id (by simp [found])
    omega

/-- Only the purge of its job takes an operation off the record. -/
theorem turn_keeps (next : Numbered.Turn Operation) {id : OperationId} {operation : DataOperation}
    (found : s.store.operations.get? id = some operation)
    (stays : next ≠ .own (.purgeJob operation.jobId)) :
    ∃ now, (s.turn apply next).store.operations.get? id = some now ∧
      now.jobId = operation.jobId := by
  rcases turn_outcome s next with ⟨owner, tie, effect⟩ | ⟨job, rfl, purged⟩ | ⟨ids, -, drawn⟩
  · obtain ⟨now, still, later⟩ := effect.keeps orderly.issued found
    exact ⟨now, still, later.jobId⟩
  · have other : operation.jobId ≠ job := fun same => stays (by rw [same])
    exact ⟨operation, by simp [purged, found, other], rfl⟩
  · exact ⟨operation, by rw [drawn]; exact found, rfl⟩

end

/-! ## Whole histories -/

theorem turns_preserve_orderly {s : Numbered Pipeline} (orderly : Orderly s)
    (history : List (Numbered.Turn Operation)) : Orderly (s.turns apply history) :=
  Numbered.turns_invariant (P := Orderly) (fun _ next held => turn_preserves_orderly held next)
    orderly history

section

variable {s : Numbered Pipeline} (orderly : Orderly s) {id : OperationId}
include orderly

/-- Whenever a number that names an operation names one later, it is the same operation, and its
record has only grown. -/
theorem turns_onward {operation now : DataOperation}
    (found : s.store.operations.get? id = some operation)
    (history : List (Numbered.Turn Operation))
    (later : (s.turns apply history).store.operations.get? id = some now) :
    operation.Onward now := by
  refine Numbered.turns_related Pipeline.operations Orderly DataOperation.Onward
    (fun _ next held => turn_preserves_orderly held next) issued_le_turn
    (fun s next k now held present => ?_) DataOperation.Onward.refl
    (fun _ _ _ first last => first.trans last) orderly found
    (orderly.issued id (by simp [found])) history later
  rcases turn_record s next present with ⟨before, known, rfl | moved⟩ | ⟨new, -⟩
  · exact .inl ⟨now, known, .refl now⟩
  · exact .inl ⟨before, known, moved.onward (held.consistent k before known)⟩
  · exact .inr new

theorem turns_keep {operation : DataOperation}
    (found : s.store.operations.get? id = some operation)
    (history : List (Numbered.Turn Operation))
    (stays : .own (.purgeJob operation.jobId) ∉ history) :
    ∃ now, (s.turns apply history).store.operations.get? id = some now := by
  induction history generalizing s operation with
  | nil => exact ⟨operation, found⟩
  | cons next rest ih =>
      rw [List.mem_cons, not_or] at stays
      obtain ⟨now, still, same⟩ := turn_keeps orderly next found fun here => stays.1 here.symm
      exact ih (turn_preserves_orderly orderly next) still (same ▸ stays.2)

end

end Pipeline

end StorageBroker
