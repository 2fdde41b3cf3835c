import Mathlib.Logic.Relation
import StorageBroker.Proofs.Registry.Effect
import StorageBroker.Service.Waiting

/-! # Deployments that move

A call that deploys or tears down changes a service by operations of deployment and by nothing
else. `Moved` says so once for every stretch of such a call; whatever the operations of deployment
keep, the stretches keep. -/

set_option autoImplicit false

namespace StorageBroker

namespace Registry

theorem apply_of_moves {op : Operation} (moves : op.moves = true) (s : Numbered Registry) :
    (apply s op).2 = s ∨ ∃ id entry deployment, s.store.adhoc.get? id = some entry ∧
      (apply s op).2 = ⟨s.ids, s.store.setDeployment id entry deployment⟩ := by
  have applied := apply_applied s op
  generalize apply s op = result at applied ⊢
  cases applied with
  | refused e => exact .inl rfl
  | read answer reads => exact .inl rfl
  | idled found idles => exact .inl rfl
  | moved answer found step => exact .inr ⟨_, _, _, found, rfl⟩
  | _ => exact absurd moves (by simp [Operation.moves, Operation.completes])

theorem apply_ids_of_moves {op : Operation} (moves : op.moves = true) (s : Numbered Registry) :
    (apply s op).2.ids = s.ids := by
  rcases apply_of_moves moves s with same | ⟨id, entry, deployment, -, set⟩
  · rw [same]
  · rw [set]

theorem Operation.removed?_of_moves {op : Operation} (moves : op.moves = true) :
    op.removed? = none := by
  cases op with
  | removeJob job => exact absurd moves (by simp [Operation.moves, Operation.completes])
  | _ => rfl

end Registry

namespace Service

/-- Any number of operations of deployment that are allowed, one after another. -/
def Moved (allowed : Registry.Operation → Prop) : Service → Service → Prop :=
  Relation.ReflTransGen fun s s' => ∃ op : Registry.Operation, op.moves = true ∧ allowed op ∧
    s' = { s with registry := (Registry.apply ⟨s.ids, s.registry⟩ op).2.store }

variable {allowed : Registry.Operation → Prop}

namespace Moved

variable {s s' s'' : Service}

theorem refl (s : Service) : Moved allowed s s := Relation.ReflTransGen.refl

theorem trans (first : Moved allowed s s') (last : Moved allowed s' s'') : Moved allowed s s'' :=
  Relation.ReflTransGen.trans first last

theorem of_operation (s : Service) (op : Registry.Operation) (moves : op.moves = true)
    (may : allowed op) :
    Moved allowed s { s with registry := (Registry.apply ⟨s.ids, s.registry⟩ op).2.store } :=
  Relation.ReflTransGen.single ⟨op, moves, may, rfl⟩

/-- What every operation of deployment keeps is kept. -/
theorem invariant {P : Service → Prop}
    (kept : ∀ (s : Service) (op : Registry.Operation), op.moves = true → allowed op → P s →
      P { s with registry := (Registry.apply ⟨s.ids, s.registry⟩ op).2.store })
    (moved : Moved allowed s s') (initial : P s) : P s' := by
  induction moved with
  | refl => exact initial
  | tail _ last ih =>
      obtain ⟨op, moves, may, rfl⟩ := last
      exact kept _ op moves may ih

end Moved

/-! ## Stretches of a deployment -/

theorem failDeploy_moved (s : Service) (plan : DeploymentPlan) (e : ServiceError)
    (may : allowed (.abortDeploy plan.id)) : Moved allowed s (s.failDeploy plan e).2 := by
  have undone := Moved.of_operation s (.abortDeploy plan.id) rfl may
  unfold failDeploy
  cases result : s.registry.abortDeploy plan.id with
  | mk answer r =>
      simp only [Registry.apply, result] at undone
      cases answer <;> exact undone

theorem completeDeploy_moved (s : Service) (plan : DeploymentPlan) (path : String)
    (may : allowed (.completeDeploy plan.id path)) :
    Moved allowed s (s.completeDeploy plan path).2 := by
  have completed := Moved.of_operation s (.completeDeploy plan.id path) rfl may
  unfold completeDeploy
  cases result : s.registry.completeDeploy plan.id path with
  | mk answer r =>
      simp only [Registry.apply, result] at completed
      cases answer <;> exact completed

section

variable (may : ∀ op : Registry.Operation, op.completes = false → allowed op)
include may

theorem startDeploy_moved (s : Service) (adhoc : AdhocId) :
    Moved allowed s (s.startDeploy adhoc).2 := by
  have begun := Moved.of_operation s (.beginDeploy adhoc) rfl (may _ rfl)
  unfold startDeploy
  cases result : s.registry.beginDeploy adhoc with
  | mk answer r =>
      simp only [Registry.apply, result] at begun
      cases answer with
      | error e => exact begun
      | ok plan =>
          simp only
          cases plan.location with
          | address address => exact begun
          | host hostname => exact begun
          | nowhere => exact begun.trans (failDeploy_moved _ plan _ (may _ rfl))

/-! ## Stretches of a teardown -/

theorem undoTeardown_moved (s : Service) (plan : DeploymentPlan) (e : ServiceError) :
    Moved allowed s (s.undoTeardown plan e).2 := by
  have undone := Moved.of_operation s (.abortTeardown plan.id) rfl (may _ rfl)
  unfold undoTeardown
  cases result : s.registry.abortTeardown plan.id with
  | mk answer r =>
      simp only [Registry.apply, result] at undone
      cases answer <;> exact undone

theorem startTeardown_moved (s : Service) (adhoc : AdhocId) (origin : TeardownOrigin) :
    Moved allowed s (s.startTeardown adhoc origin).2 := by
  have begun := Moved.of_operation s (.beginTeardown adhoc) rfl (may _ rfl)
  unfold startTeardown
  cases result : s.registry.beginTeardown adhoc with
  | mk answer r =>
      simp only [Registry.apply, result] at begun
      cases answer with
      | error e => exact begun
      | ok plan =>
          simp only
          cases plan.location with
          | address address => exact begun
          | host hostname => exact begun
          | nowhere => exact begun.trans (undoTeardown_moved may _ plan _)

theorem sweep_moved (s : Service) (rest : List AdhocId) (tornDown : Nat) :
    Moved allowed s (s.sweep rest tornDown).2 := by
  induction rest generalizing s with
  | nil => exact .refl s
  | cons adhoc rest ih =>
      have started := s.startTeardown_moved may adhoc (.shutdown rest tornDown)
      unfold sweep
      cases result : s.startTeardown adhoc (.shutdown rest tornDown) with
      | mk answer s' =>
          rw [result] at started
          cases answer with
          | ok wait => exact started
          | error e => exact started.trans (ih s')

theorem endTeardown_moved (s : Service) (origin : TeardownOrigin)
    (result : Except ServiceError Unit) : Moved allowed s (s.endTeardown origin result).2 := by
  cases origin with
  | client => cases result <;> exact .refl s
  | shutdown rest tornDown => cases result <;> exact s.sweep_moved may rest _

theorem failTeardown_moved (s : Service) (plan : DeploymentPlan) (origin : TeardownOrigin)
    (e : ServiceError) : Moved allowed s (s.failTeardown plan origin e).2 :=
  (s.undoTeardown_moved may plan e).trans (endTeardown_moved may _ origin _)

theorem completeTeardown_moved (s : Service) (plan : DeploymentPlan) (origin : TeardownOrigin)
    (ends : allowed (.completeTeardown plan.id)) :
    Moved allowed s (s.completeTeardown plan origin).2 := by
  have completed := Moved.of_operation s (.completeTeardown plan.id) rfl ends
  unfold completeTeardown
  cases result : s.registry.completeTeardown plan.id with
  | mk answer r =>
      simp only [Registry.apply, result] at completed
      cases answer <;> exact completed.trans (endTeardown_moved may _ origin _)

/-- Up to its first wait, the teardown that a client asks for moves deployments only. -/
theorem terminate_moved (s : Service) (adhoc : AdhocId) :
    Moved allowed s (s.startRequest (.terminateAdhocStorage adhoc)).2 := by
  have started := s.startTeardown_moved may adhoc .client
  simp only [startRequest]
  cases result : s.startTeardown adhoc .client with
  | mk answer s' =>
      rw [result] at started
      cases answer <;> exact started

end

end Service

end StorageBroker
