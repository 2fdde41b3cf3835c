import StorageBroker.Proofs.Registry.InFlight
import StorageBroker.Proofs.Service.Numbers
import StorageBroker.Proofs.Service.Origin

/-! # Handing work over

A call that runs may have work in flight when it starts to run and when it stops. `Handover` says
that the registry follows: the old work is taken off it, the new work is put on a storage without
any other work, and no other storage is touched. Every stretch of every call is a handover. -/

set_option autoImplicit false

namespace StorageBroker

/-- The work that a waiting call has in flight. -/
def Waiting.work? : Waiting → Option Work
  | .locatingForDeploy plan _ | .deploying plan _ => some (.deploy plan)
  | .locatingForTeardown plan _ _ | .tearingDown plan _ _ => some (.teardown plan)
  | .dispatching _ _ | .awaiting _ _ | .finalizing _ _ _ => none

/-- The work that a call has in flight where it is. -/
def CallState.work? (state : CallState) : Option Work := state.wait?.bind Waiting.work?

namespace Registry

/-- The registry once old work has gone out of hand and new work has come to hand. -/
structure Handover (old new : Option Work) (r r' : Registry) : Prop where
  view : ∀ x, r'.inFlight? x =
    if new.map Work.storage = some x then new
    else if old.map Work.storage = some x then none
    else r.inFlight? x
  free : ∀ work, new = some work →
    r.inFlight? work.storage = none ∨ old.map Work.storage = some work.storage

namespace Handover

variable {old mid new : Option Work} {r r' r'' : Registry} {work : Work}

theorem of_same (same : ∀ x, r'.inFlight? x = r.inFlight? x) : Handover none none r r' where
  view x := by simp [same x]
  free := by simp

theorem keep (held : r.inFlight? work.storage = some work) :
    Handover (some work) (some work) r r where
  view := by
    intro x
    by_cases same : work.storage = x
    · subst x
      rw [held]
      exact (if_pos rfl).symm
    · simp [same]
  free := by simp

theorem take (free : r.inFlight? work.storage = none)
    (hands : r.Hands work.storage (some work) r') : Handover none (some work) r r' where
  view := by
    intro x
    rw [hands x]
    by_cases same : x = work.storage
    · simp [same]
    · simp [same, Ne.symm same]
  free := by
    intro other same
    exact .inl (Option.some.inj same ▸ free)

theorem drop (hands : r.Hands work.storage none r') : Handover (some work) none r r' where
  view := by
    intro x
    rw [hands x]
    by_cases same : x = work.storage
    · simp [same]
    · simp [same, Ne.symm same]
  free := by simp

theorem trans (first : Handover old mid r r') (last : Handover mid new r' r'') :
    Handover old new r r'' where
  view := by
    intro x
    have before := first.view x
    have after := last.view x
    by_cases taken : new.map Work.storage = some x
    · rw [after, if_pos taken, if_pos taken]
    · rw [if_neg taken] at after ⊢
      by_cases passing : mid.map Work.storage = some x
      · -- what was only passed through was free, or in the hands that the work started from
        obtain ⟨work, rfl, rfl⟩ := Option.map_eq_some_iff.mp passing
        rw [after, if_pos passing]
        rcases first.free work rfl with free | mine
        · rw [free]
          simp
        · rw [if_pos mine]
      · rw [after, if_neg passing, before, if_neg passing]
  free := by
    intro work taken
    rcases last.free work taken with free | passing
    · rw [first.view] at free
      by_cases mine : old.map Work.storage = some work.storage
      · exact .inr mine
      · by_cases passing : mid.map Work.storage = some work.storage
        · obtain ⟨other, rfl, same⟩ := Option.map_eq_some_iff.mp passing
          exact same ▸ first.free other rfl
        · rw [if_neg passing, if_neg mine] at free
          exact .inl free
    · obtain ⟨other, rfl, same⟩ := Option.map_eq_some_iff.mp passing
      exact same ▸ first.free other rfl

end Handover

end Registry

namespace Service

open Registry (Handover)

/-! ## Deployment -/

theorem failDeploy_spec {s : Service} {plan : DeploymentPlan} (e : ServiceError)
    (held : s.registry.inFlight? plan.id = some (.deploy plan)) :
    (s.failDeploy plan e).1 = .failed e ∧
      Handover (some (.deploy plan)) none s.registry (s.failDeploy plan e).2.registry := by
  obtain ⟨r', undone, hands⟩ := Registry.abortDeploy_ok held
  unfold failDeploy
  rw [undone]
  exact ⟨rfl, .drop hands⟩

theorem completeDeploy_spec {s : Service} {plan : DeploymentPlan} (path : String)
    (held : s.registry.inFlight? plan.id = some (.deploy plan)) :
    (s.completeDeploy plan path).1 = .replied (.mountPath path) ∧
      Handover (some (.deploy plan)) none s.registry (s.completeDeploy plan path).2.registry := by
  obtain ⟨storage, r', completed, hands, -, -⟩ := Registry.completeDeploy_ok held path
  unfold completeDeploy
  rw [completed]
  exact ⟨rfl, .drop hands⟩

theorem failDeploy_handover {s : Service} {plan : DeploymentPlan} (e : ServiceError)
    (held : s.registry.inFlight? plan.id = some (.deploy plan)) :
    Handover (some (.deploy plan)) (s.failDeploy plan e).1.work? s.registry
      (s.failDeploy plan e).2.registry := by
  rw [(failDeploy_spec e held).1]
  exact (failDeploy_spec e held).2

theorem completeDeploy_handover {s : Service} {plan : DeploymentPlan} (path : String)
    (held : s.registry.inFlight? plan.id = some (.deploy plan)) :
    Handover (some (.deploy plan)) (s.completeDeploy plan path).1.work? s.registry
      (s.completeDeploy plan path).2.registry := by
  rw [(completeDeploy_spec path held).1]
  exact (completeDeploy_spec path held).2

theorem startDeploy_handover (s : Service) (adhoc : AdhocId) :
    Handover none (s.startDeploy adhoc).1.work? s.registry (s.startDeploy adhoc).2.registry := by
  unfold startDeploy
  cases begun : s.registry.beginDeploy adhoc with
  | mk answer r =>
      cases answer with
      | error e =>
          obtain rfl := Registry.beginDeploy_error begun
          exact .of_same fun _ => rfl
      | ok plan =>
          obtain ⟨rfl, free, hands⟩ := Registry.beginDeploy_ok begun
          have taken : Handover none (some (.deploy plan)) s.registry r := .take free hands
          simp only
          cases plan.location with
          | address address => exact taken
          | host hostname => exact taken
          | nowhere =>
              have held : r.inFlight? plan.id = some (.deploy plan) := by
                rw [hands, if_pos rfl]
              exact taken.trans
                (failDeploy_handover (s := { s with registry := r }) (.noController plan.id) held)

/-! ## Teardown -/

theorem undoTeardown_spec {s : Service} {plan : DeploymentPlan} (e : ServiceError)
    (held : s.registry.inFlight? plan.id = some (.teardown plan)) :
    (s.undoTeardown plan e).1 = e ∧
      Handover (some (.teardown plan)) none s.registry (s.undoTeardown plan e).2.registry := by
  obtain ⟨r', undone, hands⟩ := Registry.abortTeardown_ok held
  unfold undoTeardown
  rw [undone]
  exact ⟨rfl, .drop hands⟩

/-- The work that a teardown has in flight once it has started. -/
def begunWork? (answer : Except ServiceError Waiting) : Option Work :=
  answer.toOption.bind Waiting.work?

theorem startTeardown_handover (s : Service) (adhoc : AdhocId) (origin : TeardownOrigin) :
    Handover none (begunWork? (s.startTeardown adhoc origin).1) s.registry
      (s.startTeardown adhoc origin).2.registry := by
  unfold startTeardown
  cases begun : s.registry.beginTeardown adhoc with
  | mk answer r =>
      cases answer with
      | error e =>
          obtain rfl := Registry.beginTeardown_error begun
          exact .of_same fun _ => rfl
      | ok plan =>
          obtain ⟨rfl, free, hands⟩ := Registry.beginTeardown_ok begun
          have taken : Handover none (some (.teardown plan)) s.registry r := .take free hands
          simp only
          cases plan.location with
          | address address => exact taken
          | host hostname => exact taken
          | nowhere =>
              have held : r.inFlight? plan.id = some (.teardown plan) := by
                rw [hands, if_pos rfl]
              exact taken.trans
                (undoTeardown_spec (s := { s with registry := r }) (.noController plan.id) held).2

theorem sweep_handover (s : Service) (rest : List AdhocId) (tornDown : Nat) :
    Handover none (s.sweep rest tornDown).1.work? s.registry
      (s.sweep rest tornDown).2.registry := by
  induction rest generalizing s with
  | nil => exact .of_same fun _ => rfl
  | cons adhoc rest ih =>
      have started := s.startTeardown_handover adhoc (.shutdown rest tornDown)
      unfold sweep
      cases result : s.startTeardown adhoc (.shutdown rest tornDown) with
      | mk answer s' =>
          rw [result] at started
          cases answer with
          | ok wait => exact started
          | error e => exact started.trans (ih s')

theorem endTeardown_handover (s : Service) (origin : TeardownOrigin)
    (result : Except ServiceError Unit) :
    Handover none (s.endTeardown origin result).1.work? s.registry
      (s.endTeardown origin result).2.registry := by
  cases origin with
  | client => cases result <;> exact .of_same fun _ => rfl
  | shutdown rest tornDown => cases result <;> exact s.sweep_handover rest _

theorem failTeardown_handover {s : Service} {plan : DeploymentPlan} (origin : TeardownOrigin)
    (e : ServiceError) (held : s.registry.inFlight? plan.id = some (.teardown plan)) :
    Handover (some (.teardown plan)) (s.failTeardown plan origin e).1.work? s.registry
      (s.failTeardown plan origin e).2.registry :=
  (undoTeardown_spec e held).2.trans (endTeardown_handover _ origin _)

theorem completeTeardown_handover {s : Service} {plan : DeploymentPlan} (origin : TeardownOrigin)
    (held : s.registry.inFlight? plan.id = some (.teardown plan)) :
    Handover (some (.teardown plan)) (s.completeTeardown plan origin).1.work? s.registry
      (s.completeTeardown plan origin).2.registry := by
  obtain ⟨storage, r', completed, hands, -, -⟩ := Registry.completeTeardown_ok held
  have dropped : Handover (some (.teardown plan)) none s.registry r' := .drop hands
  unfold completeTeardown
  rw [completed]
  exact dropped.trans (endTeardown_handover { s with registry := r' } origin (.ok ()))

/-! ## Calls -/

/-- Changes without an operation of deployment leave the work in flight alone. -/
theorem Changes.inFlight_eq {allowed : Registry.Operation → Prop} {s s' : Service}
    (changes : Changes allowed s s') (still : ∀ op, allowed op → op.moves = false)
    (orderly : Orderly s) (x : AdhocId) :
    s'.registry.inFlight? x = s.registry.inFlight? x := by
  have kept : ∀ t t', Change allowed t t' →
      Orderly t ∧ t.registry.inFlight? x = s.registry.inFlight? x →
      Orderly t' ∧ t'.registry.inFlight? x = s.registry.inFlight? x := by
    rintro t t' change ⟨held, same⟩
    refine ⟨change.preserves_orderly held, ?_⟩
    cases change with
    | registry may stays effect =>
        exact (effect.inFlight_eq held.registry (still _ may) x).trans same
    | jobRemoved registered =>
        obtain ⟨holder, found⟩ := Option.isSome_iff_exists.mp registered
        have dropped := Registry.Effect.jobRemoved (s := ⟨t.ids, t.registry⟩) rfl found
        exact (dropped.inFlight_eq held.registry rfl x).trans same
    | transfers registered effect | operations registered tied effect
    | limitSet registered limit | limitsRemoved registered entity limitClass => exact same
  exact (changes.invariant kept ⟨orderly, rfl⟩).2

/-- Only a call that may move deployments has work in flight. -/
theorem work?_of_still {call : Call} (still : ∀ op, call.may op → op.moves = false)
    {wait : Waiting} (asked : wait.Of call) : wait.work? = none := by
  have moving : ¬ call.may (.beginDeploy ⟨0⟩) := by
    intro may
    exact absurd (still _ may) (by decide)
  have teardown : ∀ {origin : TeardownOrigin} {adhoc : AdhocId}, ¬ origin.Of call adhoc := by
    intro origin adhoc asked
    cases origin <;> (obtain rfl : call = _ := asked; exact moving rfl)
  cases wait with
  | locatingForDeploy plan hostname | deploying plan address =>
      obtain rfl : call = _ := asked
      exact absurd rfl moving
  | locatingForTeardown plan hostname origin | tearingDown plan address origin =>
      exact absurd asked teardown
  | dispatching transfer address | awaiting transfer budgetMs
  | finalizing job operation transfer => rfl

/-- A call that may move no deployment starts with no work in flight and without moving any. -/
theorem start_handover_of_still {s : Service} (orderly : Orderly s) {call : Call}
    (still : ∀ op, call.may op → op.moves = false) :
    Handover none (s.start call).1.work? s.registry (s.start call).2.registry := by
  have idle : (s.start call).1.work? = none := by
    have asked := s.start_of call
    cases state : (s.start call).1 with
    | finished outcome => rfl
    | waiting wait =>
        rw [state] at asked
        exact work?_of_still still asked
  rw [idle]
  exact .of_same ((s.start_changes call).inFlight_eq still orderly)

theorem start_handover {s : Service} (orderly : Orderly s) (call : Call) :
    Handover none (s.start call).1.work? s.registry (s.start call).2.registry := by
  cases call with
  | shutdown => exact s.sweep_handover _ 0
  | request request =>
      cases request with
      | deployAdhocStorage adhoc => exact s.startDeploy_handover adhoc
      | terminateAdhocStorage adhoc =>
          have started := s.startTeardown_handover adhoc .client
          simp only [start, startRequest]
          cases result : s.startTeardown adhoc .client with
          | mk answer s' =>
              rw [result] at started
              cases answer <;> exact started
      -- no other request moves a deployment
      | _ => exact start_handover_of_still orderly fun _ may => may

/-- Running on, a call hands over the work that it had in flight while it waited. -/
theorem resume_handover {s : Service} (orderly : Orderly s) {wait : Waiting} {signal : Signal}
    {r : CallState × Service}
    (held : ∀ work, wait.work? = some work → s.registry.inFlight? work.storage = some work)
    (resumed : s.resume wait signal = some r) :
    Handover wait.work? r.1.work? s.registry r.2.registry := by
  have changes := resume_changes resumed
  unfold resume at resumed
  split at resumed <;> first
    | obtain rfl := Option.some.inj resumed
    | exact absurd resumed (by simp)
  · exact .keep (held _ rfl)
  · exact completeDeploy_handover _ (held _ rfl)
  · exact failDeploy_handover _ (held _ rfl)
  · exact failDeploy_handover _ (held _ rfl)
  · exact failDeploy_handover _ (held _ rfl)
  · exact failDeploy_handover _ (held _ rfl)
  · exact .keep (held _ rfl)
  · exact completeTeardown_handover _ (held _ rfl)
  · exact failTeardown_handover _ _ (held _ rfl)
  · exact failTeardown_handover _ _ (held _ rfl)
  · exact failTeardown_handover _ _ (held _ rfl)
  · exact failTeardown_handover _ _ (held _ rfl)
  all_goals exact .of_same (changes.inFlight_eq (fun _ may => may) orderly)

end Service

end StorageBroker
