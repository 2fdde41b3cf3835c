import StorageBroker.Proofs.Registry.Numbers

/-! # Work in flight

Between the two phases of a deployment or a teardown, a controller is at work on the storage. The
registry shows which work that is. Only the operations of deployment change what it shows, and only
a completed deployment or teardown changes the mount path of a storage. -/

set_option autoImplicit false

namespace StorageBroker

/-- The work that a controller does on a storage. -/
inductive Work
  | deploy (plan : DeploymentPlan)
  | teardown (plan : DeploymentPlan)
  deriving DecidableEq, Repr

namespace Work

def plan : Work → DeploymentPlan
  | .deploy plan | .teardown plan => plan

def storage (work : Work) : AdhocId := work.plan.id

end Work

/-- The work in flight on a storage. -/
def AdhocEntry.work? (entry : AdhocEntry) (id : AdhocId) : Option Work :=
  match entry.deployment with
  | .deploying => some (.deploy (entry.plan id none))
  | .tearingDown path => some (.teardown (entry.plan id (some path)))
  | .undeployed | .deployed _ => none

namespace Registry

/-- The work in flight on a storage, if it is registered and there is some. -/
def inFlight? (r : Registry) (id : AdhocId) : Option Work :=
  (r.adhoc.get? id).bind fun entry => entry.work? id

/-- The mount path of a storage, if it is registered. -/
def mount? (r : Registry) (id : AdhocId) : Option (Option String) :=
  (r.adhoc.get? id).map fun entry => entry.deployment.mountPath?

/-! ## A storage apart from its client -/

/-- What a storage is apart from its client. -/
def slotOf (entries : Table AdhocId AdhocEntry) (id : AdhocId) : Option AdhocEntry :=
  (entries.get? id).map fun entry => { entry with client := none }

theorem inFlight?_eq_slot (r : Registry) (id : AdhocId) :
    r.inFlight? id = (slotOf r.adhoc id).bind fun entry => entry.work? id := by
  unfold inFlight? slotOf
  cases r.adhoc.get? id <;> rfl

theorem mount?_eq_slot (r : Registry) (id : AdhocId) :
    r.mount? id = (slotOf r.adhoc id).map fun entry => entry.deployment.mountPath? := by
  unfold mount? slotOf
  cases r.adhoc.get? id <;> rfl

theorem slotOf_insert (entries : Table AdhocId AdhocEntry) (id x : AdhocId) (entry : AdhocEntry) :
    slotOf (entries.insert id entry) x =
      if x = id then some { entry with client := none } else slotOf entries x := by
  unfold slotOf
  rw [Table.get?_insert]
  split <;> rfl

theorem slotOf_erase (entries : Table AdhocId AdhocEntry) (id x : AdhocId) :
    slotOf (entries.erase id) x = if x = id then none else slotOf entries x := by
  unfold slotOf
  rw [Table.get?_erase]
  split <;> rfl

theorem release_slot (entry : AdhocEntry) (job : JobId) :
    { entry.release job with client := none } = { entry with client := none } := by
  unfold AdhocEntry.release
  split <;> rfl

theorem slotOf_release (entries : Table AdhocId AdhocEntry) (job : JobId) (x : AdhocId) :
    slotOf (entries.mapValues fun _ entry => entry.release job) x = slotOf entries x := by
  unfold slotOf
  rw [Table.get?_mapValues, Option.map_map]
  cases entries.get? x with
  | none => rfl
  | some entry => exact congrArg some (release_slot entry job)

/-- Writing a storage back with another client leaves the storage as it was. -/
theorem slotOf_rewrite {entries : Table AdhocId AdhocEntry} {id : AdhocId}
    {entry updated : AdhocEntry} (found : entries.get? id = some entry)
    (same : { updated with client := none } = { entry with client := none }) (x : AdhocId) :
    slotOf (entries.insert id updated) x = slotOf entries x := by
  rw [slotOf_insert]
  split
  · subst x
    rw [same, slotOf, found]
    rfl
  · rfl

theorem Claims.slotOf_eq {entries now : Table AdhocId AdhocEntry} {job : JobId}
    {named : Option AdhocId} (claims : Claims entries job named now) (x : AdhocId) :
    slotOf now x = slotOf entries x := by
  cases claims with
  | nothing => rfl
  | free found unclaimed => exact slotOf_rewrite found (by rfl) x

theorem slotOf_releaseFrom (entries : Table AdhocId AdhocEntry) (id x : AdhocId) (job : JobId) :
    slotOf (releaseFrom entries id job) x = slotOf entries x := by
  unfold releaseFrom
  cases found : entries.get? id with
  | none => rfl
  | some entry => exact slotOf_rewrite found (release_slot entry job) x

theorem rebind_slotOf {entries now : Table AdhocId AdhocEntry} {job : JobId}
    {old new : Option AdhocId} (moved : rebind entries job old new = .ok now) (x : AdhocId) :
    slotOf now x = slotOf entries x := by
  rcases rebind_ok moved with ⟨-, rfl⟩ | ⟨-, claimed, claims, rfl⟩
  · rfl
  · cases old with
    | none => exact claims.slotOf_eq x
    | some left => exact (slotOf_releaseFrom claimed left x job).trans (claims.slotOf_eq x)

/-! ## What an effect does to a storage -/

/-- A storage apart from its client, before and after an effect: it stays, or it is registered,
updated or removed while no controller is at work on it, or its deployment moves. -/
theorem Effect.slot {op : Operation} {s s' : Numbered Registry} (effect : Effect op s s')
    (issued : Issued s) (x : AdhocId) :
    slotOf s'.store.adhoc x = slotOf s.store.adhoc x ∨
    (slotOf s.store.adhoc x = none ∧ s.ids.issued < x.raw.toNat ∧
      ∃ entry, slotOf s'.store.adhoc x = some entry ∧ entry.deployment = .undeployed) ∨
    (∃ entry context, slotOf s.store.adhoc x = some entry ∧
      entry.deployment.isChanging = false ∧
      slotOf s'.store.adhoc x = some { entry with context }) ∨
    (∃ entry, slotOf s.store.adhoc x = some entry ∧ entry.deployment.isChanging = false ∧
      slotOf s'.store.adhoc x = none) ∨
    ∃ entry deployment, slotOf s.store.adhoc x = some entry ∧
      Operation.Moves x op entry.deployment deployment ∧
      slotOf s'.store.adhoc x = some { entry with deployment } := by
  have slot : ∀ {id : AdhocId} {entry : AdhocEntry}, s.store.adhoc.get? id = some entry →
      slotOf s.store.adhoc id = some { entry with client := none } := by
    intro id entry found
    rw [slotOf, found]
    rfl
  cases effect with
  | nothing | number drawn | pfsAdded drawn numbered | pfsUpdated context found
  | pfsRemoved found => exact .inl rfl
  | jobAdded drawn numbered unused claims => exact .inl (claims.slotOf_eq x)
  | jobUpdated found kept moved => exact .inl (rebind_slotOf moved x)
  | jobRemoved asked found => exact .inl (slotOf_release _ _ x)
  | bound found only claims => exact .inl (claims.slotOf_eq x)
  | unbound found sides => exact .inl (slotOf_rewrite found (by rfl) x)
  | @adhocAdded raw ids entry drawn unclaimed down =>
      simp only [slotOf_insert]
      by_cases same : x = ⟨raw⟩
      · subst same
        have value := (IdAllocator.allocate_some drawn).1
        have unused := issued.adhoc.fresh drawn (k := ⟨raw⟩) rfl
        exact .inr (.inl ⟨by rw [slotOf, unused]; rfl, by simp only; omega, _, if_pos rfl, down⟩)
      · exact .inl (if_neg same)
  | @contextSet id entry context found still =>
      simp only [slotOf_insert]
      by_cases same : x = id
      · subst same
        exact .inr (.inr (.inl ⟨_, context, slot found, still, if_pos rfl⟩))
      · exact .inl (if_neg same)
  | @adhocRemoved id entry found still =>
      simp only [slotOf_erase]
      by_cases same : x = id
      · subst same
        exact .inr (.inr (.inr (.inl ⟨_, slot found, still, if_pos rfl⟩)))
      · exact .inl (if_neg same)
  | @deploymentSet id entry deployment found moves =>
      simp only [setDeployment, slotOf_insert]
      by_cases same : x = id
      · subst same
        exact .inr (.inr (.inr (.inr ⟨_, deployment, slot found, moves, if_pos rfl⟩)))
      · exact .inl (if_neg same)

theorem work?_of_still {entry : AdhocEntry} (still : entry.deployment.isChanging = false)
    (id : AdhocId) : entry.work? id = none := by
  unfold AdhocEntry.work?
  cases state : entry.deployment with
  | undeployed => rfl
  | deployed path => rfl
  | deploying => simp [state, Deployment.isChanging] at still
  | tearingDown path => simp [state, Deployment.isChanging] at still

/-- Only the operations of deployment change what work is in flight. -/
theorem Effect.inFlight_eq {op : Operation} {s s' : Numbered Registry} (effect : Effect op s s')
    (issued : Issued s) (still : op.moves = false) (x : AdhocId) :
    s'.store.inFlight? x = s.store.inFlight? x := by
  rw [inFlight?_eq_slot, inFlight?_eq_slot]
  rcases effect.slot issued x with same | ⟨before, -, entry, now, down⟩ |
    ⟨entry, context, before, quiet, now⟩ | ⟨entry, before, quiet, now⟩ |
    ⟨entry, deployment, before, moves, now⟩
  · rw [same]
  · rw [before, now]
    exact work?_of_still (by rw [down]; rfl) x
  · rw [before, now]
    exact (work?_of_still (by exact quiet) x).trans (work?_of_still quiet x).symm
  · rw [before, now]
    exact (work?_of_still quiet x).symm
  · generalize entry.deployment = state at moves
    cases moves <;> exact absurd still (by simp [Operation.moves, Operation.completes])

/-- Unless an operation completes a deployment or a teardown, a storage that is registered
afterwards has the mount path that it had before, or is new and has none. -/
theorem Effect.mount_of {op : Operation} {s s' : Numbered Registry} (effect : Effect op s s')
    (issued : Issued s) (unfinished : op.completes = false) {x : AdhocId} {path : Option String}
    (now : s'.store.mount? x = some path) :
    s.store.mount? x = some path ∨
      (s.store.mount? x = none ∧ path = none ∧ s.ids.issued < x.raw.toNat) := by
  rw [mount?_eq_slot] at now ⊢
  rcases effect.slot issued x with same | ⟨before, unissued, entry, after, down⟩ |
    ⟨entry, context, before, -, after⟩ | ⟨entry, before, -, after⟩ |
    ⟨entry, deployment, before, moves, after⟩
  · exact .inl (same ▸ now)
  · rw [after, Option.map_some, down] at now
    exact .inr ⟨by rw [before]; rfl, (Option.some.inj now).symm, unissued⟩
  · rw [after] at now
    exact .inl (by rw [before]; exact now)
  · rw [after] at now
    exact absurd now (by simp)
  · rw [after, Option.map_some] at now
    left
    rw [before, Option.map_some, ← now]
    generalize entry.deployment = state at moves
    cases moves with
    | complete path => exact absurd unfinished (by simp [Operation.completes])
    | completeTeardown path => exact absurd unfinished (by simp [Operation.completes])
    | begin | abort | beginTeardown path | abortTeardown path => rfl

/-! ## Beginning and ending work -/

theorem inFlight?_setDeployment (r : Registry) (id x : AdhocId) (entry : AdhocEntry)
    (deployment : Deployment) :
    (r.setDeployment id entry deployment).inFlight? x =
      if x = id then AdhocEntry.work? { entry with deployment } id else r.inFlight? x := by
  unfold inFlight? setDeployment
  rw [Table.get?_insert]
  by_cases same : x = id
  · rw [if_pos same, if_pos same, Option.bind_some, same]
  · rw [if_neg same, if_neg same]

theorem mount?_setDeployment (r : Registry) (id x : AdhocId) (entry : AdhocEntry)
    (deployment : Deployment) :
    (r.setDeployment id entry deployment).mount? x =
      if x = id then some deployment.mountPath? else r.mount? x := by
  unfold mount? setDeployment
  rw [Table.get?_insert]
  split <;> rfl

theorem inFlight?_of_get? {r : Registry} {id : AdhocId} {entry : AdhocEntry}
    (found : r.adhoc.get? id = some entry) : r.inFlight? id = entry.work? id := by
  rw [inFlight?, found, Option.bind_some]

theorem inFlight?_eq_deploy {r : Registry} {id : AdhocId} {plan : DeploymentPlan} :
    r.inFlight? id = some (.deploy plan) ↔ ∃ entry, r.adhoc.get? id = some entry ∧
      entry.deployment = .deploying ∧ plan = entry.plan id none := by
  unfold inFlight? AdhocEntry.work?
  cases r.adhoc.get? id with
  | none => simp
  | some entry => cases state : entry.deployment <;> simp [state, eq_comm]

theorem inFlight?_eq_teardown {r : Registry} {id : AdhocId} {plan : DeploymentPlan} :
    r.inFlight? id = some (.teardown plan) ↔ ∃ entry path, r.adhoc.get? id = some entry ∧
      entry.deployment = .tearingDown path ∧ plan = entry.plan id (some path) := by
  unfold inFlight? AdhocEntry.work?
  cases r.adhoc.get? id with
  | none => simp
  | some entry => cases state : entry.deployment <;> simp [state, eq_comm]

theorem storage_of_inFlight {r : Registry} {id : AdhocId} {work : Work}
    (held : r.inFlight? id = some work) : work.storage = id := by
  cases work with
  | deploy plan =>
      obtain ⟨entry, -, -, rfl⟩ := inFlight?_eq_deploy.mp held
      rfl
  | teardown plan =>
      obtain ⟨entry, path, -, -, rfl⟩ := inFlight?_eq_teardown.mp held
      rfl

/-- The registry shows other work on one storage and the same work on all others. -/
def Hands (r : Registry) (id : AdhocId) (work : Option Work) (r' : Registry) : Prop :=
  ∀ x, r'.inFlight? x = if x = id then work else r.inFlight? x

theorem beginDeploy_ok {r r' : Registry} {id : AdhocId} {plan : DeploymentPlan}
    (begun : r.beginDeploy id = (.ok plan, r')) :
    plan.id = id ∧ r.inFlight? id = none ∧ r.Hands id (some (.deploy plan)) r' := by
  rcases r.beginDeploy_outcome id with ⟨e, refused⟩ | ⟨entry, found, state, done⟩
  · simp [begun] at refused
  · obtain ⟨granted, rfl⟩ := Prod.mk.inj (begun.symm.trans done)
    obtain rfl := Except.ok.inj granted
    refine ⟨rfl, ?_, fun x => inFlight?_setDeployment r id x entry .deploying⟩
    rw [inFlight?_of_get? found, work?_of_still (by rw [state]; rfl)]

theorem beginDeploy_error {r r' : Registry} {id : AdhocId} {e : RegistryError}
    (refused : r.beginDeploy id = (.error e, r')) : r' = r := by
  rcases r.beginDeploy_outcome id with ⟨e', outcome⟩ | ⟨entry, -, -, done⟩
  · exact (Prod.mk.inj (refused.symm.trans outcome)).2
  · simp [refused] at done

theorem beginTeardown_ok {r r' : Registry} {id : AdhocId} {plan : DeploymentPlan}
    (begun : r.beginTeardown id = (.ok plan, r')) :
    plan.id = id ∧ r.inFlight? id = none ∧ r.Hands id (some (.teardown plan)) r' := by
  rcases r.beginTeardown_outcome id with ⟨e, refused⟩ | ⟨entry, path, found, state, done⟩
  · simp [begun] at refused
  · obtain ⟨granted, rfl⟩ := Prod.mk.inj (begun.symm.trans done)
    obtain rfl := Except.ok.inj granted
    refine ⟨rfl, ?_, fun x => inFlight?_setDeployment r id x entry (.tearingDown path)⟩
    rw [inFlight?_of_get? found, work?_of_still (by rw [state]; rfl)]

theorem beginTeardown_error {r r' : Registry} {id : AdhocId} {e : RegistryError}
    (refused : r.beginTeardown id = (.error e, r')) : r' = r := by
  rcases r.beginTeardown_outcome id with ⟨e', outcome⟩ | ⟨entry, path, -, -, done⟩
  · exact (Prod.mk.inj (refused.symm.trans outcome)).2
  · simp [refused] at done

section

variable {r : Registry} {plan : DeploymentPlan}

theorem abortDeploy_ok (held : r.inFlight? plan.id = some (.deploy plan)) :
    ∃ r', r.abortDeploy plan.id = (.ok (), r') ∧ r.Hands plan.id none r' := by
  obtain ⟨entry, found, state, -⟩ := inFlight?_eq_deploy.mp held
  rcases r.abortDeploy_outcome plan.id with ⟨missing, -⟩ | ⟨other, known, outcome⟩
  · simp [found] at missing
  · obtain rfl := Option.some.inj (found.symm.trans known)
    rcases outcome with ⟨-, done⟩ | ⟨idle, -⟩
    · exact ⟨_, done, fun x => inFlight?_setDeployment r plan.id x entry .undeployed⟩
    · exact absurd state idle

/-- A deployment in flight can be completed: the storage gets the mount path. -/
theorem completeDeploy_ok (held : r.inFlight? plan.id = some (.deploy plan)) (path : String) :
    ∃ storage r', r.completeDeploy plan.id path = (.ok storage, r') ∧
      r.Hands plan.id none r' ∧ r.mount? plan.id = some none ∧
      ∀ x, r'.mount? x = if x = plan.id then some (some path) else r.mount? x := by
  obtain ⟨entry, found, state, -⟩ := inFlight?_eq_deploy.mp held
  rcases r.completeDeploy_outcome plan.id path with ⟨e, refused⟩ | ⟨other, known, -, done⟩
  · simp [completeDeploy, found, state] at refused
  · obtain rfl := Option.some.inj (found.symm.trans known)
    refine ⟨_, _, done, fun x => inFlight?_setDeployment r plan.id x entry (.deployed path), ?_,
      fun x => mount?_setDeployment r plan.id x entry (.deployed path)⟩
    rw [mount?, found, Option.map_some, state]
    rfl

theorem abortTeardown_ok (held : r.inFlight? plan.id = some (.teardown plan)) :
    ∃ r', r.abortTeardown plan.id = (.ok (), r') ∧ r.Hands plan.id none r' := by
  obtain ⟨entry, path, found, state, -⟩ := inFlight?_eq_teardown.mp held
  rcases r.abortTeardown_outcome plan.id with ⟨missing, -⟩ | ⟨other, known, outcome⟩
  · simp [found] at missing
  · obtain rfl := Option.some.inj (found.symm.trans known)
    rcases outcome with ⟨other, -, done⟩ | ⟨idle, -⟩
    · exact ⟨_, done, fun x => inFlight?_setDeployment r plan.id x entry (.deployed other)⟩
    · exact absurd state (idle path)

/-- A teardown in flight can be completed: the storage loses its mount path. -/
theorem completeTeardown_ok (held : r.inFlight? plan.id = some (.teardown plan)) :
    ∃ storage r', r.completeTeardown plan.id = (.ok storage, r') ∧
      r.Hands plan.id none r' ∧ (∃ path, r.mount? plan.id = some (some path)) ∧
      ∀ x, r'.mount? x = if x = plan.id then some none else r.mount? x := by
  obtain ⟨entry, path, found, state, -⟩ := inFlight?_eq_teardown.mp held
  rcases r.completeTeardown_outcome plan.id with ⟨e, refused⟩ | ⟨other, -, known, -, done⟩
  · simp [completeTeardown, found, state] at refused
  · obtain rfl := Option.some.inj (found.symm.trans known)
    refine ⟨_, _, done, fun x => inFlight?_setDeployment r plan.id x entry .undeployed,
      ⟨path, ?_⟩, fun x => mount?_setDeployment r plan.id x entry .undeployed⟩
    rw [mount?, found, Option.map_some, state]
    rfl

end

end Registry

end StorageBroker
