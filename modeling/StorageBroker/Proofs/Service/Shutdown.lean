import StorageBroker.Proofs.Registry.Deployed
import StorageBroker.Proofs.Service.Instances

/-! # Shutdown

A shutdown goes through the storages that are deployed when it starts and has the controller of each
tear it down, one after another. With controllers that answer it ends, and the instances left are
those that it could find no controller for and those that the registry had forgotten. -/

set_option autoImplicit false

namespace StorageBroker

/-- Whether there is neither an address nor a node to find the controller of a storage by. -/
def AdhocEntry.isUnreachable (entry : AdhocEntry) : Bool :=
  entry.context.controllerAddress.isEmpty && entry.resources.nodes.isEmpty

/-- Whether a storage has a mount path and no controller that could tear it down. -/
def Registry.isStranded (r : Registry) (adhoc : AdhocId) : Bool :=
  ((r.adhoc.get? adhoc).filter fun entry =>
    entry.deployment.mountPath?.isSome && entry.isUnreachable).isSome

theorem DeploymentPlan.location_eq_nowhere {entry : AdhocEntry} {id : AdhocId}
    {mountPath : Option String} :
    (entry.plan id mountPath).location = .nowhere ↔ entry.isUnreachable = true := by
  unfold location AdhocEntry.plan AdhocEntry.isUnreachable
  cases entry.context.controllerAddress.isEmpty with
  | false => simp
  | true => cases entry.resources.nodes <;> simp

namespace Registry

/-- The deployed storages are those that are still to be torn down and those that cannot be. -/
def Swept (rest : List AdhocId) (r : Registry) : Prop :=
  ∀ id entry path, r.adhoc.get? id = some entry → entry.deployment = .deployed path →
    id ∈ rest ∨ entry.isUnreachable = true

variable {r : Registry} {rest : List AdhocId} {id : AdhocId} {entry : AdhocEntry}

theorem Swept.setDeployment {deployment : Deployment} (swept : Swept (id :: rest) r)
    (settled : ∀ path, deployment = .deployed path → entry.isUnreachable = true) :
    Swept rest (r.setDeployment id entry deployment) := by
  intro x other path found up
  simp only [Registry.setDeployment, Table.get?_insert] at found
  by_cases here : x = id
  · rw [if_pos here] at found
    obtain rfl := Option.some.inj found
    exact .inr (settled path up)
  · rw [if_neg here] at found
    rcases swept x other path found up with later | stuck
    · exact .inl (List.mem_of_ne_of_mem here later)
    · exact .inr stuck

theorem Swept.of_not_deployed (swept : Swept (id :: rest) r)
    (down : ∀ entry path, r.adhoc.get? id = some entry → entry.deployment ≠ .deployed path) :
    Swept rest r := by
  intro x other path found up
  rcases swept x other path found up with later | stuck
  · have elsewhere : x ≠ id := by
      rintro rfl
      exact down other path found up
    exact .inl (List.mem_of_ne_of_mem elsewhere later)
  · exact .inr stuck

theorem Swept.cons (swept : Swept rest r) : Swept (id :: rest) r := by
  intro x other path found up
  rcases swept x other path found up with later | stuck
  · exact .inl (List.mem_cons_of_mem id later)
  · exact .inr stuck

theorem Swept.abortTeardown (swept : Swept rest r)
    (stuck : ∀ entry, r.adhoc.get? id = some entry → entry.isUnreachable = true) :
    Swept rest (r.abortTeardown id).2 := by
  rcases r.abortTeardown_outcome id with
    ⟨-, refused⟩ | ⟨entry, found, ⟨path, -, done⟩ | ⟨-, done⟩⟩
  · rw [refused]
    exact swept
  · rw [done]
    exact swept.cons.setDeployment fun _ _ => stuck entry found
  · rw [done]
    exact swept

theorem Swept.completeTeardown (swept : Swept rest r) : Swept rest (r.completeTeardown id).2 := by
  rcases r.completeTeardown_outcome id with ⟨e, refused⟩ | ⟨entry, path, found, -, done⟩
  · rw [refused]
    exact swept
  · rw [done]
    exact swept.cons.setDeployment (by simp)

/-- A shutdown starts with every deployed storage ahead of it. -/
theorem swept_deployed (r : Registry) :
    Swept (r.deployed.map AdhocStorage.id) r := by
  intro id entry path found up
  left
  exact mem_map_id_deployed.mpr ⟨path, by rw [mount?, found, Option.map_some, up]; rfl⟩

theorem length_deployed_le (r : Registry) :
    (r.deployed.map AdhocStorage.id).length ≤ r.adhoc.size := by
  have all : r.adhocStorages.length = r.adhoc.size := by
    rw [adhocStorages, List.length_mergeSort, List.length_map]
    rfl
  rw [List.length_map, ← all]
  exact List.length_filter_le _ _

end Registry

/-! ## One sweep -/

namespace Service

/-- A shutdown has ended, or it waits for the controller of one storage and goes on with others; the
number is that of the answers that it still needs at most. -/
inductive Sweeps (s : Service) : CallState → Nat → Prop
  | ended {tornDown : Nat} (swept : s.registry.Swept []) :
      Sweeps s (.finished (.tornDown tornDown)) 0
  | locating {plan : DeploymentPlan} {hostname : String} {rest : List AdhocId} {tornDown : Nat}
      (swept : s.registry.Swept rest) :
      Sweeps s (.waiting (.locatingForTeardown plan hostname (.shutdown rest tornDown)))
        (2 * rest.length + 2)
  | tearingDown {plan : DeploymentPlan} {address : String} {rest : List AdhocId} {tornDown : Nat}
      (swept : s.registry.Swept rest) :
      Sweeps s (.waiting (.tearingDown plan address (.shutdown rest tornDown)))
        (2 * rest.length + 1)

theorem undoTeardown_registry (s : Service) (plan : DeploymentPlan) (e : ServiceError) :
    (s.undoTeardown plan e).2.registry = (s.registry.abortTeardown plan.id).2 := by
  unfold undoTeardown
  split <;> simp [*]

/-- A shutdown starts the teardown of a storage, or passes over it for good. -/
theorem startTeardown_sweeps {s : Service} {adhoc : AdhocId} {rest : List AdhocId}
    (swept : s.registry.Swept (adhoc :: rest)) (tornDown : Nat) :
    let r := s.startTeardown adhoc (.shutdown rest tornDown)
    (∃ wait, r.1 = .ok wait ∧ ∃ budget ≤ 2 * rest.length + 2, r.2.Sweeps (.waiting wait) budget) ∨
    ∃ e, r.1 = .error e ∧ r.2.registry.Swept rest := by
  unfold startTeardown
  rcases s.registry.beginTeardown_outcome adhoc with ⟨e, refused⟩ | ⟨entry, path, found, up, done⟩
  · rw [refused]
    refine .inr ⟨_, rfl, swept.of_not_deployed fun entry path found up => ?_⟩
    simp [Registry.beginTeardown, found, up] at refused
  · rw [done]
    have begun : (s.registry.setDeployment adhoc entry (.tearingDown path)).Swept rest :=
      swept.setDeployment (by simp)
    simp only
    cases place : (entry.plan adhoc (some path)).location with
    | address address =>
        exact .inl ⟨_, rfl, 2 * rest.length + 1, by omega, .tearingDown begun⟩
    | host hostname => exact .inl ⟨_, rfl, 2 * rest.length + 2, by omega, .locating begun⟩
    | nowhere =>
        have unreachable := DeploymentPlan.location_eq_nowhere.mp place
        refine .inr ⟨_, rfl, ?_⟩
        simp only [undoTeardown_registry]
        refine begun.abortTeardown fun other known => ?_
        simp only [AdhocEntry.plan, Registry.setDeployment, Table.get?_insert, if_pos] at known
        obtain rfl := Option.some.inj known
        exact unreachable

theorem sweep_sweeps {s : Service} {rest : List AdhocId} (swept : s.registry.Swept rest)
    (tornDown : Nat) : ∃ budget ≤ 2 * rest.length,
      (s.sweep rest tornDown).2.Sweeps (s.sweep rest tornDown).1 budget := by
  induction rest generalizing s with
  | nil => exact ⟨0, by omega, .ended swept⟩
  | cons adhoc rest ih =>
      rw [List.length_cons]
      unfold sweep
      have started := startTeardown_sweeps swept tornDown
      cases result : s.startTeardown adhoc (.shutdown rest tornDown) with
      | mk answer s' =>
          rw [result] at started
          rcases started with ⟨wait, rfl, budget, enough, sweeps⟩ | ⟨e, rfl, left⟩
          · exact ⟨budget, by omega, sweeps⟩
          · obtain ⟨budget, enough, sweeps⟩ := ih left
            exact ⟨budget, by omega, sweeps⟩

theorem startShutdown_sweeps (s : Service) : ∃ budget ≤ 2 * s.registry.adhoc.size,
    s.startShutdown.2.Sweeps s.startShutdown.1 budget := by
  obtain ⟨budget, enough, sweeps⟩ := sweep_sweeps s.registry.swept_deployed 0
  have few := s.registry.length_deployed_le
  exact ⟨budget, by omega, sweeps⟩

/-- Each answer of a controller brings a shutdown closer to its end. -/
theorem Sweeps.resume {s : Service} {wait : Waiting} {budget : Nat}
    (sweeps : s.Sweeps (.waiting wait) budget) (text : String) :
    ∃ r less, s.resume wait (.answered (.ok text)) = some r ∧ less < budget ∧
      r.2.Sweeps r.1 less := by
  cases sweeps with
  | @locating plan hostname rest tornDown swept =>
      exact ⟨_, _, rfl, by omega, .tearingDown swept⟩
  | @tearingDown plan address rest tornDown swept =>
      have goes : ∀ done r, s.registry.completeTeardown plan.id = (done, r) →
          ∃ budget ≤ 2 * rest.length,
            (s.completeTeardown plan (.shutdown rest tornDown)).2.Sweeps
              (s.completeTeardown plan (.shutdown rest tornDown)).1 budget := by
        intro done r result
        have left : Registry.Swept rest r := by
          have completed : (s.registry.completeTeardown plan.id).2.Swept rest :=
            swept.completeTeardown
          rwa [result] at completed
        unfold completeTeardown
        rw [result]
        cases done <;> exact sweep_sweeps (s := { s with registry := r }) left _
      obtain ⟨less, enough, sweeps⟩ := goes _ _ rfl
      exact ⟨_, less, rfl, by omega, sweeps⟩

end Service

/-! ## A whole shutdown -/

namespace Machine

/-- A call of a shutdown has ended, or it waits for one of so many answers, and no other call
waits. -/
inductive Sweeping (call budget : Nat) (m : Machine) : Prop
  | ended (idle : ∀ id, m.waiting.get? id = none) (tornDown : Nat)
      (answered : m.outcome? call = some (.tornDown tornDown))
      (swept : m.service.registry.Swept [])
  | waits {wait : Waiting} {left : Nat} (alone : ∀ id, id ≠ call → m.waiting.get? id = none)
      (held : m.waiting.get? call = some wait) (few : left ≤ budget)
      (sweeps : m.service.Sweeps (.waiting wait) left)

theorem settle_sweeping {m : Machine} {call left budget : Nat} {r : CallState × Service}
    (alone : ∀ id, id ≠ call → m.waiting.get? id = none) (sweeps : r.2.Sweeps r.1 left)
    (few : left ≤ budget) : Sweeping call budget (m.settle call r) := by
  obtain ⟨state, s⟩ := r
  have others : ∀ id, id ≠ call → (m.settle call (state, s)).waiting.get? id = none := by
    intro id other
    rw [settle_waiting, if_neg other]
    exact alone id other
  have mine : (m.settle call (state, s)).waiting.get? call = state.wait? := by
    rw [settle_waiting, if_pos rfl]
  cases state with
  | finished outcome =>
      cases sweeps with
      | @ended tornDown swept =>
          refine .ended (fun id => ?_) tornDown ?_ (by rwa [settle_service])
          · by_cases same : id = call
            · rw [same, mine]
              rfl
            · exact others id same
          · rw [settle_outcome?, if_pos rfl]
            rfl
  | waiting wait => exact .waits others mine few (by rwa [settle_service])

theorem answer_sweeping {m : Machine} {call budget : Nat} (sweeping : Sweeping call (budget + 1) m)
    (text : String) : Sweeping call budget (m.step (.answer call (.ok text))) := by
  cases sweeping with
  | ended idle tornDown answered swept =>
      have ignored : m.step (.answer call (.ok text)) = m := by
        simp only [step, Machine.signal, idle call, Option.bind_none]
      rw [ignored]
      exact .ended idle tornDown answered swept
  | @waits wait left alone held few sweeps =>
      obtain ⟨r, less, resumed, closer, sweeps⟩ := sweeps.resume text
      have went : m.step (.answer call (.ok text)) = m.settle call r := by
        simp only [step, Machine.signal, held, Option.bind_some, resumed]
      rw [went]
      exact settle_sweeping alone sweeps (by omega)

/-- The answers of a controller to a call, one after another. -/
def answers (call : Nat) (texts : List String) : List Event :=
  texts.map fun text => .answer call (.ok text)

theorem run_answers {m : Machine} {call : Nat} {texts : List String}
    (sweeping : Sweeping call texts.length m) : Sweeping call 0 (m.run (answers call texts)) := by
  induction texts generalizing m with
  | nil => exact sweeping
  | cons text rest ih => exact ih (answer_sweeping sweeping text)

theorem lost_answers (m : Machine) (call : Nat) (texts : List String) :
    m.lost (answers call texts) = [] := by
  induction texts generalizing m with
  | nil => rfl
  | cons text rest ih => exact ih (m.step (.answer call (.ok text)))

/-- Once a shutdown has ended, an instance that the registry remembers is stranded. -/
theorem isMounted_of_swept {m : Machine} (inHand : InHand m)
    (idle : ∀ id, m.waiting.get? id = none) (swept : m.service.registry.Swept [])
    (adhoc : AdhocId) :
    m.service.registry.isMounted adhoc = m.service.registry.isStranded adhoc := by
  unfold Registry.isMounted Registry.mount? Registry.isStranded
  cases found : m.service.registry.adhoc.get? adhoc with
  | none => rfl
  | some entry =>
      rw [Option.map_some, Option.join_some, Option.filter_some]
      cases state : entry.deployment with
      | undeployed | deploying => rfl
      | deployed path =>
          rcases swept adhoc entry path found state with later | stuck
          · exact absurd later (by simp)
          · rw [stuck]
            rfl
      | tearingDown path =>
          -- a teardown in flight belongs to a call that waits
          have shown := Registry.inFlight?_eq_teardown.mpr ⟨entry, path, found, state, rfl⟩
          exact absurd (shown.symm.trans (inHand.inFlight?_of_idle idle adhoc)) (by simp)

/-- A shutdown that starts while no call waits, and whose controllers answer, ends. A storage has
then been torn down as often as it has been deployed, apart from the instances that went out of
memory when the storage was removed, and from one that there is no way to reach a controller
for. -/
theorem shutdown_tears_down_what_is_registered (config : ServiceConfig) (history : List Event)
    (texts : List String) (idle : ∀ id, ((fresh config).run history).waiting.get? id = none)
    (enough : 2 * ((fresh config).run history).service.registry.adhoc.size ≤ texts.length) :
    let start := fresh config
    let call := (start.run history).started
    let whole := history ++ .call .shutdown :: answers call texts
    let stopped := start.run whole
    (∃ tornDown, stopped.outcome? call = some (.tornDown tornDown)) ∧
    ∀ adhoc, MountRecord.deploys adhoc (start.done whole) =
      MountRecord.teardowns adhoc (start.done whole) + (start.lost history).count adhoc +
        (stopped.service.registry.isStranded adhoc).toNat := by
  intro start call whole stopped
  obtain ⟨budget, few, sweeps⟩ := (start.run history).service.startShutdown_sweeps
  have begun : Sweeping call texts.length ((start.run history).step (.call .shutdown)) :=
    settle_sweeping (fun id _ => idle id) sweeps (Nat.le_trans few enough)
  have settled : Sweeping call 0 stopped := by
    rw [show stopped = _ from run_append_cons start history _ _]
    exact run_answers begun
  have spared : start.lost whole = start.lost history := by
    rw [show start.lost whole = _ from lost_append start history _]
    exact (congrArg (start.lost history ++ ·) (lost_answers _ call texts)).trans
      (List.append_nil _)
  cases settled with
  | waits alone held none sweeps => cases sweeps <;> omega
  | ended idle tornDown answered swept =>
      refine ⟨⟨tornDown, answered⟩, fun adhoc => ?_⟩
      have balance := run_instances config whole adhoc
      rw [isMounted_of_swept (run_inHand config whole) idle swept adhoc] at balance
      rw [← spared]
      exact balance

/-- A deployed storage is torn down by the shutdown. -/
theorem deployed_storage_is_torn_down :
    let history : List Event := [
      .call (.request (.registerAdhocStorage "burst" .gekkofs
        ⟨"ctl:1", "", .separateNew, .readWrite, 60, false⟩ ⟨[⟨"n01", .regular⟩]⟩)),
      .call (.request (.deployAdhocStorage ⟨1⟩)),
      .answer 1 (.ok "/mnt/burst")]
    let call := ((fresh .standard).run history).started
    let whole := history ++ .call .shutdown :: answers call ["", ""]
    (∃ tornDown, ((fresh .standard).run whole).outcome? call = some (.tornDown tornDown)) ∧
    MountRecord.deploys ⟨1⟩ ((fresh .standard).done whole) = 1 ∧
    MountRecord.teardowns ⟨1⟩ ((fresh .standard).done whole) = 1 := by
  intro history call whole
  have settled := shutdown_tears_down_what_is_registered .standard history ["", ""] (fun _ => rfl)
    (Nat.le_refl 2)
  have deployed : MountRecord.deploys ⟨1⟩ ((fresh .standard).done whole) = 1 := by decide +kernel
  have reached : ((fresh .standard).run whole).service.registry.isStranded ⟨1⟩ = false := by
    decide +kernel
  have balance := settled.2 ⟨1⟩
  have kept : ((fresh .standard).lost history).count ⟨1⟩ = 0 := rfl
  rw [kept, reached, deployed] at balance
  exact ⟨settled.1, deployed, balance.symm⟩

/-- A storage is removed while it is deployed: the shutdown finds nothing to tear down and ends, and
the instance goes on running. -/
theorem removal_forgets_instance :
    let history : List Event := [
      .call (.request (.registerAdhocStorage "burst" .gekkofs
        ⟨"ctl:1", "", .separateNew, .readWrite, 60, false⟩ ⟨[⟨"n01", .regular⟩]⟩)),
      .call (.request (.deployAdhocStorage ⟨1⟩)),
      .answer 1 (.ok "/mnt/burst"),
      .call (.request (.removeAdhocStorage ⟨1⟩ none))]
    let whole := history ++ [.call .shutdown]
    ((fresh .standard).run history).waiting.size = 0 ∧
    ((fresh .standard).run whole).waiting.size = 0 ∧
    MountRecord.deploys ⟨1⟩ ((fresh .standard).done whole) = 1 ∧
    MountRecord.teardowns ⟨1⟩ ((fresh .standard).done whole) = 0 := by
  decide +kernel

end Machine

end StorageBroker
