import StorageBroker.Proofs.Service.Attempt

/-! # The sweep of a shutdown

A shutdown attempts the teardown of every deployed storage, by id, and goes on whatever comes of an
attempt. It writes nothing but the deployments of the storages that are torn down, and those are the
ones that it counts. It does what a client does that asks for the same teardowns one by one; the next
shutdown attempts those that have failed. -/

set_option autoImplicit false

namespace StorageBroker

theorem Conduct.isOk_result (conduct : Conduct) (afterMs : Nat) (plan : DeploymentPlan) :
    (conduct.result afterMs plan).isOk = conduct.succeeds plan := by
  obtain ⟨resolver, controller⟩ := conduct
  unfold result succeeds
  cases plan.location with
  | address address => cases controller <;> rfl
  | host hostname => cases resolver <;> cases controller <;> rfl
  | nowhere => rfl

theorem Registry.Begins.undeploy {r : Registry} {plan : DeploymentPlan} {ids : List AdhocId}
    (begins : r.Begins (.teardown plan)) (other : plan.id ∉ ids) :
    (r.undeploy ids).Begins (.teardown plan) := by
  rw [begins_teardown] at begins ⊢
  rwa [get?_undeploy_of_not_mem other]

/-- What becomes of one storage leaves the others as deployed as they were. -/
theorem Registry.begins_undeploy_one {r : Registry} {storage : AdhocStorage}
    {rest : List AdhocStorage}
    (begins : ∀ other ∈ storage :: rest, r.Begins (.teardown other.plan))
    (apart : storage.id ∉ rest.map AdhocStorage.id) (down : Bool) :
    ∀ other ∈ rest, (r.undeploy (if down then [storage.id] else [])).Begins
      (.teardown other.plan) := by
  intro other listed
  have elsewhere : other.id ≠ storage.id := fun same =>
    apart (same ▸ List.mem_map_of_mem listed)
  refine (begins other (List.mem_cons_of_mem _ listed)).undeploy ?_
  cases down with
  | true => exact fun same => elsewhere (List.mem_singleton.mp same)
  | false => exact List.not_mem_nil

/-! ## One attempt after another -/

section

variable (conduct : AdhocId → Conduct)

def succeeding (storages : List AdhocStorage) : List AdhocStorage :=
  storages.filter fun storage => (conduct storage.id).succeeds storage.plan

def failing (storages : List AdhocStorage) : List AdhocStorage :=
  storages.filter fun storage => !(conduct storage.id).succeeds storage.plan

/-- The collaborators that are called for storages that are torn down in turn. -/
def callsInTurn (port : UInt16) (storages : List AdhocStorage) : List Outbound :=
  storages.flatMap fun storage => (conduct storage.id).calls port storage.plan

/-- A shutdown and the events that it goes through these storages by. -/
def shutdownEvents (call : Nat) (storages : List AdhocStorage) : List Event :=
  .call .shutdown :: storages.flatMap fun storage => (conduct storage.id).events call storage.plan

/-- A client asks for the teardown of these storages, one by one: for the next when it has been told
how the last has ended. -/
def clientEvents : Nat → List AdhocStorage → List Event
  | _, [] => []
  | call, storage :: rest =>
    .call (.request (.terminateAdhocStorage storage.id)) ::
      (conduct storage.id).events call storage.plan ++ clientEvents (call + 1) rest

theorem map_id_succeeding_cons (storage : AdhocStorage) (rest : List AdhocStorage) :
    (succeeding conduct (storage :: rest)).map AdhocStorage.id =
      (if (conduct storage.id).succeeds storage.plan then [storage.id] else []) ++
        (succeeding conduct rest).map AdhocStorage.id := by
  unfold succeeding
  rw [List.filter_cons]
  split <;> rfl

theorem length_succeeding_cons (storage : AdhocStorage) (rest : List AdhocStorage) :
    (succeeding conduct (storage :: rest)).length =
      ((conduct storage.id).succeeds storage.plan).toNat + (succeeding conduct rest).length := by
  unfold succeeding
  rw [List.filter_cons]
  cases (conduct storage.id).succeeds storage.plan with
  | true => exact Nat.add_comm _ 1
  | false => exact (Nat.zero_add _).symm

end

namespace Service

theorem afterAttempt_shutdown (s : Service) (plan : DeploymentPlan) (rest : List AdhocId)
    (tornDown : Nat) (result : Except ServiceError Unit) :
    s.afterAttempt plan (.shutdown rest tornDown) result =
      (s.undeploy (if result.isOk then [plan.id] else [])).sweep rest
        (tornDown + result.isOk.toNat) := by
  cases result <;> rfl

theorem afterAttempt_client (s : Service) (plan : DeploymentPlan)
    (result : Except ServiceError Unit) :
    s.afterAttempt plan .client result = (.finished (.reply (result.map fun _ => .empty)),
      s.undeploy (if result.isOk then [plan.id] else [])) := by
  cases result <;> rfl

/-- A shutdown gets through storages to those that come after them, whatever their collaborators
do. -/
theorem sweep_leads {s : Service} {storages : List AdhocStorage}
    (begins : ∀ storage ∈ storages, s.registry.Begins (.teardown storage.plan))
    (apart : (storages.map AdhocStorage.id).Nodup) (later : List AdhocId) (tornDown : Nat)
    (conduct : AdhocId → Conduct) (call : Nat) :
    Machine.Leads call (s.sweep (storages.map AdhocStorage.id ++ later) tornDown)
      (storages.flatMap fun storage => (conduct storage.id).events call storage.plan)
      (callsInTurn conduct s.config.controllerPort storages)
      ((s.undeploy ((succeeding conduct storages).map AdhocStorage.id)).sweep later
        (tornDown + (succeeding conduct storages).length)) := by
  induction storages generalizing s tornDown with
  | nil =>
      rw [succeeding, List.filter_nil, List.map_nil, undeploy_nil]
      exact .refl call _
  | cons storage rest ih =>
      rw [List.map_cons, List.nodup_cons] at apart
      have first := attempt_leads (begins storage List.mem_cons_self)
        (.shutdown (rest.map AdhocStorage.id ++ later) tornDown) (conduct storage.id) call
      rw [afterAttempt_shutdown, Conduct.isOk_result] at first
      -- the rest is swept from the state that the first attempt leaves, whichever that is
      have others := Registry.begins_undeploy_one begins apart.1
        ((conduct storage.id).succeeds storage.plan)
      have whole := first.trans (ih (s := s.undeploy _) others apart.2 _)
      rw [undeploy_undeploy, ← sweep_cons] at whole
      rw [map_id_succeeding_cons, length_succeeding_cons, ← Nat.add_assoc]
      exact whole

end Service

namespace Machine

/-- The machine once the next call has been made and has ended like this. -/
def answered (m : Machine) (outcome : Outcome) (s : Service) : Machine :=
  ⟨s, m.waiting, m.started + 1, (m.started, outcome) :: m.finished⟩

theorem outcome?_answered (m : Machine) (outcome : Outcome) (s : Service) :
    (m.answered outcome s).outcome? m.started = some outcome := by
  simp [outcome?, answered]

/-- A call that is led to its end. -/
theorem Leads.of_call {m : Machine} (tidy : Tidy m) {call : Call} {events : List Event}
    {made : List Outbound} {outcome : Outcome} {s : Service}
    (leads : Leads m.started (m.service.start call) events made (.finished outcome, s)) :
    m.run (.call call :: events) = m.answered outcome s ∧
      m.outbounds (.call call :: events) = made.map (m.started, ·) := by
  have unknown := waiting_of_unstarted tidy
  have begun : m.step (.call call) =
      { m with started := m.started + 1 }.settle m.started (m.service.start call) := rfl
  constructor
  · have ran := leads.run { m with started := m.started + 1 }
    rw [← begun] at ran
    refine ran.trans ?_
    simp only [settle, answered, Table.erase_of_absent unknown]
  · have about : m.target (.call call) = m.started := rfl
    have turned := outbound?_of_settle about begun (by simp [unknown])
    have made := leads.calls { m with started := m.started + 1 }
    rw [← begun] at made
    rw [outbounds, turned]
    exact made.trans (congrArg _ (List.append_nil _))

/-- Without calls that wait, every deployed storage can be torn down. -/
theorem begins_of_deployed {m : Machine} (inHand : InHand m)
    (idle : ∀ id, m.waiting.get? id = none) :
    ∀ storage ∈ m.service.registry.deployed,
      m.service.registry.Begins (.teardown storage.plan) := by
  intro storage listed
  obtain ⟨entry, path, found, same, up⟩ := Registry.mem_deployed.mp listed
  refine Registry.begins_teardown.mpr ⟨entry, path, found, ?_, ?_⟩
  · have still := inHand.inFlight?_of_idle idle storage.id
    rw [Registry.inFlight?_of_get? found] at still
    cases state : entry.deployment with
    | undeployed | deploying => simp [state, Deployment.mountPath?] at up
    | tearingDown other => simp [AdhocEntry.work?, state] at still
    | deployed other =>
        rw [state] at up
        exact congrArg Deployment.deployed (Option.some.inj up)
  · have mounted : storage.mountPath = some path := by
      rw [same]
      exact up
    rw [AdhocStorage.plan, mounted, same]
    rfl

/-! ## A client's requests -/

/-- A client that asks for the teardown of a deployed storage is told how it has ended. -/
theorem run_terminate {m : Machine} (tidy : Tidy m) {plan : DeploymentPlan}
    (begins : m.service.registry.Begins (.teardown plan)) (conduct : Conduct) :
    let result := conduct.result m.service.config.controllerMs plan
    let events : List Event :=
      .call (.request (.terminateAdhocStorage plan.id)) :: conduct.events m.started plan
    m.run events = m.answered (.reply (result.map fun _ => .empty))
      (m.service.undeploy (if conduct.succeeds plan then [plan.id] else [])) ∧
    m.outbounds events =
      (conduct.calls m.service.config.controllerPort plan).map (m.started, ·) := by
  intro result events
  have leads := Service.attempt_leads begins .client conduct m.started
  rw [Service.afterAttempt_client, conduct.isOk_result, ← Service.startRequest_terminate] at leads
  have asked : Leads m.started
      (m.service.start (.request (.terminateAdhocStorage plan.id))) _ _ _ := leads
  exact asked.of_call tidy

/-- The requests of a client for the teardown of some storages, one by one: whom they call, what
they leave behind, and what the client is told. -/
theorem run_clientEvents {m : Machine} (tidy : Tidy m) {storages : List AdhocStorage}
    (begins : ∀ storage ∈ storages, m.service.registry.Begins (.teardown storage.plan))
    (apart : (storages.map AdhocStorage.id).Nodup) (conduct : AdhocId → Conduct) :
    (m.run (clientEvents conduct m.started storages)).service =
      m.service.undeploy ((succeeding conduct storages).map AdhocStorage.id) ∧
    (m.outbounds (clientEvents conduct m.started storages)).map Prod.snd =
      callsInTurn conduct m.service.config.controllerPort storages ∧
    ∀ n storage, storages[n]? = some storage →
      (m.run (clientEvents conduct m.started storages)).outcome? (m.started + n) =
        some (.reply (((conduct storage.id).result m.service.config.controllerMs
          storage.plan).map fun _ => .empty)) := by
  induction storages generalizing m with
  | nil => exact ⟨m.service.undeploy_nil.symm, rfl, fun n storage found => by simp at found⟩
  | cons storage rest ih =>
      rw [List.map_cons, List.nodup_cons] at apart
      obtain ⟨ran, called⟩ := run_terminate tidy (begins storage List.mem_cons_self)
        (conduct storage.id)
      rw [AdhocStorage.plan_id] at ran called
      have tidy' := ran ▸ run_preserves_tidy tidy _
      have others := Registry.begins_undeploy_one begins apart.1
        ((conduct storage.id).succeeds storage.plan)
      obtain ⟨left, asked, told⟩ := ih tidy' others apart.2
      rw [clientEvents, run_append, outbounds_append, ran, called]
      refine ⟨?_, ?_, ?_⟩
      · rw [map_id_succeeding_cons, ← Service.undeploy_undeploy]
        exact left
      · rw [List.map_append, callsInTurn, List.flatMap_cons, ← callsInTurn]
        refine congr (congrArg _ ?_) asked
        rw [List.map_map]
        exact List.map_id _
      · rintro (- | n) other found
        · obtain rfl := Option.some.inj found
          exact run_keeps_outcome tidy' _ (outcome?_answered m _ _)
        · have later := told n other found
          rwa [answered, Nat.add_right_comm] at later

/-! ## A whole shutdown -/

/-- What a shutdown comes to that attempts the teardown of these storages, in this order, each once,
when their collaborators conduct themselves like this. -/
structure ShutsDown (m : Machine) (conduct : AdhocId → Conduct) (storages : List AdhocStorage) :
    Prop where
  /-- Once it has got through the storages before one, the call attempts the teardown of that one,
  whatever has become of the others; those that come after it are left. -/
  attempts : ∀ before storage rest, storages = before ++ storage :: rest →
    m.run (shutdownEvents conduct m.started before) =
      { m with started := m.started + 1 }.settle m.started
        ((m.service.undeploy ((succeeding conduct before).map AdhocStorage.id)).attempt storage.id
          (.shutdown (rest.map AdhocStorage.id) (succeeding conduct before).length))
  /-- The collaborators of one storage after another are called. -/
  calls : m.outbounds (shutdownEvents conduct m.started storages) =
    (callsInTurn conduct m.service.config.controllerPort storages).map (m.started, ·)
  /-- The call ends with the number of storages that are torn down. They are undeployed, and nothing
  else has changed. -/
  ends : m.run (shutdownEvents conduct m.started storages) =
    m.answered (.tornDown (succeeding conduct storages).length)
      (m.service.undeploy ((succeeding conduct storages).map AdhocStorage.id))
  /-- A client that asks for the same teardowns one by one has the same collaborators called and
  leaves the same service behind. -/
  oneByOne :
    (m.run (clientEvents conduct m.started storages)).service =
      m.service.undeploy ((succeeding conduct storages).map AdhocStorage.id) ∧
    (m.outbounds (clientEvents conduct m.started storages)).map Prod.snd =
      callsInTurn conduct m.service.config.controllerPort storages ∧
    ∀ n storage, storages[n]? = some storage →
      (m.run (clientEvents conduct m.started storages)).outcome? (m.started + n) =
        some (.reply (((conduct storage.id).result m.service.config.controllerMs
          storage.plan).map fun _ => .empty))

theorem shutsDown_of_idle {m : Machine} (tidy : Tidy m) (inHand : InHand m)
    (idle : ∀ id, m.waiting.get? id = none) (conduct : AdhocId → Conduct) :
    m.ShutsDown conduct m.service.registry.deployed := by
  have begins := begins_of_deployed inHand idle
  have apart := m.service.registry.nodup_deployed
  have whole := Service.sweep_leads begins apart [] 0 conduct m.started
  rw [List.append_nil, Nat.zero_add, Service.sweep] at whole
  have leads : Leads m.started (m.service.start .shutdown) _ _ _ := whole
  obtain ⟨ends, calls⟩ := leads.of_call tidy
  refine ⟨fun before storage rest split => ?_, calls, ends,
    run_clientEvents tidy begins apart conduct⟩
  have first : (before.map AdhocStorage.id).Nodup := by
    rw [split, List.map_append] at apart
    exact (List.nodup_append.mp apart).1
  -- what is left is the sweep of the storage and of those after it
  have part := Service.sweep_leads (fun other listed => begins other (split ▸
    List.mem_append_left _ listed)) first ((storage :: rest).map AdhocStorage.id) 0 conduct m.started
  rw [← List.map_append, ← split, Nat.zero_add] at part
  exact part.run { m with started := m.started + 1 }

theorem mem_map_id_succeeding {r : Registry} {storage : AdhocStorage}
    (listed : storage ∈ r.deployed) (conduct : AdhocId → Conduct) :
    storage.id ∈ (succeeding conduct r.deployed).map AdhocStorage.id ↔
      (conduct storage.id).succeeds storage.plan = true := by
  constructor
  · intro member
    obtain ⟨other, both, same⟩ := List.mem_map.mp member
    obtain ⟨also, succeeds⟩ := List.mem_filter.mp both
    rwa [Registry.eq_of_mem_deployed also listed same] at succeeds
  · intro succeeds
    exact List.mem_map_of_mem (List.mem_filter.mpr ⟨listed, succeeds⟩)

theorem deployed_undeploy_succeeding (r : Registry) (conduct : AdhocId → Conduct) :
    (r.undeploy ((succeeding conduct r.deployed).map AdhocStorage.id)).deployed =
      failing conduct r.deployed := by
  rw [Registry.deployed_undeploy, failing]
  refine List.filter_congr fun storage listed => ?_
  simp only [mem_map_id_succeeding listed conduct]
  cases (conduct storage.id).succeeds storage.plan <;> rfl

/-- A shutdown that starts while no call waits attempts the teardown of exactly the storages that
are deployed, in the order of their ids, each once, however the collaborators of each react, and
ends with the number of teardowns that have succeeded. A storage that is torn down has no mount path
then, one whose teardown has failed has the mount path that it had, and nothing else has changed.
Another shutdown attempts exactly the teardowns that have failed. -/
theorem shutdown_attempts_deployed_storages (config : ServiceConfig) (history : List Event)
    (conduct again : AdhocId → Conduct)
    (idle : ∀ id, ((fresh config).run history).waiting.get? id = none) :
    let m := (fresh config).run history
    let storages := m.service.registry.deployed
    let stopped := m.run (shutdownEvents conduct m.started storages)
    (∀ adhoc, adhoc ∈ storages.map AdhocStorage.id ↔
      ∃ path, m.service.registry.mount? adhoc = some (some path)) ∧
    storages.Pairwise (fun a b => a.id.raw < b.id.raw) ∧
    m.ShutsDown conduct storages ∧
    stopped.outcome? m.started = some (.tornDown (succeeding conduct storages).length) ∧
    (∀ storage ∈ storages, stopped.service.registry.mount? storage.id =
      if (conduct storage.id).succeeds storage.plan then some none
      else m.service.registry.mount? storage.id) ∧
    stopped.service.registry.deployed = failing conduct storages ∧
    stopped.ShutsDown again (failing conduct storages) := by
  intro m storages stopped
  have tidy : Tidy m := run_tidy config history
  have shuts : m.ShutsDown conduct storages :=
    shutsDown_of_idle tidy (run_inHand config history) idle conduct
  have ends : stopped = m.answered _ _ := shuts.ends
  have left : stopped.service.registry.deployed = failing conduct storages := by
    rw [ends]
    exact deployed_undeploy_succeeding m.service.registry conduct
  have reached : stopped = (fresh config).run
      (history ++ shutdownEvents conduct m.started storages) := (run_append _ _ _).symm
  have idle' : ∀ id, stopped.waiting.get? id = none := by
    rw [ends]
    exact idle
  have inHand' : InHand stopped := reached ▸ run_inHand config _
  refine ⟨fun adhoc => Registry.mem_map_id_deployed, m.service.registry.deployed_pairwise, shuts,
    ?_, ?_, left, left ▸ shutsDown_of_idle (run_preserves_tidy tidy _) inHand' idle' again⟩
  · rw [ends, outcome?_answered]
  · intro storage listed
    obtain ⟨path, mounted⟩ := Registry.mem_map_id_deployed.mp (List.mem_map_of_mem listed)
    rw [ends]
    change (m.service.registry.undeploy _).mount? storage.id = _
    rw [Registry.mount?_undeploy, mounted]
    simp only [storages, mem_map_id_succeeding listed conduct, Option.map_some]

/-- Of three storages the first has a controller that fails, and no address is found for the last.
The one between them is torn down; when the others can be reached again, another shutdown tears them
down. -/
theorem failed_teardowns_are_attempted_again :
    let register (address : String) : Event :=
      .call (.request (.registerAdhocStorage "burst" .gekkofs
        ⟨address, "", .separateNew, .readWrite, 60, false⟩ ⟨[⟨"n01", .regular⟩]⟩))
    let history : List Event := [
      register "ctl:1", register "ctl:2", register "",
      .call (.request (.deployAdhocStorage ⟨1⟩)), .answer 3 (.ok "/mnt/one"),
      .call (.request (.deployAdhocStorage ⟨2⟩)), .answer 4 (.ok "/mnt/two"),
      .call (.request (.deployAdhocStorage ⟨3⟩)), .answer 5 (.ok "n01:5"),
      .answer 5 (.ok "/mnt/three")]
    let conduct (adhoc : AdhocId) : Conduct :=
      ⟨.silent, if adhoc = ⟨2⟩ then .answers "" else .fails .closed⟩
    let again (_ : AdhocId) : Conduct := ⟨.answers "n01:5", .answers ""⟩
    let m := (fresh .standard).run history
    let stopped := m.run (shutdownEvents conduct m.started m.service.registry.deployed)
    m.service.registry.deployed.map AdhocStorage.id = [⟨1⟩, ⟨2⟩, ⟨3⟩] ∧
    stopped.outcome? m.started = some (.tornDown 1) ∧
    stopped.service.registry.deployed.map AdhocStorage.id = [⟨1⟩, ⟨3⟩] ∧
    (stopped.run (shutdownEvents again stopped.started
      stopped.service.registry.deployed)).outcome? stopped.started = some (.tornDown 2) := by
  intro register history conduct again
  dsimp only
  have still : ((fresh .standard).run history).waiting.size = 0 := by decide +kernel
  have listed := Registry.deployed_of_sorted (r := ((fresh .standard).run history).service.registry)
    (by decide +kernel)
  obtain ⟨-, -, -, answered, -, left, shuts⟩ := shutdown_attempts_deployed_storages .standard
    history conduct again (Table.size_eq_zero.mp still)
  rw [answered, left, shuts.ends, outcome?_answered, listed]
  refine ⟨by decide +kernel, ?_, by decide +kernel, ?_⟩
  · exact congrArg (fun n => some (Outcome.tornDown n)) (by decide +kernel)
  · exact congrArg (fun n => some (Outcome.tornDown n)) (by decide +kernel)

end Machine

end StorageBroker
