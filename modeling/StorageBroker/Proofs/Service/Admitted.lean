import StorageBroker.Proofs.Net.Gate
import StorageBroker.Proofs.Service.Checked
import StorageBroker.Proofs.Service.Directed
import StorageBroker.Proofs.Service.InFlight
import StorageBroker.Proofs.Service.Outbound
import StorageBroker.Proofs.Wire.Message
import StorageBroker.Service.Collaborator
import StorageBroker.Service.Shared

/-! # Behind the gate

The checks at the gate of a server are all the checks that there are, and they are enough: as long
as every request has passed them, what the service keeps is well-formed, and so is what it sends to
its collaborators, who check it at a gate of their own. -/

set_option autoImplicit false

namespace StorageBroker

/-! ## Runs -/

/-- The event is not a request that a server turns away: it is a request that has passed the checks,
or it is no request at all. -/
def Event.Admitted : Event → Prop
  | .call (.request request) => request.isValid = true
  | .call .shutdown | .answer _ _ | .wake _ | .expire _ => True

theorem Service.start_preserves_wellFormed {s : Service} (formed : s.WellFormed)
    (sound : s.transfers.Sound) {call : Call} (admitted : (Event.call call).Admitted) :
    (s.start call).2.WellFormed := by
  cases call with
  | request request => exact startRequest_preserves_wellFormed formed sound admitted
  | shutdown => exact formed.of_moved (s.sweep_moved (fun _ same => same) _ 0)

namespace Machine

/-- What every admitted event preserves. -/
structure Kept (m : Machine) : Prop where
  orderly : m.service.Orderly
  formed : m.service.WellFormed
  directed : ∀ id outcome, m.outcome? id = some outcome → outcome.undirected = false

theorem kept_fresh (config : ServiceConfig) : Kept (fresh config) where
  orderly := Service.orderly_fresh config
  formed := Service.wellFormed_fresh config
  directed := by
    intro id outcome ended
    simp [fresh, outcome?] at ended

theorem settle_directed {m : Machine}
    (directed : ∀ id outcome, m.outcome? id = some outcome → outcome.undirected = false)
    {id : Nat} {r : CallState × Service} (new : r.1.undirected = false) :
    ∀ x outcome, (m.settle id r).outcome? x = some outcome → outcome.undirected = false := by
  intro x outcome ended
  rw [settle_outcome?] at ended
  by_cases here : x = id
  · rw [if_pos here, Option.or_eq_some_iff] at ended
    rcases ended with now | ⟨-, before⟩
    · rw [CallState.undirected, now] at new
      exact new
    · exact directed x outcome before
  · rw [if_neg here] at ended
    exact directed x outcome ended

theorem Step.preserves_kept {m m' : Machine} {event : Event} (step : Step m event m')
    (admitted : event.Admitted) (kept : Kept m) : Kept m' := by
  have orderly := step.changes.preserve_orderly kept.orderly
  cases step with
  | started call =>
      refine ⟨orderly, ?_, ?_⟩
      · rw [settle_service]
        exact Service.start_preserves_wellFormed kept.formed kept.orderly.sound admitted
      · exact settle_directed (m := { m with started := m.started + 1 }) kept.directed
          (Service.start_directed kept.formed call)
  | resumed sent held went =>
      refine ⟨orderly, ?_, ?_⟩
      · rw [settle_service]
        exact Service.resume_preserves_wellFormed kept.formed kept.orderly.sound went
      · exact settle_directed kept.directed (Service.resume_directed went)
  | idle nothing deaf => exact kept

theorem run_preserves_kept {m : Machine} (kept : Kept m) {history : List Event}
    (admitted : ∀ event ∈ history, event.Admitted) : Kept (m.run history) := by
  induction history generalizing m with
  | nil => exact kept
  | cons event rest ih =>
      exact ih ((m.step_step event).preserves_kept (admitted event List.mem_cons_self) kept)
        fun later member => admitted later (List.mem_cons_of_mem _ member)

/-! ## What is sent -/

/-- What a call asks of a controller or of a data mover passes the checks there. -/
theorem asked_isValid {m : Machine} (inHand : InHand m) (formed : m.service.WellFormed) {id : Nat}
    {wait : Waiting} {port : UInt16} {made : Outbound} {address : String} {request : Request}
    (waits : m.waiting.get? id = some wait) (turns : wait.outbound? port = some made)
    (asked : made.asked? = some (address, request)) : request.isValid = true := by
  have hosts : ∀ work, wait.work? = some work →
      Node.AllNamed work.plan.resources.nodes := by
    intro work works
    have held := inHand.held id work (by rw [work?, waits, Option.bind_some, works])
    exact formed.registry.hosts_of_inFlight held
  rw [Request.isValid_iff]
  cases wait with
  | deploying plan place =>
      obtain rfl := Option.some.inj turns
      obtain ⟨-, rfl⟩ := Prod.mk.inj (Option.some.inj asked)
      exact Node.complaint?_eq_none.mpr (hosts _ rfl)
  | tearingDown plan place origin =>
      obtain rfl := Option.some.inj turns
      obtain ⟨-, rfl⟩ := Prod.mk.inj (Option.some.inj asked)
      exact Node.complaint?_eq_none.mpr (hosts _ rfl)
  | dispatching transfer place =>
      obtain rfl := Option.some.inj turns
      obtain ⟨-, rfl⟩ := Prod.mk.inj (Option.some.inj asked)
      rfl
  | locatingForDeploy plan hostname | locatingForTeardown plan hostname origin =>
      obtain rfl := Option.some.inj turns
      cases asked
  | awaiting transfer budgetMs | finalizing job operation transfer => cases turns

theorem sent_isValid (config : ServiceConfig) {history : List Event}
    (admitted : ∀ event ∈ history, event.Admitted) {call : Nat} {made : Outbound}
    {address : String} {request : Request}
    (sent : (call, made) ∈ (fresh config).outbounds history)
    (asked : made.asked? = some (address, request)) : request.isValid = true := by
  obtain ⟨first, event, rest, rfl, brought⟩ := exists_of_mem_outbounds sent
  obtain ⟨-, wait, waits, -, turns⟩ := waiting_of_outbound? brought
  have step : ((fresh config).run first).step event = (fresh config).run (first ++ [event]) :=
    (run_append _ first [event]).symm
  have earlier : ∀ other ∈ first ++ [event], other.Admitted := by
    rw [List.append_cons] at admitted
    exact fun other member => admitted other (List.mem_append_left rest member)
  rw [step] at waits turns
  exact asked_isValid (run_inHand config _) (run_preserves_kept (kept_fresh config) earlier).formed
    waits turns asked

end Machine

/-! ## Connections -/

/-- What has passed the checks of a sender passes those of the receiver. -/
theorem Server.received_encode {request : Request} (valid : request.isValid = true)
    (fits : (Wire.encode request).length ≤ Frame.limit) :
    Server.received (Wire.encode request) = .ok request := by
  have room : Frame.limit < UInt64.size := by decide
  have decoded := Wire.ofPayload?_encode request [] (Nat.lt_of_le_of_lt fits room)
  rw [List.append_nil] at decoded
  simp only [Server.received, decoded, Server.checked, Request.isValid_iff.mp valid]

namespace Shared

/-- A state to which a history of admitted events has led, with only such events ahead. -/
structure Led (m : Machine) (s : Shared) : Prop where
  reached : ∃ more, (∀ event ∈ more, event.Admitted) ∧ s.machine = m.run more
  ahead : ∀ events ∈ s.ahead, ∀ event ∈ events, event.Admitted

theorem handle_preserves_led {m : Machine} (s : Shared) (request : Request)
    (valid : request.isValid = true) (led : Led m s) : Led m (s.handle request).2 where
  reached := by
    obtain ⟨more, admitted, reached⟩ := led.reached
    refine ⟨more ++ .call (.request request) :: (s.ahead.headD [] ++
      [.wake s.machine.started, .expire s.machine.started]), ?_, ?_⟩
    · intro event member
      simp only [List.mem_append, List.mem_cons, List.not_mem_nil, or_false] at member
      rcases member with before | rfl | meanwhile | rfl | rfl
      · exact admitted event before
      · exact valid
      · cases ahead : s.ahead with
        | nil => simp [ahead] at meanwhile
        | cons events rest =>
            rw [ahead, List.headD_cons] at meanwhile
            exact led.ahead events (ahead ▸ List.mem_cons_self) event meanwhile
      · trivial
      · trivial
    · rw [Machine.run_append, ← reached]
      rfl
  ahead events member := led.ahead events (List.mem_of_mem_tail member)

end Shared

namespace Machine

/-- A service of which only requests that pass the checks at its gate have been asked: whatever it
keeps is well-formed. For every storage that it knows there is a place to look for the controller,
so that no call has failed for want of one. Every request that it has sent passes the same checks
at the server that receives it. And it stays so, whatever bytes another connection sends: the
machine that the connection leaves has come there by admitted events only. -/
theorem kept_and_sent_is_wellFormed (config : ServiceConfig) (history : List Event)
    (admitted : ∀ event ∈ history, event.Admitted) :
    let m := (fresh config).run history
    m.service.WellFormed ∧
    (∀ adhoc entry path, m.service.registry.adhoc.get? adhoc = some entry →
      (entry.plan adhoc path).location ≠ .nowhere) ∧
    (∀ call adhoc, m.outcome? call ≠ some (.reply (.error (.noController adhoc)))) ∧
    (∀ call made address request, (call, made) ∈ (fresh config).outbounds history →
      made.asked? = some (address, request) →
      request.isValid = true ∧ ((Wire.encode request).length ≤ Frame.limit →
        Server.received (Wire.encode request) = .ok request)) ∧
    ∀ ahead stream, (∀ events ∈ ahead, ∀ event ∈ events, event.Admitted) →
      ∃ more, (∀ event ∈ history ++ more, event.Admitted) ∧
        (Server.serve Shared.handle ⟨m, ahead⟩ stream).state.machine =
          (fresh config).run (history ++ more) := by
  intro m
  have kept : Kept m := run_preserves_kept (kept_fresh config) admitted
  refine ⟨kept.formed, ?_, ?_, ?_, ?_⟩
  · intro adhoc entry path found
    exact (kept.formed.registry.adhoc adhoc entry found).located adhoc path
  · intro call adhoc failed
    exact absurd (kept.directed call _ failed) (by simp [Outcome.undirected])
  · intro call made address request sent asked
    have valid := sent_isValid config admitted sent asked
    exact ⟨valid, Server.received_encode valid⟩
  · intro ahead stream still
    have initial : Shared.Led m ⟨m, ahead⟩ := ⟨⟨[], by simp, rfl⟩, still⟩
    obtain ⟨more, later, reached⟩ :=
      (Server.serve_preserves Shared.handle_preserves_led initial stream).reached
    refine ⟨more, ?_, reached.trans (run_append _ history more).symm⟩
    intro event member
    exact (List.mem_append.mp member).elim (admitted event) (later event)

/-- A storage that names no controller: the host of its node is looked up, and what is then asked of
the controller there passes the checks of its gate. -/
theorem controller_of_named_node_is_asked :
    let context : AdhocContext := ⟨"", "", .separateNew, .readWrite, 60, false⟩
    let resources : AdhocResources := ⟨[⟨"n01", .regular⟩]⟩
    let plan : DeploymentPlan := ⟨⟨1⟩, .gekkofs, context, resources, none⟩
    let history : List Event :=
      [.call (.request (.registerAdhocStorage "burst" .gekkofs context resources)),
        .call (.request (.deployAdhocStorage ⟨1⟩)), .answer 1 (.ok "n01:52001")]
    let m := (fresh .standard).run history
    let stream := Frame.stream [Wire.encode Request.ping, []]
    m.service.WellFormed ∧
    (fresh .standard).outbounds history =
      [(1, .resolve "n01" 52001), (1, .deploy "n01:52001" plan)] ∧
    Server.received (Wire.encode plan.deployRequest) = .ok plan.deployRequest ∧
    ∃ more, (∀ event ∈ history ++ more, event.Admitted) ∧
      (Server.serve Shared.handle ⟨m, []⟩ stream).state.machine =
        (fresh .standard).run (history ++ more) := by
  intro context resources plan history m stream
  have admitted : ∀ event ∈ history, event.Admitted := by
    simp only [history, List.forall_mem_cons]
    exact ⟨rfl, rfl, trivial, by simp⟩
  obtain ⟨formed, -, -, sent, served⟩ := kept_and_sent_is_wellFormed .standard history admitted
  have outbounds : (fresh .standard).outbounds history =
      [(1, .resolve "n01" 52001), (1, .deploy "n01:52001" plan)] := rfl
  refine ⟨formed, outbounds, ?_, served [] _ (by simp)⟩
  exact (sent 1 (.deploy "n01:52001" plan) "n01:52001" plan.deployRequest
    (by rw [outbounds]; simp) rfl).2 (by decide)

end Machine

end StorageBroker
