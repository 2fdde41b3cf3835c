import StorageBroker.Proofs.Net.Failure
import StorageBroker.Proofs.Service.Ending
import StorageBroker.Proofs.Service.InFlight
import StorageBroker.Proofs.Wire.Message
import StorageBroker.Service.Collaborator

/-! # The failure of a collaborator reaches the client

A call that waits for a controller or a data mover fails when the collaborator does. The status code
that the client gets is the one that the collaborator has failed with: the code of its own response,
or the one that stands for what it has done instead of responding. -/

set_option autoImplicit false

namespace StorageBroker

structure Response.Reports (response : Response) (code : StatusCode) : Prop where
  kept : response.code = code
  failure : code ≠ .success
  empty : response.reply = .empty

/-- The signals by which a collaborator fails a call, each with its status code. -/
inductive Signal.Fails : Signal → StatusCode → Prop
  | answered (e : NetError) : Fails (.answered (.error e)) e.code
  | expired : Fails .expired .timeout

/-- The events by which a collaborator fails a call. -/
inductive Event.Fails (id : Nat) : Event → StatusCode → Prop
  | answered (e : NetError) : Fails id (.answer id (.error e)) e.code
  | expired : Fails id (.expire id) .timeout

namespace Service

/-- A request that waits for a collaborator fails with the code that the collaborator fails with. -/
theorem resume_fails {s : Service} {wait : Waiting} {request : Request} {port : UInt16}
    {made : Outbound} {goes : String × Request} {signal : Signal} {code : StatusCode}
    (asked : wait.Of (.request request)) (turns : wait.outbound? port = some made)
    (remote : made.asked? = some goes)
    (held : ∀ work, wait.work? = some work → s.registry.inFlight? work.storage = some work)
    (fails : signal.Fails code) :
    ∃ e s', s.resume wait signal = some (.failed e, s') ∧ e.code = code := by
  cases wait with
  | deploying plan address =>
      have taken : ∀ e, (s.failDeploy plan e).1 = .failed e :=
        fun e => (failDeploy_spec e (held _ rfl)).1
      cases fails with
      | answered e => exact ⟨.net e, _, congrArg some (Prod.ext (taken _) rfl), rfl⟩
      | expired => exact ⟨.timeout _ _, _, congrArg some (Prod.ext (taken _) rfl), rfl⟩
  | tearingDown plan address origin =>
      cases origin with
      | shutdown rest tornDown => exact absurd asked (by simp [Waiting.Of, TeardownOrigin.Of])
      | client =>
          have taken : ∀ e, (s.failTeardown plan .client e).1 = .failed e := by
            intro e
            have undone : (s.undoTeardown plan e).1 = e := (undoTeardown_spec e (held _ rfl)).1
            simp only [failTeardown, endTeardown, undone]
          cases fails with
          | answered e => exact ⟨.net e, _, congrArg some (Prod.ext (taken _) rfl), rfl⟩
          | expired => exact ⟨.timeout _ _, _, congrArg some (Prod.ext (taken _) rfl), rfl⟩
  | dispatching transfer address =>
      cases fails with
      | answered e => exact ⟨.net e, _, rfl, rfl⟩
      | expired => exact ⟨.timeout _ _, _, rfl, rfl⟩
  | locatingForDeploy plan hostname | locatingForTeardown plan hostname origin =>
      obtain rfl := Option.some.inj turns
      cases remote
  | awaiting transfer budgetMs | finalizing job operation transfer => cases turns

end Service

namespace Machine

/-- In every state, the event by which a collaborator fails a request ends it with that failure. -/
theorem step_fails {m : Machine} {calls : List Call} (traced : Traced calls m) (inHand : InHand m)
    {id : Nat} {request : Request} {wait : Waiting} {port : UInt16} {made : Outbound}
    {goes : String × Request} {event : Event} {code : StatusCode}
    (asked : calls[id]? = some (.request request)) (waits : m.waiting.get? id = some wait)
    (turns : wait.outbound? port = some made) (remote : made.asked? = some goes)
    (fails : event.Fails id code) :
    ∃ e, (m.step event).outcome? id = some (.reply (.error e)) ∧ e.code = code := by
  obtain ⟨call, known, mine⟩ := traced.waits id wait waits
  obtain rfl := Option.some.inj (known.symm.trans asked)
  have held : ∀ work, wait.work? = some work →
      m.service.registry.inFlight? work.storage = some work := by
    intro work works
    exact inHand.held id work (by rw [work?, waits, Option.bind_some, works])
  have resumes := fun signal => @Service.resume_fails m.service wait request port made goes signal
    code mine turns remote held
  have awake : m.wakeStatus? id = none := by
    rw [wakeStatus?_of_waiting waits]
    cases wait <;> first
      | rfl
      | cases turns
  obtain ⟨signal, sent, failed⟩ : ∃ signal, m.Sends id event signal ∧ signal.Fails code := by
    cases fails with
    | answered e => exact ⟨_, .answer _, .answered e⟩
    | expired => exact ⟨_, .expire awake, .expired⟩
  obtain ⟨e, s', went, same⟩ := resumes signal failed
  refine ⟨e, ?_, same⟩
  rw [step_of_sends sent, signal_of_waits waits went]
  exact outcome?_of_settled rfl

end Machine

namespace Shared

/-- What a request is answered with once a collaborator has failed its call. -/
theorem handle_fails (config : ServiceConfig) (before first later : List Event)
    (rest : List (List Event)) {request : Request} {wait : Waiting} {port : UInt16}
    {made : Outbound} {goes : String × Request} {event : Event} {code : StatusCode}
    (waits : ((Machine.fresh config).run (before ++ .call (.request request) :: first)).waiting.get?
      ((Machine.fresh config).run before).started = some wait)
    (turns : wait.outbound? port = some made) (remote : made.asked? = some goes)
    (fails : event.Fails ((Machine.fresh config).run before).started code)
    (failure : code ≠ .success) :
    (handle ⟨(Machine.fresh config).run before, (first ++ event :: later) :: rest⟩
      request).1.Reports code := by
  have traced := Machine.run_traced config (before ++ .call (.request request) :: first)
  have tidy := Machine.run_tidy config (before ++ .call (.request request) :: first)
  have asked : (Event.calls (before ++ .call (.request request) :: first))[
      ((Machine.fresh config).run before).started]? = some (.request request) := by
    rw [(Machine.run_traced config before).started]
    simp [Event.calls, Event.call?]
  obtain ⟨e, ended, same⟩ := Machine.step_fails traced (Machine.run_inHand config _) asked waits
    turns remote fails
  -- what the call has come to is not changed by any later event
  have kept := Machine.run_keeps_outcome ((Machine.step_step _ event).preserves_tidy tidy)
    (later ++ [.wake ((Machine.fresh config).run before).started,
      .expire ((Machine.fresh config).run before).started]) ended
  rw [← Machine.run_append_cons, List.append_assoc, Machine.run_append] at kept
  simp only [handle, List.headD_cons, List.append_assoc, List.cons_append] at kept ⊢
  simp only [kept]
  exact ⟨same, failure, rfl⟩

/-! ## Whatever the peer does -/

/-- A request that waits for a controller or a data mover, and whose collaborator call fails, is
answered with the code of that failure, never with that of a success, and with no reply. If nothing
cuts the call short, the code is that of what the peer has done: the code of its response if that is
not a success, and otherwise the one that stands for its fault. If the call does not end within the
budget, the code is that of a timeout. -/
theorem collaborator_failure_reaches_client (config : ServiceConfig)
    (before first later : List Event) (rest : List (List Event)) {request sent : Request}
    {wait : Waiting} {port : UInt16} {made : Outbound} {address : String}
    (waits : ((Machine.fresh config).run (before ++ .call (.request request) :: first)).waiting.get?
      ((Machine.fresh config).run before).started = some wait)
    (turns : wait.outbound? port = some made) (remote : made.asked? = some (address, sent)) :
    let id := ((Machine.fresh config).run before).started
    let response (event : Event) : Response :=
      (handle ⟨(Machine.fresh config).run before, (first ++ event :: later) :: rest⟩ request).1
    (∀ (s : Client.Dialogue) (next : Client.Attempt), s.client.address = address →
      next.request = sent →
      (∀ r e, (next.report s).result = some r → sent.told r = .error e →
        (response (.answer id (.error e))).Reports e.code) ∧
      ∀ channel accepted code, next.cut = none → s.Takes next channel accepted →
        (Wire.encode sent).length ≤ Frame.limit → next.Fault channel code →
        ∃ r e, (next.report s).result = some r ∧ sent.told r = .error e ∧
          (response (.answer id (.error e))).Reports code) ∧
    (response (.expire id)).Reports .timeout := by
  intro id response
  have reported := @handle_fails config before first later rest request wait port made
    (address, sent)
  refine ⟨?_, reported waits turns remote .expired (by decide)⟩
  rintro s next - rfl
  have answered : ∀ r e, (next.report s).result = some r → next.request.told r = .error e →
      (response (.answer id (.error e))).Reports e.code := by
    intro r e gave failed
    exact reported waits turns remote (.answered e) (Client.Attempt.failure_code gave failed)
  refine ⟨answered, ?_⟩
  intro channel accepted code uncut takes fits fault
  obtain ⟨r, e, gave, failed, rfl⟩ := Client.Attempt.report_of_fault uncut takes fits fault
  exact ⟨r, e, gave, failed, answered r e gave failed⟩

/-- A controller that has no nodes left refuses to deploy, and the client is told so. -/
theorem refused_deployment_is_reported :
    let context : AdhocContext := ⟨"ctl:1", "", .separateNew, .readWrite, 60, false⟩
    let resources : AdhocResources := ⟨[⟨"n01", .regular⟩]⟩
    let start := (Machine.fresh .standard).run
      [.call (.request (.registerAdhocStorage "burst" .gekkofs context resources))]
    let sent : Request := .adhocDeploy ⟨1⟩ .gekkofs context resources
    let refusal : Response := .error .resourceExhausted "no nodes left"
    let s : Client.Dialogue := ⟨⟨"ctl:1", some ⟨1, [], false⟩⟩, 1⟩
    let next : Client.Attempt :=
      ⟨⟨[], true, fun _ => []⟩, sent, ⟨Frame.frame (Wire.encode refusal), false⟩, none⟩
    ∃ r e, (next.report s).result = some r ∧ sent.told r = .error e ∧
      (handle ⟨start, [[.answer 1 (.error e)]]⟩ (.deployAdhocStorage ⟨1⟩)).1.Reports
        .resourceExhausted := by
  intro context resources start sent refusal s next
  have fits : (Wire.encode refusal).length ≤ Frame.limit := by decide
  have decoded : Wire.ofPayload? (Wire.encode refusal) = .ok refusal := by
    have read := Wire.ofPayload?_encode refusal [] (by decide)
    rwa [List.append_nil] at read
  have fault : next.Fault ⟨1, [], false⟩ .resourceExhausted :=
    .refused (List.append_nil _).symm fits decoded (by decide)
  let wait : Waiting := .deploying ⟨⟨1⟩, .gekkofs, context, resources, none⟩ "ctl:1"
  have waits : (start.step (.call (.request (.deployAdhocStorage ⟨1⟩)))).waiting.get? 1 =
      some wait := rfl
  have reaches := @collaborator_failure_reaches_client .standard
    [.call (.request (.registerAdhocStorage "burst" .gekkofs context resources))] [] [] []
    (.deployAdhocStorage ⟨1⟩) sent wait 0 _ "ctl:1" waits rfl rfl
  exact (reaches.1 s next rfl rfl).2 ⟨1, [], false⟩ 1 .resourceExhausted rfl (.kept rfl)
    (by decide) fault

end Shared

end StorageBroker
