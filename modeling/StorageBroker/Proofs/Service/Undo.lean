import Mathlib.Data.List.Induction
import StorageBroker.Proofs.Service.InFlight
import StorageBroker.Proofs.Service.Wait
import StorageBroker.Proofs.Service.WorkEnd

/-! # A failed deployment change is undone

A client that asks for a deployment or a teardown waits for a controller, whatever the other calls
do, until its work ends. So the state in which its call returns is one of two: the storage is as it
was and the change can be asked for again, or the change is recorded as the controller has answered
it. -/

set_option autoImplicit false

namespace StorageBroker

namespace Machine

/-- A call returns with the last event of a history. -/
structure Returns (config : ServiceConfig) (history : List Event) (call : Nat)
    (outcome : Outcome) : Prop where
  waited : ((fresh config).run history.dropLast).outcome? call = none
  answered : ((fresh config).run history).outcome? call = some outcome

/-- A call that has ended has returned at one point of the history. -/
theorem exists_returns (config : ServiceConfig) (history : List Event) {call : Nat}
    {outcome : Outcome} (answered : ((fresh config).run history).outcome? call = some outcome) :
    ∃ early late, history = early ++ late ∧ Returns config early call outcome := by
  induction history using List.reverseRecOn with
  | nil => exact absurd answered (by simp [run, fresh, outcome?])
  | append_singleton history event ih =>
      cases before : ((fresh config).run history).outcome? call with
      | none => exact ⟨_, [], (List.append_nil _).symm, by rwa [List.dropLast_concat], answered⟩
      | some earlier =>
          have kept := run_keeps_outcome (run_tidy config history) [event] before
          rw [← run_append, answered] at kept
          obtain rfl := Option.some.inj kept
          obtain ⟨early, late, rfl, returns⟩ := ih before
          exact ⟨early, late ++ [event], List.append_assoc _ _ _, returns⟩

/-- An error of whom a call waits for, and the end of its time, end the call with that failure. -/
structure EndsOnFailure (m : Machine) (call : Nat) (overdue : ServiceError) : Prop where
  refused : ∀ e,
    (m.step (.answer call (.error e))).outcome? call = some (.reply (.error (.net e)))
  expired : (m.step (.expire call)).outcome? call = some (.reply (.error overdue))

section

variable {m : Machine} {call : Nat} {work : Work} {wait : Waiting}

theorem held_of_awaits (inHand : InHand m) {origin : TeardownOrigin}
    (waits : m.waiting.get? call = some wait) (awaits : wait.Awaits origin work) :
    m.service.registry.inFlight? work.storage = some work :=
  inHand.held call work (by rw [work?, waits, Option.bind_some, awaits.work?_eq])

/-- A client that waits for a controller waits on for the same work, or is told how it has ended. -/
theorem Step.of_awaits {m' : Machine} {event : Event} (step : Step m event m') (tidy : Tidy m)
    (inHand : InHand m) (waits : m.waiting.get? call = some wait)
    (awaits : wait.Awaits .client work) :
    (∃ later, m'.waiting.get? call = some later ∧ later.Awaits .client work) ∨
    ∃ result, m'.outcome? call = some (.reply (result.map fun text => work.reply text)) ∧
      m.service.Ends work result m'.service ∧
      ∀ text, result = .ok text → event = .answer call (.ok text) ∧ wait.isLocating = false := by
  have held := held_of_awaits inHand waits awaits
  rcases step.keeps_wait tidy waits with still | ⟨signal, r, sent, went, rfl⟩
  · exact .inl ⟨wait, still, awaits⟩
  · rcases Service.resume_of_awaits awaits held went with
      ⟨later, rfl, onward⟩ | ⟨result, s', rfl, ends, only⟩
    · exact .inl ⟨later, by rw [settle_waiting, if_pos rfl]; rfl, onward⟩
    · right
      rw [Service.conclude_client]
      refine ⟨result, by rw [settle_outcome?, if_pos rfl]; rfl, by rwa [settle_service], ?_⟩
      intro text same
      obtain ⟨rfl, asking⟩ := only text same
      cases sent
      exact ⟨rfl, asking⟩

theorem endsOnFailure_of_awaits (inHand : InHand m) (waits : m.waiting.get? call = some wait)
    (awaits : wait.Awaits .client work) :
    m.EndsOnFailure call (work.overdue m.service.config.controllerMs) := by
  have held := held_of_awaits inHand waits awaits
  have asleep : m.wakeStatus? call = none := by
    rw [wakeStatus?_of_waiting waits, awaits.transfer?_eq, Option.bind_none]
  have ends : ∀ {event signal e}, m.Sends call event signal →
      (∃ s' : Service, m.service.resume wait signal =
        some (s'.conclude .client work (.error e))) →
      (m.step event).outcome? call = some (.reply (.error e)) := by
    rintro event signal e sent ⟨s', went⟩
    rw [step_of_sends sent, signal_of_waits waits went, settle_outcome?, if_pos rfl,
      Service.conclude_client]
    rfl
  obtain ⟨refused, overdue⟩ := Service.resume_fails_of_awaits awaits held
  exact ⟨fun e => ends (.answer _) (refused e), ends (.expire asleep) overdue⟩

end

/-- A client whose work can be begun waits for a controller, or is told that there is none, and
nothing has happened. -/
theorem step_of_begins (m : Machine) {work : Work} (begins : m.service.registry.Begins work) :
    let asked := m.step (.call (.request work.request))
    (asked.outcome? m.started = some (.reply (.error (.noController work.storage))) ∧
      asked.service = m.service) ∨
    ∃ wait, asked.waiting.get? m.started = some wait ∧ wait.Awaits .client work := by
  intro asked
  have begun : asked = { m with started := m.started + 1 }.settle m.started
      (m.service.startRequest work.request) := rfl
  rw [begun, settle_outcome?, if_pos rfl, settle_service, settle_waiting, if_pos rfl]
  rcases Service.startRequest_of_begins begins with nowhere | ⟨wait, s', went, awaits, -⟩
  · rw [nowhere]
    exact .inl ⟨rfl, rfl⟩
  · rw [went]
    exact .inr ⟨wait, rfl, awaits⟩

/-! ## A whole call -/

/-- A client that waits for a controller, and has not been told yet how its work has ended, waits
for the same work later. -/
theorem run_awaits (config : ServiceConfig) (early : List Event) {call : Nat} {work : Work}
    {wait : Waiting} (waits : ((fresh config).run early).waiting.get? call = some wait)
    (awaits : wait.Awaits .client work) (late : List Event)
    (unanswered : ((fresh config).run (early ++ late)).outcome? call = none) :
    ∃ later, ((fresh config).run (early ++ late)).waiting.get? call = some later ∧
      later.Awaits .client work := by
  -- by the last event: what comes before it is a history, so that its calls have their work in hand
  induction late using List.reverseRecOn with
  | nil => exact ⟨wait, by rwa [List.append_nil], awaits⟩
  | append_singleton late event ih =>
      have last : (fresh config).run (early ++ (late ++ [event])) =
          ((fresh config).run (early ++ late)).step event := by
        rw [← List.append_assoc]
        exact run_append_cons _ _ _ _
      have tidy := run_tidy config (early ++ late)
      have step := ((fresh config).run (early ++ late)).step_step event
      rw [last] at unanswered ⊢
      have earlier : ((fresh config).run (early ++ late)).outcome? call = none := by
        rw [Option.eq_none_iff_forall_ne_some]
        intro outcome answered
        exact absurd (unanswered.symm.trans (step.keeps_outcome tidy answered)) (by simp)
      obtain ⟨later, waits, awaits⟩ := ih earlier
      rcases step.of_awaits tidy (run_inHand config _) waits awaits with onward | ⟨result, told, -⟩
      · exact onward
      · exact absurd (told.symm.trans unanswered) (by simp)

section

variable {config : ServiceConfig} {before : List Event} {work : Work}
  (begins : ((fresh config).run before).service.registry.Begins work)
include begins

/-- A client whose work could be begun, and which has not been told yet how it has ended, waits for
a controller to do that work. -/
theorem awaits_of_unanswered (during : List Event) (unanswered : ((fresh config).run
      (before ++ .call (.request work.request) :: during)).outcome?
        ((fresh config).run before).started = none) :
    ∃ wait, ((fresh config).run (before ++ .call (.request work.request) :: during)).waiting.get?
      ((fresh config).run before).started = some wait ∧ wait.Awaits .client work := by
  rw [List.append_cons] at unanswered ⊢
  have first : (fresh config).run (before ++ [.call (.request work.request)]) =
      ((fresh config).run before).step (.call (.request work.request)) := run_append_cons _ _ _ _
  rcases step_of_begins _ begins with ⟨told, -⟩ | ⟨wait, waits, awaits⟩
  · rw [← first] at told
    have kept := run_keeps_outcome (run_tidy config _) during told
    rw [← run_append, unanswered] at kept
    exact absurd kept (by simp)
  · rw [← first] at waits
    exact run_awaits config _ waits awaits during unanswered

theorem endsOnFailure_of_unanswered (during : List Event) (unanswered : ((fresh config).run
      (before ++ .call (.request work.request) :: during)).outcome?
        ((fresh config).run before).started = none) :
    ((fresh config).run (before ++ .call (.request work.request) :: during)).EndsOnFailure
      ((fresh config).run before).started (work.overdue config.controllerMs) := by
  obtain ⟨wait, waits, awaits⟩ := awaits_of_unanswered begins during unanswered
  have ends := endsOnFailure_of_awaits (run_inHand config _) waits awaits
  rwa [(run_changes (fresh config) _).config_eq] at ends

/-- When a client whose work could be begun returns, the work has been undone and can be begun
again, or a controller has just done it. -/
theorem ends_of_returns {during : List Event} {outcome : Outcome}
    (returns : Returns config (before ++ .call (.request work.request) :: during)
      ((fresh config).run before).started outcome) :
    let history := before ++ .call (.request work.request) :: during
    let call := ((fresh config).run before).started
    let r := ((fresh config).run history).service.registry
    (∃ e, outcome = .reply (.error e) ∧ r.Begins work) ∨
    ∃ text early wait, outcome = .reply (.ok (work.reply text)) ∧
      history = early ++ [.answer call (.ok text)] ∧
      ((fresh config).run early).waiting.get? call = some wait ∧ wait.Awaits .client work ∧
      wait.isLocating = false ∧
      r.deployment? work.storage = some (work.result text) := by
  intro history call r
  have answered := returns.answered
  rcases List.eq_nil_or_concat during with rfl | ⟨during, event, rfl⟩
  · -- the call returns at once
    have first : (fresh config).run history =
        ((fresh config).run before).step (.call (.request work.request)) := run_append_cons _ _ _ _
    rcases step_of_begins _ begins with ⟨told, same⟩ | ⟨wait, waits, -⟩
    · rw [← first] at told same
      exact .inl ⟨_, Option.some.inj (answered.symm.trans told), by rwa [← same] at begins⟩
    · rw [← first] at waits
      exact absurd (answered.symm.trans (outcome?_of_waiting (run_tidy config _) waits)) (by simp)
  · let early := before ++ .call (.request work.request) :: during
    have split : history = early ++ [event] := by simp [history, early, List.concat_eq_append]
    have last : (fresh config).run history = ((fresh config).run early).step event := by
      rw [split]
      exact run_append_cons _ _ _ _
    have unanswered : ((fresh config).run early).outcome? call = none := by
      have waited := returns.waited
      rwa [show before ++ .call (.request work.request) :: during.concat event = early ++ [event]
        from split, List.dropLast_concat] at waited
    obtain ⟨wait, waits, awaits⟩ := awaits_of_unanswered begins during unanswered
    rcases (step_step _ event).of_awaits (run_tidy config early) (run_inHand config early) waits
      awaits with ⟨later, still, -⟩ | ⟨result, told, ends, only⟩
    · rw [← last] at still
      exact absurd (answered.symm.trans (outcome?_of_waiting (run_tidy config _) still)) (by simp)
    · rw [← last] at told ends
      obtain rfl := Option.some.inj (answered.symm.trans told)
      cases ends with
      | undone e _ again => exact .inl ⟨e, rfl, again⟩
      | done text _ recorded =>
          obtain ⟨rfl, asking⟩ := only text rfl
          exact .inr ⟨text, early, wait, rfl, split, waits, awaits, asking, recorded⟩

end

/-- A request for work on a storage writes nothing but the deployment of that storage, neither when
it starts nor by any signal that reaches it later. -/
theorem request_redeploys (config : ServiceConfig) (before during : List Event) {adhoc : AdhocId}
    {asked : Request}
    (moves : asked = .deployAdhocStorage adhoc ∨ asked = .terminateAdhocStorage adhoc) :
    let start := (fresh config).run before
    let m := (fresh config).run (before ++ .call (.request asked) :: during)
    start.service.Redeploys adhoc (start.step (.call (.request asked))).service ∧
    ∀ event signal, m.Sends start.started event signal →
      m.service.Redeploys adhoc (m.step event).service := by
  intro start m
  refine ⟨?_, ?_⟩
  · have begun : (start.step (.call (.request asked))).service =
        (start.service.startRequest asked).2 := settle_service _ _ _
    rw [begun]
    rcases moves with rfl | rfl
    · exact start.service.startDeploy_redeploys adhoc
    · have only := start.service.startTeardown_redeploys adhoc .client
      simp only [Service.startRequest]
      cases result : start.service.startTeardown adhoc .client with
      | mk answer s' =>
          rw [result] at only
          cases answer <;> exact only
  · intro event signal sent
    rw [step_of_sends sent, Machine.signal]
    cases resumed : (m.waiting.get? start.started).bind
        fun wait => m.service.resume wait signal with
    | none => exact .same
    | some r =>
        obtain ⟨wait, waits, went⟩ := Option.bind_eq_some_iff.mp resumed
        have traced := run_traced config (before ++ .call (.request asked) :: during)
        obtain ⟨call, known, of⟩ := traced.waits _ wait waits
        have same : call = .request asked := by
          rw [(run_traced config before).started] at known
          simpa [Event.calls, Event.call?, eq_comm] using known
        obtain ⟨work, rfl, awaits⟩ : ∃ work : Work, work.storage = adhoc ∧
            wait.Awaits .client work := by
          subst same
          rcases moves with rfl | rfl
          · exact Waiting.Awaits.of_asked (.inl of)
          · exact Waiting.Awaits.of_asked (.inr of)
        have held := held_of_awaits (run_inHand config _) waits awaits
        rw [settle_service]
        rcases Service.resume_of_awaits awaits held went with
          ⟨later, rfl, -⟩ | ⟨result, s', rfl, ends, -⟩
        · exact .same
        · rw [Service.conclude_client]
          exact ends.redeploys

/-- A deployment change that fails is undone exactly, and one that succeeds is recorded exactly, for
every storage, every history, and whatever else happens while the call waits.

* When a deployment that could be begun returns an error, the storage is undeployed, without a mount
  path, and can be deployed again at once, with the same plan. When it returns a mount path, that is
  the one with which the controller has just answered, and the one that is recorded.
* When a teardown that could be begun returns an error, the storage is deployed with the mount path
  that it had before, and can be torn down again, with the same plan. When it succeeds, no mount
  path is recorded.
* Until it returns, an error of whom it waits for ends such a call, and so does the end of its time.
  Once it has ended, it has returned at one point of the history.
* The call itself writes nothing but the deployment of its storage.
* The teardowns that a shutdown asks for are begun, undone and done in the same way, before the
  shutdown goes on.
* A controller answers with the mount path that it reports; any other response is an error. -/
theorem failed_change_is_undone (config : ServiceConfig) (before during : List Event)
    (adhoc : AdhocId) :
    let start := (fresh config).run before
    let call := start.started
    let history (asked : Request) : List Event := before ++ .call (.request asked) :: during
    let after (asked : Request) : Machine := (fresh config).run (history asked)
    (∀ plan, (start.service.registry.beginDeploy adhoc).1 = .ok plan →
      let asked : Request := .deployAdhocStorage adhoc
      let m := after asked
      let r := m.service.registry
      (∀ outcome, Returns config (history asked) call outcome →
        (∃ e, outcome = .reply (.error e) ∧ r.deployment? adhoc = some .undeployed ∧
          r.mount? adhoc = some none ∧ (r.beginDeploy adhoc).1 = .ok plan) ∨
        ∃ path early address, outcome = .reply (.ok (.mountPath path)) ∧
          history asked = early ++ [.answer call (.ok path)] ∧
          ((fresh config).run early).waiting.get? call = some (.deploying plan address) ∧
          r.deployment? adhoc = some (.deployed path) ∧ r.mount? adhoc = some (some path)) ∧
      (m.outcome? call = none →
        m.EndsOnFailure call (.timeout (.deployment adhoc) config.controllerMs))) ∧
    (∀ plan, (start.service.registry.beginTeardown adhoc).1 = .ok plan →
      let asked : Request := .terminateAdhocStorage adhoc
      let m := after asked
      let r := m.service.registry
      ∃ path, start.service.registry.deployment? adhoc = some (.deployed path) ∧
      (∀ outcome, Returns config (history asked) call outcome →
        (∃ e, outcome = .reply (.error e) ∧ r.deployment? adhoc = some (.deployed path) ∧
          r.mount? adhoc = some (some path) ∧ (r.beginTeardown adhoc).1 = .ok plan) ∨
        (outcome = .reply (.ok .empty) ∧ r.deployment? adhoc = some .undeployed ∧
          r.mount? adhoc = some none)) ∧
      (m.outcome? call = none →
        m.EndsOnFailure call (.timeout (.teardown adhoc) config.controllerMs))) ∧
    (∀ asked, asked = .deployAdhocStorage adhoc ∨ asked = .terminateAdhocStorage adhoc →
      (∀ outcome, (after asked).outcome? call = some outcome → ∃ early late,
        history asked = early ++ late ∧ Returns config early call outcome) ∧
      start.service.Redeploys adhoc (start.step (.call (.request asked))).service ∧
      ∀ event signal, (after asked).Sends call event signal →
        (after asked).service.Redeploys adhoc ((after asked).step event).service) ∧
    (∀ plan origin,
      ((start.service.registry.beginTeardown adhoc).1 = .ok plan →
        start.service.startTeardown adhoc origin = (.error (.noController adhoc), start.service) ∨
        ∃ wait s', start.service.startTeardown adhoc origin = (.ok wait, s') ∧
          wait.Awaits origin (.teardown plan) ∧ start.service.Redeploys adhoc s') ∧
      ∀ other wait signal r, start.waiting.get? other = some wait →
        wait.Awaits origin (.teardown plan) → start.service.resume wait signal = some r →
        (∃ later : Waiting, r = (.waiting later, start.service) ∧
          later.Awaits origin (.teardown plan)) ∨
        ∃ result s', r = Service.endTeardown s' origin (result.map fun _ => ()) ∧
          start.service.Ends (.teardown plan) result s') ∧
    ∀ (plan : DeploymentPlan) (response : Response),
      (∀ path, plan.deployRequest.told (.ok response) = .ok path ↔
        response.code = .success ∧ response.reply = .mountPath path) ∧
      ((∃ text, plan.terminateRequest.told (.ok response) = .ok text) ↔
        response.code = .success ∧ response.reply = .empty) := by
  intro start call history after
  refine ⟨?_, ?_, ?_, ?_, fun plan response => ⟨fun path => DeploymentPlan.told_deployRequest,
    DeploymentPlan.told_terminateRequest⟩⟩
  · intro plan granted asked m r
    obtain ⟨rfl, begins⟩ := Registry.begins_of_beginDeploy granted
    refine ⟨?_, endsOnFailure_of_unanswered begins during⟩
    intro outcome returns
    rcases ends_of_returns begins returns with
      ⟨e, told, again⟩ | ⟨path, early, wait, told, split, waits, awaits, asking, recorded⟩
    · have undeployed := Registry.deployment?_of_begins_deploy again
      exact .inl ⟨e, told, undeployed, Registry.mount?_of_deployment undeployed, again⟩
    · right
      cases awaits with
      | locatingForDeploy _ hostname => exact absurd asking (by simp [Waiting.isLocating])
      | deploying _ address =>
          exact ⟨path, early, address, told, split, waits, recorded,
            Registry.mount?_of_deployment recorded⟩
  · intro plan granted asked m r
    obtain ⟨rfl, begins⟩ := Registry.begins_of_beginTeardown granted
    obtain ⟨entry, path, -, -, same⟩ := Registry.begins_teardown.mp begins
    have mounted : plan.mountPath = some path := congrArg DeploymentPlan.mountPath same
    refine ⟨path, Registry.deployment?_of_begins_teardown begins mounted, ?_,
      endsOnFailure_of_unanswered begins during⟩
    intro outcome returns
    rcases ends_of_returns begins returns with
      ⟨e, told, again⟩ | ⟨text, early, wait, told, -, -, -, -, recorded⟩
    · have back := Registry.deployment?_of_begins_teardown again mounted
      exact .inl ⟨e, told, back, Registry.mount?_of_deployment back, again⟩
    · exact .inr ⟨told, recorded, Registry.mount?_of_deployment recorded⟩
  · intro asked moves
    exact ⟨fun outcome answered => exists_returns config _ answered,
      request_redeploys config before during moves⟩
  · intro plan origin
    refine ⟨?_, ?_⟩
    · intro granted
      obtain ⟨rfl, begins⟩ := Registry.begins_of_beginTeardown granted
      exact Service.startTeardown_of_begins begins origin
    · intro other wait signal r waits awaits went
      have held := held_of_awaits (run_inHand config before) waits awaits
      rcases Service.resume_of_awaits awaits held went with onward | ⟨result, s', went, ends, -⟩
      · exact .inl onward
      · exact .inr ⟨result, s', went, ends⟩

/-- The controller of a storage hangs. Once its time is up, the storage can be deployed again. -/
theorem hung_controller_wedges_nothing :
    let before : List Event := [
      .call (.request (.registerAdhocStorage "burst" .gekkofs
        ⟨"ctl:1", "", .separateNew, .readWrite, 60, false⟩ ⟨[⟨"n01", .regular⟩]⟩))]
    let r := ((fresh .standard).run (before ++
      .call (.request (.deployAdhocStorage ⟨1⟩)) :: [.expire 1])).service.registry
    r.deployment? ⟨1⟩ = some .undeployed ∧ ∃ plan, (r.beginDeploy ⟨1⟩).1 = .ok plan := by
  intro before r
  obtain ⟨plan, granted⟩ : ∃ plan,
      (((fresh .standard).run before).service.registry.beginDeploy ⟨1⟩).1 = .ok plan := ⟨_, rfl⟩
  have change := (failed_change_is_undone .standard before [.expire 1] ⟨1⟩).1 plan granted
  rcases change.1 (.reply (.error (.timeout (.deployment ⟨1⟩) 120000))) ⟨rfl, rfl⟩ with
    ⟨e, -, down, -, again⟩ | ⟨path, early, address, told, -⟩
  · exact ⟨down, plan, again⟩
  · exact absurd told (by simp)

end Machine

end StorageBroker
