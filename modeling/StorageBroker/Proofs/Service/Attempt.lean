import StorageBroker.Proofs.Registry.Deployed
import StorageBroker.Proofs.Service.InFlight
import StorageBroker.Proofs.Service.Outbound
import StorageBroker.Proofs.Service.Wait
import StorageBroker.Proofs.Service.WorkEnd

/-! # The attempt of a teardown

A teardown calls a controller, after it has asked for its address if need be, and ends as these
collaborators react. It is the same for a client and for a shutdown: they differ in what they do
next. `Leads` says of a stretch of a call where it goes and whom it calls, and stretches can be put
together. -/

set_option autoImplicit false

namespace StorageBroker

/-! ## How collaborators react -/

/-- What a collaborator does when it is called. -/
inductive Reaction
  | answers (text : String)
  | fails (e : NetError)
  | silent

namespace Reaction

/-- The event that a call is run on by: the answer, or the end of its time. -/
def event (call : Nat) : Reaction → Event
  | .answers text => .answer call (.ok text)
  | .fails e => .answer call (.error e)
  | .silent => .expire call

/-- The signal that the event sends. -/
def signal : Reaction → Signal
  | .answers text => .answered (.ok text)
  | .fails e => .answered (.error e)
  | .silent => .expired

/-- What the call has from the collaborator in the end. -/
def result (late : ServiceError) : Reaction → Except ServiceError String
  | .answers text => .ok text
  | .fails e => .error (.net e)
  | .silent => .error late

def isAnswer : Reaction → Bool
  | .answers _ => true
  | .fails _ | .silent => false

theorem sends {m : Machine} {call : Nat} {wait : Waiting} (reaction : Reaction)
    (waits : m.waiting.get? call = some wait) (untimed : wait.transfer? = none) :
    m.Sends call (reaction.event call) reaction.signal := by
  cases reaction with
  | answers text => exact .answer _
  | fails e => exact .answer _
  | silent =>
      refine .expire ?_
      rw [Machine.wakeStatus?_of_waiting waits, untimed, Option.bind_none]

end Reaction

/-- How the collaborators of one teardown react: the resolver, if it is asked for the address of a
node, and the controller, if it is reached. -/
structure Conduct where
  resolver : Reaction
  controller : Reaction

namespace Conduct

/-- The events that a teardown is brought to its end by. -/
def events (conduct : Conduct) (call : Nat) (plan : DeploymentPlan) : List Event :=
  match plan.location with
  | .address _ => [conduct.controller.event call]
  | .host _ =>
    conduct.resolver.event call ::
      if conduct.resolver.isAnswer then [conduct.controller.event call] else []
  | .nowhere => []

/-- The collaborators that a teardown calls. -/
def calls (conduct : Conduct) (port : UInt16) (plan : DeploymentPlan) : List Outbound :=
  match plan.location with
  | .address address => [.terminate address plan]
  | .host hostname =>
    .resolve hostname port ::
      match conduct.resolver with
      | .answers address => [.terminate address plan]
      | .fails _ | .silent => []
  | .nowhere => []

def result (conduct : Conduct) (afterMs : Nat) (plan : DeploymentPlan) : Except ServiceError Unit :=
  let late : ServiceError := .timeout (.teardown plan.id) afterMs
  match plan.location with
  | .address _ => (conduct.controller.result late).map fun _ => ()
  | .host _ => do
    let _ ← conduct.resolver.result late
    (conduct.controller.result late).map fun _ => ()
  | .nowhere => .error (.noController plan.id)

/-- Whether a teardown succeeds: whoever it calls answers, and there is a controller to call. -/
def succeeds (conduct : Conduct) (plan : DeploymentPlan) : Bool :=
  match plan.location with
  | .address _ => conduct.controller.isAnswer
  | .host _ => conduct.resolver.isAnswer && conduct.controller.isAnswer
  | .nowhere => false

end Conduct

/-! ## The course of a call -/

namespace Machine

theorem settle_settle (m : Machine) (call : Nat) (wait : Waiting) (s : Service)
    (r : CallState × Service) : (m.settle call (.waiting wait, s)).settle call r =
      m.settle call r := by
  obtain ⟨state, s'⟩ := r
  cases state with
  | finished outcome => simp only [settle, Table.erase_insert]
  | waiting later => simp only [settle, Table.insert_insert]

/-- The collaborator that a call turns to where it has got to. -/
def turnsTo (r : CallState × Service) : List Outbound :=
  (r.1.wait?.bind (Waiting.outbound? r.2.config.controllerPort)).toList

theorem outbound?_of_settle {m m' : Machine} {event : Event} {call : Nat}
    {r : CallState × Service} (about : m.target event = call)
    (goes : m.step event = m'.settle call r)
    (moves : ∀ wait, m.waiting.get? call = some wait → r.1.wait? ≠ some wait) :
    (m.outbound? event).toList = (turnsTo r).map (call, ·) := by
  subst about
  have after : (m.step event).waiting.get? (m.target event) = r.1.wait? := by
    rw [goes, settle_waiting, if_pos rfl]
  have config : (m.step event).service.config = r.2.config := by rw [goes, settle_service]
  simp only [outbound?, after, config, turnsTo]
  cases came : r.1.wait? with
  | none => simp
  | some wait =>
      have new : some wait ≠ m.waiting.get? (m.target event) := by
        intro before
        exact moves wait before.symm came
      rw [if_neg new]
      simp only [Option.bind_some]
      cases Waiting.outbound? r.2.config.controllerPort wait <;> rfl

/-- Events lead a call from one point to another, on whatever machine, and these are the
collaborators that it turns to on the way. The collaborator of a point itself is turned to when the
call gets there. -/
structure Leads (call : Nat) (r : CallState × Service) (events : List Event)
    (made : List Outbound) (r' : CallState × Service) : Prop where
  run : ∀ m : Machine, (m.settle call r).run events = m.settle call r'
  calls : ∀ m : Machine, (turnsTo r).map (call, ·) ++ (m.settle call r).outbounds events =
    (made ++ turnsTo r').map (call, ·)

namespace Leads

variable {call : Nat} {r r' r'' : CallState × Service} {first last : List Event}
  {made more : List Outbound}

theorem refl (call : Nat) (r : CallState × Service) : Leads call r [] [] r where
  run _ := rfl
  calls _ := List.append_nil _

theorem trans (before : Leads call r first made r') (after : Leads call r' last more r'') :
    Leads call r (first ++ last) (made ++ more) r'' where
  run m := by rw [run_append, before.run, after.run]
  calls m := by
    rw [outbounds_append, ← List.append_assoc, before.calls, List.map_append, List.append_assoc,
      before.run, after.calls, ← List.map_append, List.append_assoc]

/-- A collaborator that is waited for runs the call on by what it does. -/
theorem of_resume {s : Service} {wait : Waiting} {reaction : Reaction}
    (untimed : wait.transfer? = none) (went : s.resume wait reaction.signal = some r')
    (moves : r'.1.wait? ≠ some wait) :
    Leads call (.waiting wait, s) [reaction.event call] (turnsTo (.waiting wait, s)) r' := by
  have waits : ∀ m : Machine,
      (m.settle call (.waiting wait, s)).waiting.get? call = some wait := by
    intro m
    rw [settle_waiting, if_pos rfl]
    rfl
  have goes : ∀ m : Machine, (m.settle call (.waiting wait, s)).step (reaction.event call) =
      m.settle call r' := by
    intro m
    have runs : (m.settle call (.waiting wait, s)).service.resume wait reaction.signal =
        some r' := by rwa [settle_service]
    rw [step_of_sends (reaction.sends (waits m) untimed), signal_of_waits (waits m) runs,
      settle_settle]
  refine ⟨goes, fun m => ?_⟩
  have about : (m.settle call (.waiting wait, s)).target (reaction.event call) = call := by
    cases reaction <;> rfl
  have turned := outbound?_of_settle about (goes m) (by
    intro other before
    rw [waits m] at before
    rwa [← Option.some.inj before])
  rw [outbounds, turned, List.map_append]
  exact congrArg _ (List.append_nil _)

end Leads

end Machine

/-! ## One attempt -/

namespace Waiting.Awaits

/-- Who has asked for a teardown can be told from the wait. -/
theorem origin_eq {origin other : TeardownOrigin} {plan plan' : DeploymentPlan} {wait : Waiting}
    (awaits : wait.Awaits origin (.teardown plan)) (again : wait.Awaits other (.teardown plan')) :
    origin = other := by
  cases awaits <;> cases again <;> rfl

end Waiting.Awaits

namespace Service

def undeploy (s : Service) (ids : List AdhocId) : Service :=
  { s with registry := s.registry.undeploy ids }

theorem undeploy_nil (s : Service) : s.undeploy [] = s := by
  rw [undeploy, Registry.undeploy_nil]

theorem undeploy_undeploy (s : Service) (ids more : List AdhocId) :
    (s.undeploy ids).undeploy more = s.undeploy (ids ++ more) := by
  simp only [undeploy, Registry.undeploy_undeploy]

/-- Attempts the teardown of a storage for whoever asks for it. -/
def attempt (s : Service) (adhoc : AdhocId) (origin : TeardownOrigin) : CallState × Service :=
  match s.startTeardown adhoc origin with
  | (.ok wait, s) => (.waiting wait, s)
  | (.error e, s) => s.endTeardown origin (.error e)

theorem sweep_cons (s : Service) (adhoc : AdhocId) (rest : List AdhocId) (tornDown : Nat) :
    s.sweep (adhoc :: rest) tornDown = s.attempt adhoc (.shutdown rest tornDown) := rfl

theorem startRequest_terminate (s : Service) (adhoc : AdhocId) :
    s.startRequest (.terminateAdhocStorage adhoc) = s.attempt adhoc .client := rfl

theorem startTeardown_awaits {s s' : Service} {adhoc : AdhocId} {origin : TeardownOrigin}
    {wait : Waiting} (started : s.startTeardown adhoc origin = (.ok wait, s')) :
    ∃ plan, wait.Awaits origin (.teardown plan) := by
  cases begun : s.registry.beginTeardown adhoc with
  | mk answer r =>
      cases answer with
      | error e => simp [startTeardown, begun] at started
      | ok plan =>
          obtain ⟨rfl, begins⟩ := Registry.begins_of_beginTeardown (congrArg Prod.fst begun)
          rcases startTeardown_of_begins begins origin with refused | ⟨other, t, went, awaits, -⟩
          · exact absurd (started.symm.trans refused) (by simp)
          · obtain ⟨same, -⟩ := Prod.mk.inj (started.symm.trans went)
            exact ⟨plan, Except.ok.inj same ▸ awaits⟩

/-- A shutdown that goes on has fewer storages left. -/
theorem sweep_wait? {s : Service} {rest : List AdhocId} {tornDown : Nat} {wait : Waiting}
    (waits : (s.sweep rest tornDown).1.wait? = some wait) :
    ∃ later count plan, wait.Awaits (.shutdown later count) (.teardown plan) ∧
      later.length < rest.length := by
  induction rest generalizing s with
  | nil => exact absurd waits (by simp [sweep, CallState.wait?])
  | cons adhoc rest ih =>
      unfold sweep at waits
      cases result : s.startTeardown adhoc (.shutdown rest tornDown) with
      | mk answer s' =>
          rw [result] at waits
          cases answer with
          | ok other =>
              obtain rfl := Option.some.inj waits
              obtain ⟨plan, awaits⟩ := startTeardown_awaits result
              exact ⟨rest, tornDown, plan, awaits, Nat.lt_succ_self _⟩
          | error e =>
              obtain ⟨later, count, plan, awaits, fewer⟩ := ih waits
              exact ⟨later, count, plan, awaits, Nat.lt_succ_of_lt fewer⟩

/-- When a teardown has ended, its call does not wait for it any more. -/
theorem endTeardown_moves_on {s : Service} {origin : TeardownOrigin} {plan : DeploymentPlan}
    {wait : Waiting} (awaits : wait.Awaits origin (.teardown plan))
    (result : Except ServiceError Unit) : (s.endTeardown origin result).1.wait? ≠ some wait := by
  intro waits
  cases origin with
  | client => cases result <;> exact absurd waits (by simp [endTeardown, CallState.replied,
      CallState.failed, CallState.ofResult, CallState.wait?])
  | shutdown rest tornDown =>
      have still : ∃ count, (s.sweep rest count).1.wait? = some wait := by
        cases result <;> exact ⟨_, waits⟩
      obtain ⟨count, still⟩ := still
      obtain ⟨later, left, other, again, fewer⟩ := sweep_wait? still
      obtain ⟨rfl, -⟩ := TeardownOrigin.shutdown.inj (awaits.origin_eq again)
      exact absurd fewer (Nat.lt_irrefl _)

/-- Where a call goes on from when its teardown has ended like this. -/
def afterAttempt (s : Service) (plan : DeploymentPlan) (origin : TeardownOrigin)
    (result : Except ServiceError Unit) : CallState × Service :=
  (s.undeploy (if result.isOk then [plan.id] else [])).endTeardown origin result

theorem afterAttempt_error (s : Service) (plan : DeploymentPlan) (origin : TeardownOrigin)
    (e : ServiceError) : s.afterAttempt plan origin (.error e) = s.endTeardown origin (.error e) :=
  congrArg (endTeardown · origin _) s.undeploy_nil

section

variable {s : Service} {plan : DeploymentPlan} {entry : AdhocEntry} {path : String}
  (found : s.registry.adhoc.get? plan.id = some entry)
include found

theorem completeTeardown_tearingDown (origin : TeardownOrigin) :
    (s.tearingDown plan.id entry path).completeTeardown plan origin =
      s.afterAttempt plan origin (.ok ()) := by
  have marked : (s.registry.setDeployment plan.id entry (.tearingDown path)).adhoc.get? plan.id =
      some { entry with deployment := .tearingDown path } := by simp [Registry.setDeployment]
  have down : (s.registry.setDeployment plan.id entry (.tearingDown path)).setDeployment plan.id
      { entry with deployment := .tearingDown path } .undeployed =
        s.registry.undeploy [plan.id] := by
    rw [← Registry.setDeployment_undeployed found]
    simp only [Registry.setDeployment, Table.insert_insert]
  simp only [completeTeardown, tearingDown, Registry.completeTeardown, marked, down]
  rfl

variable (state : entry.deployment = .deployed path)
include state

theorem failTeardown_tearingDown (origin : TeardownOrigin) (e : ServiceError) :
    (s.tearingDown plan.id entry path).failTeardown plan origin e =
      s.afterAttempt plan origin (.error e) := by
  rw [failTeardown, undoTeardown_tearingDown found state e, afterAttempt_error]

/-- A controller that is waited for brings the teardown to its end. -/
theorem tearingDown_leads (origin : TeardownOrigin) (address : String) (controller : Reaction)
    (call : Nat) : Machine.Leads call
      (.waiting (.tearingDown plan address origin), s.tearingDown plan.id entry path)
      [controller.event call] [.terminate address plan]
      (s.afterAttempt plan origin ((controller.result
        (.timeout (.teardown plan.id) s.config.controllerMs)).map fun _ => ())) := by
  refine .of_resume rfl ?_ (endTeardown_moves_on (.tearingDown plan address) _)
  cases controller with
  | answers text => exact congrArg some (completeTeardown_tearingDown found origin)
  | fails e | silent => exact congrArg some (failTeardown_tearingDown found state origin _)

/-- A resolver that is waited for leads to the controller, or the teardown has failed. -/
theorem locating_leads (origin : TeardownOrigin) (hostname : String) (conduct : Conduct)
    (call : Nat) (located : plan.location = .host hostname) : Machine.Leads call
      (.waiting (.locatingForTeardown plan hostname origin), s.tearingDown plan.id entry path)
      (conduct.events call plan) (conduct.calls s.config.controllerPort plan)
      (s.afterAttempt plan origin (conduct.result s.config.controllerMs plan)) := by
  obtain ⟨resolver, controller⟩ := conduct
  simp only [Conduct.events, Conduct.calls, Conduct.result, located]
  cases resolver with
  | answers address =>
      have asks : Machine.Leads call
          (.waiting (.locatingForTeardown plan hostname origin), s.tearingDown plan.id entry path)
          [(Reaction.answers address).event call] [.resolve hostname s.config.controllerPort]
          (.waiting (.tearingDown plan address origin), s.tearingDown plan.id entry path) :=
        .of_resume rfl rfl (by simp [CallState.wait?])
      exact asks.trans (tearingDown_leads found state origin address controller call)
  | fails e | silent =>
      exact .of_resume rfl (congrArg some (failTeardown_tearingDown found state origin _))
        (endTeardown_moves_on (.locatingForTeardown plan hostname) _)

end

/-- The teardown of a deployed storage ends as its collaborators let it. It leaves the storage
undeployed if it succeeds, and everything as it was if it fails. -/
theorem attempt_leads {s : Service} {plan : DeploymentPlan}
    (begins : s.registry.Begins (.teardown plan)) (origin : TeardownOrigin) (conduct : Conduct)
    (call : Nat) : Machine.Leads call (s.attempt plan.id origin) (conduct.events call plan)
      (conduct.calls s.config.controllerPort plan)
      (s.afterAttempt plan origin (conduct.result s.config.controllerMs plan)) := by
  obtain ⟨entry, path, found, state, same⟩ := Registry.begins_teardown.mp begins
  unfold attempt startTeardown
  rw [beginTeardown_tearingDown found state same]
  simp only
  cases located : plan.location with
  | address address =>
      simp only [Conduct.events, Conduct.calls, Conduct.result, located]
      exact tearingDown_leads found state origin address conduct.controller call
  | host hostname => exact locating_leads found state origin hostname conduct call located
  | nowhere =>
      have undone := undoTeardown_tearingDown found state (.noController plan.id)
      rw [tearingDown] at undone
      simp only [Conduct.events, Conduct.calls, Conduct.result, located, tearingDown, undone,
        afterAttempt_error]
      exact .refl call _

end Service

end StorageBroker
