import StorageBroker.Service.Machine

/-! # One event of a machine

An event starts a call, runs one waiting call on, or does nothing. `Step` says so once, and the
views of `settle` say what becomes of the call. A call waits or has ended, never both, and how it
ended never changes. -/

set_option autoImplicit false

namespace StorageBroker

def Event.call? : Event → Option Call
  | .call begun => some begun
  | .answer _ _ | .wake _ | .expire _ => none

/-- The calls of a history; each call is known by its place in this list. -/
def Event.calls (history : List Event) : List Call := history.filterMap Event.call?

namespace CallState

def wait? : CallState → Option Waiting
  | .waiting wait => some wait
  | .finished _ => none

def outcome? : CallState → Option Outcome
  | .waiting _ => none
  | .finished outcome => some outcome

end CallState

namespace Machine

/-! ## Where a call has got to -/

@[simp]
theorem settle_started (m : Machine) (id : Nat) (r : CallState × Service) :
    (m.settle id r).started = m.started := by
  unfold settle
  split <;> rfl

@[simp]
theorem settle_service (m : Machine) (id : Nat) (r : CallState × Service) :
    (m.settle id r).service = r.2 := by
  unfold settle
  split <;> rfl

theorem settle_waiting (m : Machine) (id x : Nat) (r : CallState × Service) :
    (m.settle id r).waiting.get? x = if x = id then r.1.wait? else m.waiting.get? x := by
  unfold settle
  cases r.1 with
  | waiting wait => exact Table.get?_insert _ _ _ _
  | finished outcome => exact Table.get?_erase _ _ _

theorem settle_finished (m : Machine) (id : Nat) (r : CallState × Service) :
    (m.settle id r).finished = (r.1.outcome?.map (id, ·)).toList ++ m.finished := by
  unfold settle
  cases r.1 <;> rfl

theorem settle_outcome? (m : Machine) (id x : Nat) (r : CallState × Service) :
    (m.settle id r).outcome? x =
      if x = id then r.1.outcome?.or (m.outcome? x) else m.outcome? x := by
  unfold outcome?
  rw [settle_finished]
  cases r.1.outcome? with
  | none => simp
  | some outcome =>
      by_cases same : x = id
      · simp [same]
      · simp [same, Ne.symm same]

/-- A call that is settled for the first time is answered with what it came to. -/
theorem finished_of_settle {m : Machine} {id : Nat} {r : CallState × Service} {outcome : Outcome}
    (unanswered : m.outcome? id = none) (answered : (m.settle id r).outcome? id = some outcome) :
    r.1 = .finished outcome := by
  rw [settle_outcome?, if_pos rfl, unanswered, Option.or_none] at answered
  cases state : r.1 with
  | waiting wait => simp [state, CallState.outcome?] at answered
  | finished ended =>
      rw [state] at answered
      rw [Option.some.inj answered]

/-! ## Events -/

inductive Sends (m : Machine) (id : Nat) : Event → Signal → Prop
  | answer (result : Except NetError String) : Sends m id (.answer id result) (.answered result)
  | wake {status : TransferStatus} (ended : m.wakeStatus? id = some status) :
      Sends m id (.wake id) (.ended status)
  | expire (going : m.wakeStatus? id = none) : Sends m id (.expire id) .expired

inductive Step (m : Machine) : Event → Machine → Prop
  | started (call : Call) : Step m (.call call)
      ({ m with started := m.started + 1 }.settle m.started (m.service.start call))
  | resumed {event : Event} {id : Nat} {wait : Waiting} {signal : Signal}
      {r : CallState × Service} (sent : m.Sends id event signal)
      (held : m.waiting.get? id = some wait) (went : m.service.resume wait signal = some r) :
      Step m event (m.settle id r)
  | idle {event : Event} (nothing : event.call? = none)
      (deaf : ∀ id signal wait, m.Sends id event signal → m.waiting.get? id = some wait →
        m.service.resume wait signal = none) : Step m event m

theorem signal_step (m : Machine) {id : Nat} {event : Event} {signal : Signal}
    (sent : m.Sends id event signal) : Step m event (m.signal id signal) := by
  have quiet : event.call? = none := by cases sent <;> rfl
  unfold Machine.signal
  cases resumed : (m.waiting.get? id).bind fun wait => m.service.resume wait signal with
  | none =>
      refine .idle quiet fun other repeated wait again held => ?_
      have same : other = id ∧ repeated = signal := by
        cases sent with
        | answer result => cases again; exact ⟨rfl, rfl⟩
        | wake ended =>
            cases again with
            | wake now => exact ⟨rfl, congrArg _ (Option.some.inj (now.symm.trans ended))⟩
        | expire going => cases again; exact ⟨rfl, rfl⟩
      rw [same.1] at held
      rw [held, Option.bind_some] at resumed
      exact same.2 ▸ resumed
  | some r =>
      obtain ⟨wait, held, went⟩ := Option.bind_eq_some_iff.mp resumed
      exact .resumed sent held went

theorem step_step (m : Machine) (event : Event) : Step m event (m.step event) := by
  cases event with
  | call call => exact .started call
  | answer id result => exact m.signal_step (.answer result)
  | wake id =>
      simp only [step]
      cases ended : m.wakeStatus? id with
      | none =>
          refine .idle rfl fun other signal wait sent held => ?_
          cases sent with
          | wake now => simp [ended] at now
      | some status => exact m.signal_step (.wake ended)
  | expire id =>
      simp only [step]
      cases going : m.wakeStatus? id with
      | some status =>
          refine .idle rfl fun other signal wait sent held => ?_
          cases sent with
          | expire now => simp [going] at now
      | none => exact m.signal_step (.expire going)

theorem run_append (m : Machine) (first last : List Event) :
    m.run (first ++ last) = (m.run first).run last :=
  List.foldl_append

theorem run_append_cons (m : Machine) (first last : List Event) (event : Event) :
    m.run (first ++ event :: last) = ((m.run first).step event).run last :=
  run_append m first (event :: last)

/-- What a run collects event by event splits where the history does. -/
theorem collect_append {α : Type} {collect : Machine → List Event → List α}
    {single : Machine → Event → List α} (nil : ∀ m, collect m [] = [])
    (cons : ∀ m event rest,
      collect m (event :: rest) = single m event ++ collect (m.step event) rest)
    (m : Machine) (first last : List Event) :
    collect m (first ++ last) = collect m first ++ collect (m.run first) last := by
  induction first generalizing m with
  | nil => rw [nil m]; rfl
  | cons event rest ih =>
      rw [List.cons_append, cons, cons, ih, List.append_assoc]
      rfl

theorem run_invariant {P : Machine → Prop} (kept : ∀ m event, P m → P (m.step event))
    {m : Machine} (initial : P m) (history : List Event) : P (m.run history) := by
  induction history generalizing m with
  | nil => exact initial
  | cons event rest ih => exact ih (kept m event initial)

/-! ## Calls wait or have ended -/

/-- The calls that wait or have ended have started, and none that has ended waits. -/
structure Tidy (m : Machine) : Prop where
  waiting : ∀ id, (m.waiting.get? id).isSome → id < m.started
  finished : ∀ id, (m.outcome? id).isSome → id < m.started
  apart : ∀ id, (m.outcome? id).isSome → m.waiting.get? id = none

theorem tidy_fresh (config : ServiceConfig) : Tidy (fresh config) where
  waiting := by intro id present; simp [fresh] at present
  finished := by intro id present; simp [fresh, outcome?] at present
  apart := by intro id present; simp [fresh, outcome?] at present

theorem settle_preserves_tidy {m : Machine} (tidy : Tidy m) {id : Nat} (known : id < m.started)
    (unanswered : m.outcome? id = none) (r : CallState × Service) : Tidy (m.settle id r) where
  waiting := by
    intro x present
    rw [settle_waiting] at present
    rw [settle_started]
    by_cases same : x = id
    · exact same ▸ known
    · exact tidy.waiting x (by simpa [same] using present)
  finished := by
    intro x present
    rw [settle_outcome?] at present
    rw [settle_started]
    by_cases same : x = id
    · exact same ▸ known
    · exact tidy.finished x (by simpa [same] using present)
  apart := by
    intro x present
    rw [settle_outcome?] at present
    rw [settle_waiting]
    by_cases same : x = id
    · subst same
      rw [if_pos rfl] at present ⊢
      rw [unanswered] at present
      cases state : r.1 with
      | waiting wait => simp [state, CallState.outcome?] at present
      | finished outcome => rfl
    · rw [if_neg same] at present ⊢
      exact tidy.apart x present

theorem outcome?_of_waiting {m : Machine} (tidy : Tidy m) {id : Nat} {wait : Waiting}
    (held : m.waiting.get? id = some wait) : m.outcome? id = none := by
  rw [← Option.not_isSome_iff_eq_none]
  intro ended
  rw [tidy.apart id ended] at held
  exact absurd held (by simp)

theorem outcome?_of_unstarted {m : Machine} (tidy : Tidy m) : m.outcome? m.started = none := by
  rw [← Option.not_isSome_iff_eq_none]
  intro ended
  exact Nat.lt_irrefl _ (tidy.finished _ ended)

theorem waiting_of_unstarted {m : Machine} (tidy : Tidy m) : m.waiting.get? m.started = none := by
  rw [← Option.not_isSome_iff_eq_none]
  intro present
  exact Nat.lt_irrefl _ (tidy.waiting _ present)

theorem tidy_started {m : Machine} (tidy : Tidy m) : Tidy { m with started := m.started + 1 } where
  waiting id present := Nat.lt_succ_of_lt (tidy.waiting id present)
  finished id present := Nat.lt_succ_of_lt (tidy.finished id present)
  apart := tidy.apart

theorem Step.preserves_tidy {m m' : Machine} {event : Event} (step : Step m event m')
    (tidy : Tidy m) : Tidy m' := by
  cases step with
  | started call =>
      exact settle_preserves_tidy (tidy_started tidy) (Nat.lt_succ_self _)
        (outcome?_of_unstarted tidy) _
  | resumed sent held went =>
      exact settle_preserves_tidy tidy (tidy.waiting _ (by simp [held]))
        (outcome?_of_waiting tidy held) _
  | idle nothing deaf => exact tidy

theorem run_preserves_tidy {m : Machine} (tidy : Tidy m) (history : List Event) :
    Tidy (m.run history) :=
  run_invariant (fun m event => (m.step_step event).preserves_tidy) tidy history

theorem run_tidy (config : ServiceConfig) (history : List Event) :
    Tidy ((fresh config).run history) :=
  run_preserves_tidy (tidy_fresh config) history

/-- How a call has ended never changes. -/
theorem Step.keeps_outcome {m m' : Machine} {event : Event} (step : Step m event m')
    (tidy : Tidy m) {id : Nat} {outcome : Outcome} (ended : m.outcome? id = some outcome) :
    m'.outcome? id = some outcome := by
  cases step with
  | started call =>
      have other : id ≠ m.started := by
        intro same
        rw [same, outcome?_of_unstarted tidy] at ended
        exact absurd ended (by simp)
      rw [settle_outcome?, if_neg other]
      exact ended
  | @resumed _ sender wait signal r sent held went =>
      have other : id ≠ sender := by
        intro same
        rw [same, outcome?_of_waiting tidy held] at ended
        exact absurd ended (by simp)
      rw [settle_outcome?, if_neg other]
      exact ended
  | idle nothing deaf => exact ended

theorem run_keeps_outcome {m : Machine} (tidy : Tidy m) (history : List Event) {id : Nat}
    {outcome : Outcome} (ended : m.outcome? id = some outcome) :
    (m.run history).outcome? id = some outcome := by
  induction history generalizing m with
  | nil => exact ended
  | cons event rest ih =>
      have step := m.step_step event
      exact ih (step.preserves_tidy tidy) (step.keeps_outcome tidy ended)

end Machine

end StorageBroker
