import StorageBroker.Proofs.Service.Handover

/-! # Work in flight belongs to waiting calls

In every state of a machine, the work that the registry shows on a storage is the work of one
waiting call, and of one only. It is kept by handing work over, so it holds at every moment of
every interleaving. -/

set_option autoImplicit false

namespace StorageBroker

namespace Machine

/-- The work that a call has in flight while it waits. -/
def work? (m : Machine) (id : Nat) : Option Work := (m.waiting.get? id).bind Waiting.work?

/-- The work in flight and the waiting calls belong together, one to one. -/
structure InHand (m : Machine) : Prop where
  held : ∀ id work, m.work? id = some work →
    m.service.registry.inFlight? work.storage = some work
  owned : ∀ adhoc work, m.service.registry.inFlight? adhoc = some work →
    ∃ id, m.work? id = some work
  single : ∀ id other work rival, m.work? id = some work → m.work? other = some rival →
    work.storage = rival.storage → id = other

theorem InHand.inFlight?_of_idle {m : Machine} (inHand : InHand m)
    (idle : ∀ id, m.waiting.get? id = none) (adhoc : AdhocId) :
    m.service.registry.inFlight? adhoc = none := by
  refine Option.eq_none_iff_forall_ne_some.mpr fun work shown => ?_
  obtain ⟨id, works⟩ := inHand.owned adhoc work shown
  rw [work?, idle id] at works
  exact absurd works (by simp)

theorem settle_work? (m : Machine) (id x : Nat) (r : CallState × Service) :
    (m.settle id r).work? x = if x = id then r.1.work? else m.work? x := by
  unfold work?
  rw [settle_waiting]
  split <;> rfl

theorem inHand_fresh (config : ServiceConfig) : InHand (fresh config) where
  held := by intro id work present; simp [work?, fresh] at present
  owned := by
    intro adhoc work present
    simp [fresh, Service.fresh, Registry.empty, Registry.inFlight?] at present
  single := by intro id other work rival present; simp [work?, fresh] at present

/-- A call that hands over its work leaves everything in hand. -/
theorem settle_preserves_inHand {m : Machine} (inHand : InHand m) {id : Nat}
    {r : CallState × Service}
    (handover : Registry.Handover (m.work? id) r.1.work? m.service.registry r.2.registry) :
    InHand (m.settle id r) := by
  have mine : ∀ {x work}, x ≠ id → m.work? x = some work →
      (m.work? id).map Work.storage ≠ some work.storage := by
    intro x work other works same
    obtain ⟨old, holds, storage⟩ := Option.map_eq_some_iff.mp same
    exact other (inHand.single x id work old works holds storage.symm)
  -- new work is never put on a storage that another call works on
  have clear : ∀ {x work}, x ≠ id → m.work? x = some work →
      r.1.work?.map Work.storage ≠ some work.storage := by
    intro x work other works same
    obtain ⟨new, taken, storage⟩ := Option.map_eq_some_iff.mp same
    rcases handover.free new taken with free | old
    · rw [storage, inHand.held x work works] at free
      exact absurd free (by simp)
    · exact mine other works (storage ▸ old)
  refine ⟨?_, ?_, ?_⟩
  · intro x work works
    rw [settle_work?] at works
    rw [settle_service, handover.view]
    by_cases same : x = id
    · rw [if_pos same] at works
      simp [works]
    · rw [if_neg same] at works
      rw [if_neg (clear same works), if_neg (mine same works)]
      exact inHand.held x work works
  · intro adhoc work shown
    rw [settle_service, handover.view] at shown
    by_cases taken : r.1.work?.map Work.storage = some adhoc
    · rw [if_pos taken] at shown
      exact ⟨id, by rw [settle_work?, if_pos rfl, shown]⟩
    · rw [if_neg taken] at shown
      by_cases dropped : (m.work? id).map Work.storage = some adhoc
      · rw [if_pos dropped] at shown
        exact absurd shown (by simp)
      · rw [if_neg dropped] at shown
        obtain ⟨x, works⟩ := inHand.owned adhoc work shown
        have other : x ≠ id := by
          rintro rfl
          rw [works] at dropped
          exact dropped (congrArg some (Registry.storage_of_inFlight shown))
        exact ⟨x, by rw [settle_work?, if_neg other, works]⟩
  · intro x y work rival works rivals same
    rw [settle_work?] at works rivals
    by_cases first : x = id <;> by_cases second : y = id
    · rw [first, second]
    · rw [if_pos first] at works
      rw [if_neg second] at rivals
      exact absurd (by rw [works, Option.map_some, same]) (clear second rivals)
    · rw [if_neg first] at works
      rw [if_pos second] at rivals
      exact absurd (by rw [rivals, Option.map_some, same]) (clear first works)
    · rw [if_neg first] at works
      rw [if_neg second] at rivals
      exact inHand.single x y work rival works rivals same

theorem Step.preserves_inHand {m m' : Machine} {event : Event} (step : Step m event m')
    (tidy : Tidy m) (orderly : m.service.Orderly) (inHand : InHand m) : InHand m' := by
  cases step with
  | started call =>
      -- no call has the next number yet
      have unknown : m.work? m.started = none := by
        rw [work?, waiting_of_unstarted tidy]
        rfl
      have numbered : InHand { m with started := m.started + 1 } :=
        ⟨inHand.held, inHand.owned, inHand.single⟩
      apply settle_preserves_inHand numbered
      change Registry.Handover (m.work? m.started) _ _ _
      rw [unknown]
      exact Service.start_handover orderly call
  | @resumed _ id wait signal r sent waits went =>
      have holds : m.work? id = wait.work? := by
        rw [work?, waits, Option.bind_some]
      apply settle_preserves_inHand inHand
      rw [holds]
      refine Service.resume_handover orderly ?_ went
      intro work works
      exact inHand.held id work (holds.trans works)
  | idle nothing deaf => exact inHand

/-- At every moment of every run, the work in flight belongs to the waiting calls. -/
theorem run_inHand (config : ServiceConfig) (history : List Event) :
    InHand ((fresh config).run history) := by
  have kept : ∀ m event, Tidy m ∧ m.service.Orderly ∧ InHand m →
      Tidy (m.step event) ∧ (m.step event).service.Orderly ∧ InHand (m.step event) := by
    rintro m event ⟨tidy, orderly, inHand⟩
    have step := m.step_step event
    exact ⟨step.preserves_tidy tidy, step.changes.preserve_orderly orderly,
      step.preserves_inHand tidy orderly inHand⟩
  exact (run_invariant kept
    ⟨tidy_fresh config, Service.orderly_fresh config, inHand_fresh config⟩ history).2.2

end Machine

end StorageBroker
