import Mathlib.Data.List.Induction
import StorageBroker.Proofs.Limit.Value
import StorageBroker.Proofs.Service.Begun

/-! # Where limits come from

A limit is set by a request of a registered job, and the limits on a job are dropped together with
it. The request may name any other job, also one that is not registered: that is the only way in
which a limit comes to be on a job that is not there, and nothing drops such a limit on its own. -/

set_option autoImplicit false

namespace StorageBroker

def Event.limits? : Event → Option JobId
  | .call (.request (.setLimit _ ⟨.job job, _, _⟩)) => some job
  | _ => none

namespace Service

variable {s s' : Service} {call : Call} {entity : LimitEntity} {limitClass : LimitClass}
  {value : UInt64} {job : JobId}

/-! ## One call -/

theorem value?_dropJob : (s.dropJob job).limits.value? entity limitClass =
    if entity = .job job then none else s.limits.value? entity limitClass :=
  LimitStore.value?_purgeJob job

/-- A limit was there before a call, or the call is a request to set it. -/
theorem Begun.limit_origin (begun : Begun s call s')
    (now : s'.limits.value? entity limitClass = some value) :
    s.limits.value? entity limitClass = some value ∨
      ∃ caller, call = .request (.setLimit caller ⟨entity, limitClass, value⟩) ∧
        s.Registered caller := by
  cases begun with
  | steady steady =>
      rw [steady.limits] at now
      exact .inl now
  | jobRemoved registered =>
      rw [value?_dropJob] at now
      split at now
      · exact absurd now (by simp)
      · exact .inl now
  | @limitSet caller registered limit =>
      rw [LimitStore.value?_set] at now
      by_cases here : entity = limit.entity ∧ limitClass = limit.limitClass
      · obtain ⟨rfl, rfl⟩ := here
        rw [if_pos ⟨rfl, rfl⟩] at now
        obtain rfl := Option.some.inj now
        exact .inr ⟨caller, rfl, registered⟩
      · rw [if_neg here] at now
        exact .inl now
  | limitsRemoved registered named class? => exact .inl (LimitStore.value?_of_remove now)
  | operation op asked | transferCreated registered sources targets limits mapping
  | operationDefined registered executable arguments => exact .inl now

theorem Begun.unlimited_of_gone (begun : Begun s call s') (registered : s.Registered job)
    (gone : ¬ s'.Registered job) : s'.limits.value? (.job job) limitClass = none := by
  by_cases asked : call = .request (.removeJob job)
  · subst asked
    cases begun with
    | steady steady =>
        unfold Registered at gone
        rw [steady.jobs] at gone
        exact absurd registered gone
    | operation op asked => exact absurd asked (by simp [Request.operation?])
    | jobRemoved known => rw [value?_dropJob, if_pos rfl]
  · exact absurd (begun.keeps_registered asked registered) gone

end Service

namespace Machine

/-! ## Whole runs -/

/-- In the course of a history, a registered job set a limit while another job was not registered,
which has not been registered since. -/
def Strays (config : ServiceConfig) (history : List Event) (limit : Limit) (job : JobId) : Prop :=
  ∃ before after caller,
    history = before ++ .call (.request (.setLimit caller limit)) :: after ∧
    ((fresh config).run before).service.Registered caller ∧
    ∀ past, before <+: past → past <+: history → ¬ ((fresh config).run past).service.Registered job

theorem Strays.concat {config : ServiceConfig} {history : List Event} {limit : Limit} {job : JobId}
    (strays : Strays config history limit job) {event : Event}
    (gone : ¬ ((fresh config).run (history ++ [event])).service.Registered job) :
    Strays config (history ++ [event]) limit job := by
  obtain ⟨before, after, caller, rfl, asked, missing⟩ := strays
  refine ⟨before, after ++ [event], caller, by simp, asked, fun past later early => ?_⟩
  rcases List.prefix_concat_iff.mp early with rfl | early
  · exact gone
  · exact missing past later early

theorem run_strays (config : ServiceConfig) (history : List Event) {job : JobId}
    {limitClass : LimitClass} {value : UInt64}
    (limited : ((fresh config).run history).service.limits.value? (.job job) limitClass =
      some value)
    (gone : ¬ ((fresh config).run history).service.Registered job) :
    Strays config history ⟨.job job, limitClass, value⟩ job := by
  induction history using List.reverseRecOn with
  | nil => exact absurd limited (by simp [run, fresh, Service.fresh, LimitStore.value?_empty])
  | append_singleton history event ih =>
      have step := ((fresh config).run history).step_step event
      have last :
          (fresh config).run (history ++ [event]) = ((fresh config).run history).step event :=
        run_append _ history [event]
      rcases step.begun with steady | ⟨call, rfl, begun⟩
      · have before : ¬ ((fresh config).run history).service.Registered job := by
          unfold Service.Registered at gone ⊢
          rwa [last, steady.jobs] at gone
        rw [last, steady.limits] at limited
        exact (ih limited before).concat gone
      · rw [last] at limited
        have missing := gone
        rw [last] at missing
        -- a job that was registered until now would have taken its limits with it
        have before : ¬ ((fresh config).run history).service.Registered job := by
          intro registered
          exact absurd (limited.symm.trans (begun.unlimited_of_gone registered missing)) (by simp)
        rcases begun.limit_origin limited with known | ⟨caller, rfl, asked⟩
        · exact (ih known before).concat gone
        · refine ⟨history, [], caller, rfl, asked, fun past later early => ?_⟩
          rcases List.prefix_concat_iff.mp early with rfl | early
          · exact gone
          · obtain rfl := later.eq_of_length (Nat.le_antisymm later.length_le early.length_le)
            exact before

/-- A job without limits stays so until a request sets one on it. -/
theorem run_keeps_unlimited {m : Machine} {job : JobId}
    (unlimited : m.service.limits.countForJob job = 0) {history : List Event}
    (spared : ∀ event ∈ history, event.limits? ≠ some job) :
    (m.run history).service.limits.countForJob job = 0 := by
  induction history generalizing m with
  | nil => exact unlimited
  | cons event rest ih =>
      rw [List.forall_mem_cons] at spared
      refine ih ?_ spared.2
      rw [LimitStore.countForJob_eq_zero] at unlimited ⊢
      intro limitClass
      rw [Option.eq_none_iff_forall_ne_some]
      intro value now
      rcases (m.step_step event).begun with steady | ⟨call, rfl, begun⟩
      · rw [steady.limits, unlimited limitClass] at now
        exact absurd now (by simp)
      · rcases begun.limit_origin now with before | ⟨caller, rfl, asked⟩
        · exact absurd ((unlimited limitClass).symm.trans before) (by simp)
        · exact spared.1 rfl

/-- In every run, a limit on a job that is not registered was set by a request of another job while
the job that it is on was not registered, and that job has not been registered since. The removal of
a job drops its limits, and there is none on it from then on as long as no request sets one. -/
theorem limits_go_with_their_job (config : ServiceConfig) (history : List Event) :
    let m := (fresh config).run history
    (∀ job limitClass value, ¬ m.service.Registered job →
      m.service.limits.value? (.job job) limitClass = some value →
      Strays config history ⟨.job job, limitClass, value⟩ job) ∧
    ∀ job, m.service.Registered job → ∀ later : List Event,
      (∀ event ∈ later, event.limits? ≠ some job) →
      let removed := m.step (.call (.request (.removeJob job)))
      (removed.run later).service.limits.countForJob job = 0 := by
  intro m
  refine ⟨?_, ?_⟩
  · intro job limitClass value gone limited
    exact run_strays config history limited gone
  · intro job registered later spared removed
    refine run_keeps_unlimited ?_ spared
    obtain ⟨owner, found⟩ := Option.isSome_iff_exists.mp registered
    rcases m.service.removeJob_outcome job with ⟨missing, -⟩ | ⟨gone, -, dropped⟩
    · exact absurd (found.symm.trans missing) (by simp)
    · have after : removed.service = m.service.dropJob job := by
        change (Machine.settle _ _ (Service.finish _ (m.service.removeJob job))).service = _
        rw [settle_service, dropped]
        rfl
      rw [after, LimitStore.countForJob_eq_zero]
      intro limitClass
      rw [Service.value?_dropJob, if_pos rfl]

/-- The limit that a job has set on itself goes when the job is removed. -/
theorem own_limit_goes_with_job :
    let m := (fresh .standard).run [
      .call (.request (.registerJob 1 ⟨[]⟩ ⟨[], [], [], none⟩)),
      .call (.request (.setLimit ⟨1⟩ ⟨.job ⟨1⟩, .iops, 500⟩))]
    m.service.limits.countForJob ⟨1⟩ = 1 ∧
    (m.step (.call (.request (.removeJob ⟨1⟩)))).service.limits.countForJob ⟨1⟩ = 0 := by
  intro m
  have limits := limits_go_with_their_job .standard [
    .call (.request (.registerJob 1 ⟨[]⟩ ⟨[], [], [], none⟩)),
    .call (.request (.setLimit ⟨1⟩ ⟨.job ⟨1⟩, .iops, 500⟩))]
  exact ⟨rfl, limits.2 ⟨1⟩ rfl [] (by simp)⟩

/-- A job sets a limit on one that has been removed: the limit is kept, and nobody is left whose
removal would drop it. -/
theorem limit_outlives_its_job :
    let removed := (fresh .standard).run [
      .call (.request (.registerJob 1 ⟨[]⟩ ⟨[], [], [], none⟩)),
      .call (.request (.registerJob 2 ⟨[]⟩ ⟨[], [], [], none⟩)),
      .call (.request (.removeJob ⟨2⟩))]
    let m := removed.step (.call (.request (.setLimit ⟨1⟩ ⟨.job ⟨2⟩, .iops, 500⟩)))
    removed.outcome? 2 = some (.reply (.ok (.job ⟨⟨2⟩, 2, ⟨[]⟩, ⟨[], [], [], none⟩⟩))) ∧
    m.outcome? 3 = some (.reply (.ok .empty)) ∧
    ¬ m.service.Registered ⟨2⟩ ∧
    m.service.limits.countForJob ⟨2⟩ = 1 :=
  ⟨rfl, rfl, Bool.false_ne_true, rfl⟩

end Machine

end StorageBroker
