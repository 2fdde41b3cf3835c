import StorageBroker.Proofs.Service.InFlight

/-! # The record of deployments and teardowns

Whenever a controller has done its work, the registry records it: the storage has a mount path from
then on, or it has none. Read off a run, the records of one storage alternate, and the last of them
is the mount path that the registry shows. -/

set_option autoImplicit false

namespace StorageBroker

/-- What is recorded when a controller has done its work: the storage, and its mount path from then
on. -/
structure MountRecord where
  storage : AdhocId
  mountPath : Option String
  deriving DecidableEq, Repr

/-- The mount paths recorded for a storage, the oldest first. -/
def MountRecord.pathsOf (adhoc : AdhocId) (records : List MountRecord) : List (Option String) :=
  (records.filter fun record => record.storage = adhoc).map MountRecord.mountPath

/-- Deployments and teardowns in turn, a deployment first. -/
def Alternates (paths : List (Option String)) : Prop :=
  ∀ n path, paths[n]? = some path → (path.isSome = true ↔ n % 2 = 0)

namespace Machine

/-- What an event makes the registry record: a controller has answered with success, and the
registry has accepted that the work is done. -/
def recorded? (m : Machine) : Event → Option MountRecord
  | .answer id (.ok path) =>
    match m.waiting.get? id with
    | some (.deploying plan _) =>
      match m.service.registry.completeDeploy plan.id path with
      | (.ok _, _) => some ⟨plan.id, some path⟩
      | (.error _, _) => none
    | some (.tearingDown plan _ _) =>
      match m.service.registry.completeTeardown plan.id with
      | (.ok _, _) => some ⟨plan.id, none⟩
      | (.error _, _) => none
    | _ => none
  | _ => none

/-- What is recorded during a history. -/
def records (m : Machine) : List Event → List MountRecord
  | [] => []
  | event :: rest => (m.recorded? event).toList ++ (m.step event).records rest

end Machine

/-! ## Alternation -/

theorem alternates_nil : Alternates [] := by
  intro n path found
  simp at found

/-- Whether a storage is up can be read off the number of its records. -/
theorem Alternates.last {paths : List (Option String)} (alternates : Alternates paths) :
    paths.getLast?.join.isSome = true ↔ paths.length % 2 = 1 := by
  rw [List.getLast?_eq_getElem?]
  cases found : paths[paths.length - 1]? with
  | none =>
      have short := List.getElem?_eq_none_iff.mp found
      have empty : paths.length = 0 := by omega
      simp [empty]
  | some path =>
      have turn := alternates _ path found
      have long := (List.getElem?_eq_some_iff.mp found).1
      rw [Option.join_some, turn]
      omega

theorem Alternates.concat {paths : List (Option String)} (alternates : Alternates paths)
    {path : Option String} (turn : paths.getLast?.join.isSome ≠ path.isSome) :
    Alternates (paths ++ [path]) := by
  have last := alternates.last
  intro n other found
  rcases Nat.lt_trichotomy n paths.length with early | here | late
  · rw [List.getElem?_append_left early] at found
    exact alternates n other found
  · subst here
    obtain rfl : path = other := by simpa using found
    cases up : paths.getLast?.join.isSome <;> cases now : path.isSome <;>
      simp only [up, now, ne_eq, not_true_eq_false, Bool.false_eq_true, false_iff, true_iff,
        reduceCtorEq, not_false_eq_true] at turn last ⊢ <;> omega
  · rw [List.getElem?_eq_none (by simp; omega)] at found
    exact absurd found (by simp)

theorem MountRecord.pathsOf_concat (adhoc : AdhocId) (records : List MountRecord)
    (record : MountRecord) : pathsOf adhoc (records ++ [record]) =
      if record.storage = adhoc then pathsOf adhoc records ++ [record.mountPath]
      else pathsOf adhoc records := by
  unfold pathsOf
  rw [List.filter_append, List.map_append]
  by_cases same : record.storage = adhoc <;> simp [same]

/-! ## Mount paths before and after -/

/-- The mount paths of one service come from another: a storage has the path that it had, or it is
new and has none. -/
def Service.MountsFrom (s s' : Service) : Prop :=
  ∀ adhoc path, s'.registry.mount? adhoc = some path → s.registry.mount? adhoc = some path ∨
    (s.registry.mount? adhoc = none ∧ path = none ∧ s.ids.issued < adhoc.raw.toNat)

theorem Service.mount?_of_unissued {s : Service} (orderly : s.Orderly) {adhoc : AdhocId}
    (unissued : s.ids.issued < adhoc.raw.toNat) : s.registry.mount? adhoc = none := by
  have absent : s.registry.adhoc.get? adhoc = none := by
    rw [← Option.not_isSome_iff_eq_none]
    intro present
    have spent := orderly.registry.adhoc adhoc present
    simp only at spent
    omega
  rw [Registry.mount?, absent]
  rfl

theorem Service.issued_of_mount? {s : Service} (orderly : s.Orderly) {adhoc : AdhocId}
    {path : Option String} (mounted : s.registry.mount? adhoc = some path) :
    adhoc.raw.toNat ≤ s.ids.issued := by
  rcases Nat.lt_or_ge s.ids.issued adhoc.raw.toNat with unissued | spent
  · rw [mount?_of_unissued orderly unissued] at mounted
    exact absurd mounted (by simp)
  · exact spent

/-- Unless a deployment or a teardown is completed, mount paths come from the ones before. -/
theorem Service.Change.mountsFrom {allowed : Registry.Operation → Prop} {s s' : Service}
    (change : Service.Change allowed s s') (unfinished : ∀ op, allowed op → op.completes = false)
    (orderly : s.Orderly) : s.MountsFrom s' := by
  intro adhoc path mounted
  cases change with
  | registry may stays effect =>
      exact effect.mount_of orderly.registry (unfinished _ may) mounted
  | jobRemoved registered =>
      obtain ⟨holder, found⟩ := Option.isSome_iff_exists.mp registered
      have dropped := Registry.Effect.jobRemoved (s := ⟨s.ids, s.registry⟩) rfl found
      exact dropped.mount_of orderly.registry rfl mounted
  | transfers registered effect | operations registered tied effect
  | limitSet registered limit | limitsRemoved registered entity limitClass => exact .inl mounted

theorem Service.Changes.mountsFrom {allowed : Registry.Operation → Prop} {s s' : Service}
    (changes : Service.Changes allowed s s')
    (unfinished : ∀ op, allowed op → op.completes = false) (orderly : s.Orderly) :
    s.MountsFrom s' := by
  have kept : ∀ t t', Service.Change allowed t t' →
      t.Orderly ∧ s.ids.issued ≤ t.ids.issued ∧ s.MountsFrom t →
      t'.Orderly ∧ s.ids.issued ≤ t'.ids.issued ∧ s.MountsFrom t' := by
    rintro t t' change ⟨held, early, mounts⟩
    have late : t.ids.issued ≤ t'.ids.issued := (change.draws held.sound).registry.later
    refine ⟨change.preserves_orderly held, Nat.le_trans early late, ?_⟩
    intro adhoc path mounted
    rcases change.mountsFrom unfinished held adhoc path mounted with before | ⟨-, bare, new⟩
    · exact mounts adhoc path before
    · have unissued := Nat.lt_of_le_of_lt early new
      exact .inr ⟨Service.mount?_of_unissued orderly unissued, bare, unissued⟩
  exact (changes.invariant kept ⟨orderly, Nat.le_refl _, fun _ _ => .inl⟩).2.2

theorem Registry.Operation.completes_of_moves {op : Registry.Operation}
    (still : op.moves = false) : op.completes = false := by
  cases op <;> first | rfl | exact still

theorem Call.may_completes {call : Call} {op : Registry.Operation} (may : call.may op) :
    op.completes = false := by
  cases call with
  | shutdown => exact may
  | request request =>
      cases request with
      | deployAdhocStorage adhoc | terminateAdhocStorage adhoc => exact may
      | _ => exact Registry.Operation.completes_of_moves may

/-- Whether a signal is the success that a controller was asked for. -/
def Waiting.completes : Waiting → Signal → Bool
  | .deploying _ _, .answered (.ok _) | .tearingDown _ _ _, .answered (.ok _) => true
  | _, _ => false

theorem Waiting.may_completes {wait : Waiting} {signal : Signal} {op : Registry.Operation}
    (may : wait.may signal op) (unfinished : wait.completes signal = false) :
    op.completes = false := by
  unfold Waiting.may at may
  split at may
  · simp [Waiting.completes] at unfinished
  · simp [Waiting.completes] at unfinished
  · exact may
  · exact may
  · exact may
  · exact may
  all_goals exact Registry.Operation.completes_of_moves may

/-! ## What one event records -/

namespace Service

/-- What a stretch of a call records, and what it makes of the mount paths: a record is a change of
the storage it is about, and all other paths come from the ones before. -/
structure Records (record : Option MountRecord) (s s' : Service) : Prop where
  turn : ∀ made, record = some made → ∃ before,
    s.registry.mount? made.storage = some before ∧ before.isSome ≠ made.mountPath.isSome
  after : ∀ adhoc path, s'.registry.mount? adhoc = some path →
    (∃ made, record = some made ∧ made.storage = adhoc ∧ path = made.mountPath) ∨
    (record.map MountRecord.storage ≠ some adhoc ∧
      (s.registry.mount? adhoc = some path ∨
        (s.registry.mount? adhoc = none ∧ path = none ∧ s.ids.issued < adhoc.raw.toNat)))

theorem MountsFrom.records {s s' : Service} (mounts : s.MountsFrom s') : s.Records none s' where
  turn := by simp
  after adhoc path mounted := .inr ⟨by simp, mounts adhoc path mounted⟩

theorem Records.of_set {s : Service} {r : Registry} {adhoc : AdhocId}
    {before path : Option String} (mounted : s.registry.mount? adhoc = some before)
    (turns : before.isSome ≠ path.isSome)
    (set : ∀ x, r.mount? x = if x = adhoc then some path else s.registry.mount? x) :
    s.Records (some ⟨adhoc, path⟩) { s with registry := r } where
  turn := by
    intro made same
    obtain rfl := Option.some.inj same
    exact ⟨before, mounted, turns⟩
  after := by
    intro x now found
    simp only [set] at found
    by_cases same : x = adhoc
    · rw [if_pos same] at found
      exact .inl ⟨_, rfl, same.symm, (Option.some.inj found).symm⟩
    · rw [if_neg same] at found
      exact .inr ⟨by simpa using Ne.symm same, .inl found⟩

theorem Records.trans {record : Option MountRecord} {s s' s'' : Service}
    (records : s.Records record s') (orderly : s.Orderly)
    (later : s.ids.issued ≤ s'.ids.issued) (mounts : s'.MountsFrom s'') : s.Records record s'' where
  turn := records.turn
  after := by
    intro adhoc path mounted
    rcases mounts adhoc path mounted with before | ⟨-, bare, unissued⟩
    · exact records.after adhoc path before
    · have new := Nat.lt_of_le_of_lt later unissued
      refine .inr ⟨?_, .inr ⟨mount?_of_unissued orderly new, bare, new⟩⟩
      intro same
      obtain ⟨made, rfl, rfl⟩ := Option.map_eq_some_iff.mp same
      obtain ⟨before, was, -⟩ := records.turn made rfl
      have spent := issued_of_mount? orderly was
      omega

theorem completeDeploy_records {s : Service} {plan : DeploymentPlan} (path : String)
    (held : s.registry.inFlight? plan.id = some (.deploy plan)) :
    s.Records (some ⟨plan.id, some path⟩) (s.completeDeploy plan path).2 := by
  obtain ⟨storage, r', completed, -, was, set⟩ := Registry.completeDeploy_ok held path
  unfold completeDeploy
  rw [completed]
  exact .of_set was (by simp) set

theorem completeTeardown_records {s : Service} (orderly : s.Orderly) {plan : DeploymentPlan}
    (origin : TeardownOrigin) (held : s.registry.inFlight? plan.id = some (.teardown plan)) :
    s.Records (some ⟨plan.id, none⟩) (s.completeTeardown plan origin).2 := by
  obtain ⟨storage, r', completed, -, ⟨path, was⟩, set⟩ := Registry.completeTeardown_ok held
  have changed : Changes (fun _ => True) s { s with registry := r' } := by
    have made : Changes (fun _ => True) s _ :=
      s.registry_changes (.completeTeardown plan.id) trivial rfl
    simpa only [Registry.apply, completed] using made
  -- a shutdown goes on with other storages, but completes nothing before it waits again
  have ended : Service.MountsFrom { s with registry := r' }
      (Service.endTeardown { s with registry := r' } origin (.ok ())).2 :=
    (Changes.of_moved (endTeardown_moved (fun _ same => same) _ origin (.ok ()))).mountsFrom
      (fun _ same => same) (changed.preserve_orderly orderly)
  have recorded : s.Records (some ⟨plan.id, none⟩) { s with registry := r' } :=
    .of_set was (by simp) set
  unfold completeTeardown
  rw [completed]
  exact recorded.trans orderly (Nat.le_refl _) ended

end Service

namespace Machine

theorem recorded?_of_unfinished {m : Machine} {id : Nat} {event : Event} {signal : Signal}
    {wait : Waiting} (sent : m.Sends id event signal) (waits : m.waiting.get? id = some wait)
    (unfinished : wait.completes signal = false) : m.recorded? event = none := by
  cases sent with
  | wake ended => rfl
  | expire going => rfl
  | answer result =>
      cases result with
      | error e => rfl
      | ok path =>
          simp only [recorded?, waits]
          cases wait <;> first | rfl | simp [Waiting.completes] at unfinished

theorem recorded?_of_deaf {m : Machine} {event : Event}
    (deaf : ∀ id signal wait, m.Sends id event signal → m.waiting.get? id = some wait →
      m.service.resume wait signal = none) : m.recorded? event = none := by
  unfold recorded?
  split
  · rename_i id path
    cases waits : m.waiting.get? id with
    | none => rfl
    | some wait =>
        have ignored := deaf id _ wait (.answer (.ok path)) waits
        cases wait <;> first | rfl | exact absurd ignored (by simp [Service.resume])
  · rfl

/-- What an event records is a change of one mount path, and no other path changes. -/
theorem Step.records {m m' : Machine} {event : Event} (step : Step m event m')
    (orderly : m.service.Orderly) (inHand : InHand m) :
    m.service.Records (m.recorded? event) m'.service := by
  cases step with
  | started call =>
      rw [settle_service]
      exact ((m.service.start_changes call).mountsFrom (fun _ => Call.may_completes)
        orderly).records
  | @resumed _ id wait signal r sent waits went =>
      rw [settle_service]
      have held : ∀ work, wait.work? = some work →
          m.service.registry.inFlight? work.storage = some work := by
        intro work works
        exact inHand.held id work (by rw [work?, waits, Option.bind_some, works])
      cases ends : wait.completes signal with
      | false =>
          rw [recorded?_of_unfinished sent waits ends]
          exact ((Service.resume_changes went).mountsFrom
            (fun _ may => Waiting.may_completes may ends) orderly).records
      | true =>
          unfold Waiting.completes at ends
          split at ends
          · rename_i plan address path
            obtain rfl := Option.some.inj went
            have work : m.service.registry.inFlight? plan.id = some (.deploy plan) := held _ rfl
            obtain ⟨storage, r', completed, -⟩ := Registry.completeDeploy_ok work path
            cases sent with
            | answer result =>
                simp only [recorded?, waits]
                rw [completed]
                exact Service.completeDeploy_records path work
          · rename_i plan address origin path
            obtain rfl := Option.some.inj went
            have work : m.service.registry.inFlight? plan.id = some (.teardown plan) := held _ rfl
            obtain ⟨storage, r', completed, -⟩ := Registry.completeTeardown_ok work
            cases sent with
            | answer result =>
                simp only [recorded?, waits]
                rw [completed]
                exact Service.completeTeardown_records orderly origin work
          · exact absurd ends (by simp)
  | idle nothing deaf =>
      rw [recorded?_of_deaf deaf]
      exact Service.MountsFrom.records fun _ _ => .inl

/-! ## Whole runs -/

/-- A past that fits a machine: the records of each storage alternate, and the last one is the mount
path that the registry shows. -/
structure Faithful (past : List MountRecord) (m : Machine) : Prop where
  alternates : ∀ adhoc, Alternates (MountRecord.pathsOf adhoc past)
  current : ∀ adhoc path, m.service.registry.mount? adhoc = some path →
    path = (MountRecord.pathsOf adhoc past).getLast?.join
  known : ∀ adhoc, MountRecord.pathsOf adhoc past ≠ [] → adhoc.raw.toNat ≤ m.service.ids.issued

theorem Step.preserves_faithful {past : List MountRecord} {m m' : Machine} {event : Event}
    (step : Step m event m') (orderly : m.service.Orderly) (inHand : InHand m)
    (faithful : Faithful past m) : Faithful (past ++ (m.recorded? event).toList) m' := by
  have records := step.records orderly inHand
  have later : m.service.ids.issued ≤ m'.service.ids.issued :=
    (step.changes.draws orderly).registry.later
  -- a storage that is new has no records yet
  have blank : ∀ adhoc, m.service.ids.issued < adhoc.raw.toNat →
      MountRecord.pathsOf adhoc past = [] := by
    intro adhoc unissued
    rcases Decidable.em (MountRecord.pathsOf adhoc past = []) with blank | made
    · exact blank
    · have spent := faithful.known adhoc made
      omega
  cases recorded : m.recorded? event with
  | none =>
      rw [recorded] at records
      rw [Option.toList_none, List.append_nil]
      refine ⟨faithful.alternates, ?_,
        fun adhoc made => Nat.le_trans (faithful.known adhoc made) later⟩
      intro adhoc path mounted
      rcases records.after adhoc path mounted with ⟨made, none, -⟩ | ⟨-, before | ⟨-, bare, new⟩⟩
      · exact absurd none (by simp)
      · exact faithful.current adhoc path before
      · rw [blank adhoc new]
        exact bare
  | some made =>
      rw [recorded] at records
      obtain ⟨before, was, turns⟩ := records.turn made rfl
      have shown := faithful.current made.storage before was
      rw [Option.toList_some]
      refine ⟨?_, ?_, ?_⟩
      · intro adhoc
        rw [MountRecord.pathsOf_concat]
        by_cases same : made.storage = adhoc
        · subst same
          rw [if_pos rfl]
          exact (faithful.alternates _).concat (shown ▸ turns)
        · rw [if_neg same]
          exact faithful.alternates adhoc
      · intro adhoc path mounted
        rw [MountRecord.pathsOf_concat]
        rcases records.after adhoc path mounted with ⟨other, same, rfl, rfl⟩ | ⟨apart, kept⟩
        · obtain rfl := Option.some.inj same
          rw [if_pos rfl, List.getLast?_concat, Option.join_some]
        · rw [if_neg (by simpa using apart)]
          rcases kept with before | ⟨-, bare, new⟩
          · exact faithful.current adhoc path before
          · rw [blank adhoc new]
            exact bare
      · intro adhoc some
        rw [MountRecord.pathsOf_concat] at some
        by_cases same : made.storage = adhoc
        · exact Nat.le_trans (same ▸ Service.issued_of_mount? orderly was) later
        · rw [if_neg same] at some
          exact Nat.le_trans (faithful.known adhoc some) later

theorem run_preserves_faithful {past : List MountRecord} {m : Machine} (tidy : Tidy m)
    (orderly : m.service.Orderly) (inHand : InHand m) (faithful : Faithful past m)
    (history : List Event) : Faithful (past ++ m.records history) (m.run history) := by
  induction history generalizing past m with
  | nil => simpa [records, run] using faithful
  | cons event rest ih =>
      have step := m.step_step event
      have now := ih (step.preserves_tidy tidy) (step.changes.preserve_orderly orderly)
        (step.preserves_inHand tidy orderly inHand)
        (step.preserves_faithful orderly inHand faithful)
      rw [List.append_assoc] at now
      exact now

theorem run_faithful (config : ServiceConfig) (history : List Event) :
    Faithful ((fresh config).records history) ((fresh config).run history) := by
  have initial : Faithful [] (fresh config) := by
    refine ⟨fun _ => alternates_nil, ?_, fun _ made => absurd rfl made⟩
    intro adhoc path mounted
    simp [fresh, Service.fresh, Registry.empty, Registry.mount?] at mounted
  exact run_preserves_faithful (tidy_fresh config) (Service.orderly_fresh config)
    (inHand_fresh config) initial history

end Machine

end StorageBroker
