import StorageBroker.Proofs.Registry.Phase

/-! # The mount path of a storage

Clients see a mount path while a storage is deployed, its teardown included. What they see, what may
be begun, completed or taken back, and what a controller is told, all follow from the deployments
and teardowns of the storage that have succeeded so far. -/

set_option autoImplicit false

namespace StorageBroker.Registry

section

variable {s : Numbered Registry} {id : AdhocId} {entry : AdhocEntry}
  (found : s.store.adhoc.get? id = some entry)
include found

/-- A deployment may begin if there is no mount path and no deployment under way. -/
theorem beginDeploy_iff : s.Succeeds apply (.beginDeploy id) ↔
    entry.deployment.mountPath? = none ∧ ¬ Phase.deployment.Marks entry.deployment := by
  rw [succeeds_beginDeploy]
  constructor
  · rintro ⟨other, known, state⟩
    obtain rfl := Option.some.inj (known.symm.trans found)
    rw [state]
    exact ⟨rfl, nofun⟩
  · rintro ⟨bare, idle⟩
    refine ⟨entry, found, ?_⟩
    cases state : entry.deployment with
    | undeployed => rfl
    | deploying => exact absurd (state ▸ .deploying) idle
    | deployed path | tearingDown path => simp [state, Deployment.mountPath?] at bare

/-- A teardown may begin if there is a mount path and no teardown under way. -/
theorem beginTeardown_iff : s.Succeeds apply (.beginTeardown id) ↔
    entry.deployment.mountPath? ≠ none ∧ ¬ Phase.teardown.Marks entry.deployment := by
  rw [succeeds_beginTeardown]
  constructor
  · rintro ⟨other, path, known, state⟩
    obtain rfl := Option.some.inj (known.symm.trans found)
    rw [state]
    exact ⟨by simp [Deployment.mountPath?], nofun⟩
  · rintro ⟨mounted, idle⟩
    cases state : entry.deployment with
    | deployed path => exact ⟨entry, path, found, state⟩
    | tearingDown path => exact absurd (state ▸ .tearingDown path) idle
    | undeployed | deploying => simp [state, Deployment.mountPath?] at mounted

theorem completeDeploy_iff {path : String} : s.Succeeds apply (.completeDeploy id path) ↔
    Phase.deployment.Marks entry.deployment := by
  rw [succeeds_completeDeploy]
  constructor
  · rintro ⟨other, known, state⟩
    obtain rfl := Option.some.inj (known.symm.trans found)
    exact state ▸ .deploying
  · intro marked
    refine ⟨entry, found, ?_⟩
    generalize entry.deployment = state at marked
    cases marked
    rfl

theorem completeTeardown_iff : s.Succeeds apply (.completeTeardown id) ↔
    Phase.teardown.Marks entry.deployment := by
  rw [succeeds_completeTeardown]
  constructor
  · rintro ⟨other, path, known, state⟩
    obtain rfl := Option.some.inj (known.symm.trans found)
    exact state ▸ .tearingDown path
  · intro marked
    generalize state : entry.deployment = deployment at marked
    cases marked with
    | tearingDown path => exact ⟨entry, path, found, state⟩

/-- What a controller is told at the beginning of a phase: the mount path of the storage. -/
theorem Phase.begins_plan (phase : Phase) {answer : Answer}
    (begun : (apply s (phase.begins id)).1 = .ok answer) :
    answer = .plan (entry.plan id entry.deployment.mountPath?) := by
  cases phase with
  | deployment =>
      rcases s.store.beginDeploy_outcome id with ⟨e, refused⟩ | ⟨other, known, state, done⟩
      · simp [begins, apply, refused, Except.map] at begun
      · obtain rfl := Option.some.inj (known.symm.trans found)
        simpa [begins, apply, done, state, Except.map, Deployment.mountPath?, eq_comm] using begun
  | teardown =>
      rcases s.store.beginTeardown_outcome id with ⟨e, refused⟩ | ⟨other, path, known, state, done⟩
      · simp [begins, apply, refused, Except.map] at begun
      · obtain rfl := Option.some.inj (known.symm.trans found)
        simpa [begins, apply, done, state, Except.map, Deployment.mountPath?, eq_comm] using begun

end

/-- A phase that is taken back leaves the storage as it was when the phase began, with the client
that it has now. -/
theorem Phase.OpenSince.aborted {ids : IdAllocator} {id : AdhocId} {phase : Phase}
    {history first : List (Numbered.Turn Operation)} {entry : AdhocEntry}
    (opened : phase.OpenSince ⟨ids, empty⟩ history id first)
    (found : ((⟨ids, empty⟩ : Numbered Registry).turns apply history).store.adhoc.get? id =
      some entry) :
    let s := (⟨ids, empty⟩ : Numbered Registry).turns apply history
    ∃ before,
      ((⟨ids, empty⟩ : Numbered Registry).turns apply first).store.adhoc.get? id = some before ∧
      apply s (phase.aborts id) = (.ok .done, ⟨s.ids, { s.store with
        adhoc := s.store.adhoc.insert id { before with client := entry.client } }⟩) := by
  intro s
  obtain ⟨before, mark, client, early, begun, now⟩ := opened.entry
  obtain rfl := Option.some.inj (found.symm.trans now)
  obtain ⟨succeeds, after⟩ := apply_moves found rfl (aborts_undoes begun)
  exact ⟨before, early, Prod.ext (aborts_answer succeeds) after⟩

/-- After any history, a registered storage has a mount path exactly if a deployment on it has been
completed and no teardown since. A deployment may begin exactly if there is no path and no
deployment under way, a teardown exactly if there is a path and no teardown under way; each may be
completed exactly while it is under way. Taken back, it leaves the storage as it was when it began,
with the client that it has now; when it is not under way, nothing changes. A plan carries the mount
path of a storage to tear down, and none for one to deploy. -/
theorem mount_path_follows_deployment (ids : IdAllocator)
    (history : List (Numbered.Turn Operation)) (adhoc : AdhocId) (storage : AdhocStorage) :
    let start : Numbered Registry := ⟨ids, empty⟩
    let s := start.turns apply history
    s.store.adhocStorage adhoc = .ok storage →
      (∀ path, storage.mountPath = some path ↔
        ∃ first, MountedSince start history adhoc path first) ∧
      (s.Succeeds apply (.beginDeploy adhoc) ↔ storage.mountPath = none ∧
        ¬ ∃ first, Phase.deployment.OpenSince start history adhoc first) ∧
      (s.Succeeds apply (.beginTeardown adhoc) ↔ storage.mountPath ≠ none ∧
        ¬ ∃ first, Phase.teardown.OpenSince start history adhoc first) ∧
      (∀ path, s.Succeeds apply (.completeDeploy adhoc path) ↔
        ∃ first, Phase.deployment.OpenSince start history adhoc first) ∧
      (s.Succeeds apply (.completeTeardown adhoc) ↔
        ∃ first, Phase.teardown.OpenSince start history adhoc first) ∧
      (∀ phase : Phase,
        (∀ first, phase.OpenSince start history adhoc first → ∃ before,
          (start.turns apply first).store.adhoc.get? adhoc = some before ∧
          apply s (phase.aborts adhoc) = (.ok .done, ⟨s.ids, { s.store with
            adhoc := s.store.adhoc.insert adhoc { before with client := storage.client } }⟩)) ∧
        ((¬ ∃ first, phase.OpenSince start history adhoc first) →
          apply s (phase.aborts adhoc) = (.ok .done, s))) ∧
      (∀ answer, (apply s (.beginDeploy adhoc)).1 = .ok answer →
        ∃ plan, answer = .plan plan ∧ plan.id = adhoc ∧ plan.mountPath = none) ∧
      ∀ answer, (apply s (.beginTeardown adhoc)).1 = .ok answer →
        ∃ plan path, answer = .plan plan ∧ plan.id = adhoc ∧ plan.mountPath = some path ∧
          storage.mountPath = some path := by
  intro start s registered
  obtain ⟨entry, found, rfl⟩ := adhocStorage_eq_ok.mp registered
  have open_iff : ∀ phase : Phase, phase.Marks entry.deployment ↔
      ∃ first, phase.OpenSince start history adhoc first :=
    fun phase => ((shows_phase adhoc phase).turns ids history).told entry found
  refine ⟨?_, ?_, ?_, ?_, ?_, ?_, ?_, ?_⟩
  · exact fun path => ((shows_mount adhoc path).turns ids history).told entry found
  · rw [← open_iff]
    exact beginDeploy_iff found
  · rw [← open_iff]
    exact beginTeardown_iff found
  · intro path
    rw [← open_iff]
    exact completeDeploy_iff found
  · rw [← open_iff]
    exact completeTeardown_iff found
  · intro phase
    refine ⟨fun first opened => opened.aborted found, fun idle => ?_⟩
    exact Phase.apply_aborts found fun marked => idle ((open_iff phase).mp marked)
  · intro answer begun
    have bare := ((beginDeploy_iff found).mp ⟨answer, begun⟩).1
    exact ⟨_, Phase.begins_plan found .deployment begun, rfl, bare⟩
  · intro answer begun
    have mounted := ((beginTeardown_iff found).mp ⟨answer, begun⟩).1
    obtain ⟨path, shown⟩ := Option.ne_none_iff_exists'.mp mounted
    exact ⟨_, path, Phase.begins_plan found .teardown begun, rfl, shown, shown⟩

/-- A storage keeps its mount path through a teardown that is begun and taken back, with a client
that has come in between. -/
theorem path_outlives_failed_teardown :
    let history : List (Numbered.Turn Operation) := [
      .own (.registerAdhoc "burst" .gekkofs ⟨"ctl:1", "", .separateNew, .readWrite, 60, false⟩
        ⟨[⟨"n01", .regular⟩]⟩),
      .own (.registerJob 10 ⟨[]⟩ ⟨[], [], [], none⟩), .own (.beginDeploy ⟨1⟩), .elsewhere 2,
      .own (.completeDeploy ⟨1⟩ "/mnt/burst"), .own (.beginTeardown ⟨1⟩), .own (.bind ⟨1⟩ ⟨2⟩),
      .own (.abortTeardown ⟨1⟩)]
    let start : Numbered Registry := ⟨.fresh, empty⟩
    let s := start.turns apply history
    (∃ first, MountedSince start history ⟨1⟩ "/mnt/burst" first) ∧
    s.Succeeds apply (.beginTeardown ⟨1⟩) ∧ ¬ s.Succeeds apply (.completeTeardown ⟨1⟩) := by
  intro history start s
  have registered : s.store.adhocStorage ⟨1⟩ = .ok ⟨⟨1⟩, "burst", .gekkofs,
      ⟨"ctl:1", "", .separateNew, .readWrite, 60, false⟩, ⟨[⟨"n01", .regular⟩]⟩, some ⟨2⟩,
      some "/mnt/burst"⟩ := by
    decide +kernel
  have held := mount_path_follows_deployment .fresh history ⟨1⟩ _ registered
  have refused : (apply s (.completeTeardown ⟨1⟩)).1 =
      .error (.invalidState ⟨1⟩ .noTeardown) := by
    decide +kernel
  have idle : ¬ s.Succeeds apply (.completeTeardown ⟨1⟩) := by
    rintro ⟨answer, done⟩
    exact absurd (refused.symm.trans done) (by simp)
  refine ⟨(held.1 "/mnt/burst").mp rfl, held.2.2.1.mpr ⟨by simp, fun under => ?_⟩, idle⟩
  exact idle (held.2.2.2.2.1.mpr under)

end StorageBroker.Registry
