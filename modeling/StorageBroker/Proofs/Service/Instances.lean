import StorageBroker.Proofs.Service.Begun
import StorageBroker.Proofs.Service.MountRecord

/-! # The instances that controllers run

A controller that deploys a storage starts an instance of it, and one that tears the storage down
ends the instance. The registry remembers an instance as the mount path of its storage. Whatever
happens, the deployments of a storage are its teardowns, the instance that the registry remembers,
and those that went out of memory because their storage was removed while it was deployed. -/

set_option autoImplicit false

namespace StorageBroker

namespace MountRecord

def deploys (adhoc : AdhocId) (works : List MountRecord) : Nat :=
  works.countP fun work => work.storage = adhoc && work.mountPath.isSome

/-- How often a storage has been torn down. -/
def teardowns (adhoc : AdhocId) (works : List MountRecord) : Nat :=
  works.countP fun work => work.storage = adhoc && work.mountPath.isNone

theorem deploys_append (adhoc : AdhocId) (first last : List MountRecord) :
    deploys adhoc (first ++ last) = deploys adhoc first + deploys adhoc last :=
  List.countP_append

theorem teardowns_append (adhoc : AdhocId) (first last : List MountRecord) :
    teardowns adhoc (first ++ last) = teardowns adhoc first + teardowns adhoc last :=
  List.countP_append

theorem counts_of_other {adhoc : AdhocId} {work : MountRecord} (other : work.storage ≠ adhoc) :
    deploys adhoc [work] = 0 ∧ teardowns adhoc [work] = 0 := by
  simp [deploys, teardowns, other]

end MountRecord

/-- Whether the registry remembers an instance of a storage. -/
def Registry.isMounted (r : Registry) (adhoc : AdhocId) : Bool := (r.mount? adhoc).join.isSome

namespace Machine

/-- What a controller has done when an event says so: it has deployed a storage, which has a mount
path from then on, or it has torn one down. -/
def done? (m : Machine) : Event → Option MountRecord
  | .answer id (.ok path) =>
    match m.waiting.get? id with
    | some (.deploying plan _) => some ⟨plan.id, some path⟩
    | some (.tearingDown plan _ _) => some ⟨plan.id, none⟩
    | _ => none
  | _ => none

/-- What controllers have done during a history. -/
def done (m : Machine) : List Event → List MountRecord
  | [] => []
  | event :: rest => (m.done? event).toList ++ (m.step event).done rest

def lost? (m : Machine) : Event → Option AdhocId
  | .call (.request (.removeAdhocStorage adhoc caller)) =>
    match (m.service.registry.removeAdhoc adhoc caller).1 with
    | .ok storage => if storage.isDeployed then some adhoc else none
    | .error _ => none
  | _ => none

/-- The storages removed during a history while they were deployed. -/
def lost (m : Machine) : List Event → List AdhocId
  | [] => []
  | event :: rest => (m.lost? event).toList ++ (m.step event).lost rest

theorem lost_append (m : Machine) (before after : List Event) :
    m.lost (before ++ after) = m.lost before ++ (m.run before).lost after :=
  collect_append (fun _ => rfl) (fun _ _ _ => rfl) m before after

/-! ## One event -/

/-- The registry accepts what a controller has done. -/
theorem recorded?_eq_done? {m : Machine} (inHand : InHand m) (event : Event) :
    m.recorded? event = m.done? event := by
  have held : ∀ {id wait work}, m.waiting.get? id = some wait → wait.work? = some work →
      m.service.registry.inFlight? work.storage = some work := by
    intro id wait work waits works
    exact inHand.held id work (by rw [work?, waits, Option.bind_some, works])
  cases event with
  | call call | wake id | expire id => rfl
  | answer id result =>
      cases result with
      | error e => rfl
      | ok path =>
          cases waits : m.waiting.get? id with
          | none => simp only [recorded?, done?, waits]
          | some wait =>
              cases wait with
              | deploying plan address =>
                  have shown := @held id _ (.deploy plan) waits rfl
                  obtain ⟨storage, r', completed, -⟩ := Registry.completeDeploy_ok shown path
                  have accepted : m.service.registry.completeDeploy plan.id path =
                      (.ok storage, r') := completed
                  simp only [recorded?, done?, waits, accepted]
              | tearingDown plan address origin =>
                  have shown := @held id _ (.teardown plan) waits rfl
                  obtain ⟨storage, r', completed, -⟩ := Registry.completeTeardown_ok shown
                  have accepted : m.service.registry.completeTeardown plan.id =
                      (.ok storage, r') := completed
                  simp only [recorded?, done?, waits, accepted]
              | locatingForDeploy plan hostname | locatingForTeardown plan hostname origin
              | dispatching transfer address | awaiting transfer budgetMs
              | finalizing job operation transfer => simp only [recorded?, done?, waits]

/-- Only the removal of a storage unregisters it. -/
theorem Step.keeps_adhoc {m m' : Machine} {event : Event} (step : Step m event m')
    (orderly : m.service.Orderly) {adhoc : AdhocId}
    (stays : ∀ caller, event ≠ .call (.request (.removeAdhocStorage adhoc caller)))
    (registered : (m.service.registry.adhoc.get? adhoc).isSome) :
    (m'.service.registry.adhoc.get? adhoc).isSome := by
  rcases step.begun with steady | ⟨call, rfl, begun⟩
  · exact steady.adhoc adhoc registered
  · refine begun.keeps_adhoc orderly (fun caller same => ?_) registered
    exact stays caller (congrArg Event.call same)

end Machine

theorem Registry.isSome_mount? {r : Registry} {adhoc : AdhocId} :
    (r.mount? adhoc).isSome = (r.adhoc.get? adhoc).isSome :=
  Option.isSome_map

namespace Service

/-- A storage that is not worked on and stays registered stays mounted or not. -/
theorem Records.isMounted_eq {record : Option MountRecord} {s s' : Service}
    (records : s.Records record s') {adhoc : AdhocId}
    (apart : record.map MountRecord.storage ≠ some adhoc)
    (stays : (s.registry.adhoc.get? adhoc).isSome → (s'.registry.adhoc.get? adhoc).isSome) :
    s'.registry.isMounted adhoc = s.registry.isMounted adhoc := by
  rw [← Registry.isSome_mount?, ← Registry.isSome_mount?] at stays
  have other : ∀ made, record = some made → made.storage ≠ adhoc := by
    rintro made rfl same
    exact apart (congrArg some same)
  unfold Registry.isMounted
  cases after : s'.registry.mount? adhoc with
  | none =>
      cases before : s.registry.mount? adhoc with
      | none => rfl
      | some path =>
          rw [before, after] at stays
          exact absurd (stays rfl) (by simp)
  | some path =>
      rcases records.after adhoc path after with
        ⟨made, same, here, -⟩ | ⟨-, before | ⟨before, rfl, -⟩⟩
      · exact absurd here (other made same)
      · rw [before]
      · rw [before]
        rfl

/-- A storage that is worked on changes between mounted and not. -/
theorem Records.isMounted_made {made : MountRecord} {s s' : Service}
    (records : s.Records (some made) s')
    (stays : (s.registry.adhoc.get? made.storage).isSome →
      (s'.registry.adhoc.get? made.storage).isSome) :
    s.registry.isMounted made.storage = !made.mountPath.isSome ∧
      s'.registry.isMounted made.storage = made.mountPath.isSome := by
  obtain ⟨before, was, turns⟩ := records.turn made rfl
  rw [← Registry.isSome_mount?, ← Registry.isSome_mount?, was] at stays
  obtain ⟨path, now⟩ := Option.isSome_iff_exists.mp (stays rfl)
  unfold Registry.isMounted
  rw [was, now]
  refine ⟨?_, ?_⟩
  · exact Bool.eq_not.mpr turns
  · rcases records.after made.storage path now with ⟨other, same, -, rfl⟩ | ⟨apart, -⟩
    · obtain rfl := Option.some.inj same
      rfl
    · exact absurd rfl apart

end Service

namespace Machine

theorem removal_of_lost? {m : Machine} {event : Event} {adhoc : AdhocId}
    (lost : m.lost? event = some adhoc) :
    ∃ caller, event = .call (.request (.removeAdhocStorage adhoc caller)) := by
  unfold lost? at lost
  split at lost
  · rename_i target caller
    split at lost
    · split at lost
      · obtain rfl := Option.some.inj lost
        exact ⟨caller, rfl⟩
      · exact absurd lost (by simp)
    · exact absurd lost (by simp)
  · exact absurd lost (by simp)

/-- What a removal makes of the storage that it is about. -/
theorem removal_balance (m : Machine) (adhoc : AdhocId) (caller : Option JobId) :
    let event : Event := .call (.request (.removeAdhocStorage adhoc caller))
    (m.service.registry.isMounted adhoc).toNat =
      ((m.step event).service.registry.isMounted adhoc).toNat +
        (m.lost? event).toList.count adhoc := by
  intro event
  have after : (m.step event).service.registry =
      (m.service.registry.removeAdhoc adhoc caller).2 := by
    change (Machine.settle _ _ _).service.registry = _
    rw [settle_service]
    rfl
  rw [after]
  simp only [event, lost?]
  rcases m.service.registry.removeAdhoc_outcome adhoc caller with
    ⟨e, refused⟩ | ⟨entry, found, -, done⟩
  · rw [refused]
    rfl
  · have erased : Registry.isMounted (m.service.registry.removeAdhoc adhoc caller).2 adhoc =
        false := by
      rw [done, Registry.isMounted, Registry.mount?, Table.get?_erase, if_pos rfl]
      rfl
    have before : m.service.registry.isMounted adhoc = (entry.view adhoc).isDeployed := by
      rw [Registry.isMounted, Registry.mount?, found]
      rfl
    rw [erased, before, done]
    cases up : (entry.view adhoc).isDeployed <;> simp [up]

/-- In one event, the instances of a storage that the registry remembers are those of before, one
more for a deployment, one less for a teardown or for the removal of a deployed storage. -/
theorem Step.balance {m : Machine} {event : Event} (step : Step m event (m.step event))
    (orderly : m.service.Orderly) (inHand : InHand m) (adhoc : AdhocId) :
    (m.service.registry.isMounted adhoc).toNat + MountRecord.deploys adhoc (m.done? event).toList =
      ((m.step event).service.registry.isMounted adhoc).toNat +
        MountRecord.teardowns adhoc (m.done? event).toList +
        (m.lost? event).toList.count adhoc := by
  have records := step.records orderly inHand
  rw [recorded?_eq_done? inHand] at records
  by_cases removal : ∃ caller, event = .call (.request (.removeAdhocStorage adhoc caller))
  · obtain ⟨caller, rfl⟩ := removal
    exact m.removal_balance adhoc caller
  · have stays := step.keeps_adhoc orderly fun caller same => removal ⟨caller, same⟩
    have spared : (m.lost? event).toList.count adhoc = 0 := by
      rw [List.count_eq_zero, Option.mem_toList]
      exact fun lost => removal (removal_of_lost? lost)
    rw [spared, Nat.add_zero]
    cases did : m.done? event with
    | none =>
        rw [did] at records
        rw [records.isMounted_eq (by simp) stays]
        rfl
    | some made =>
        rw [did] at records
        by_cases here : made.storage = adhoc
        · subst here
          obtain ⟨before, after⟩ := records.isMounted_made stays
          rw [before, after]
          cases up : made.mountPath with
          | none => simp [MountRecord.deploys, MountRecord.teardowns, up]
          | some path => simp [MountRecord.deploys, MountRecord.teardowns, up]
        · rw [records.isMounted_eq (by simpa using here) stays]
          obtain ⟨none, nothing⟩ := MountRecord.counts_of_other here
          rw [Option.toList_some, none, nothing]

/-! ## Whole runs -/

theorem run_balance {m : Machine} (tidy : Tidy m) (orderly : m.service.Orderly)
    (inHand : InHand m) (history : List Event) (adhoc : AdhocId) :
    (m.service.registry.isMounted adhoc).toNat + MountRecord.deploys adhoc (m.done history) =
      ((m.run history).service.registry.isMounted adhoc).toNat +
        MountRecord.teardowns adhoc (m.done history) + (m.lost history).count adhoc := by
  induction history generalizing m with
  | nil => rfl
  | cons event rest ih =>
      have step := m.step_step event
      have now := step.balance orderly inHand adhoc
      have later := ih (step.preserves_tidy tidy) (step.changes.preserve_orderly orderly)
        (step.preserves_inHand tidy orderly inHand)
      have ran : m.run (event :: rest) = (m.step event).run rest := rfl
      rw [ran, done, lost, MountRecord.deploys_append, MountRecord.teardowns_append,
        List.count_append]
      omega

/-- The deployments of a storage are its teardowns, the instance that the registry remembers, and
the instances that went out of memory with the removal of the storage. -/
theorem run_instances (config : ServiceConfig) (history : List Event) (adhoc : AdhocId) :
    MountRecord.deploys adhoc ((fresh config).done history) =
      MountRecord.teardowns adhoc ((fresh config).done history) +
        ((fresh config).lost history).count adhoc +
        (((fresh config).run history).service.registry.isMounted adhoc).toNat := by
  have balance := run_balance (tidy_fresh config) (Service.orderly_fresh config)
    (inHand_fresh config) history adhoc
  have nothing : ((fresh config).service.registry.isMounted adhoc).toNat = 0 := rfl
  omega

end Machine

end StorageBroker
