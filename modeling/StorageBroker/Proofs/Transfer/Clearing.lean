import StorageBroker.Proofs.Transfer.Listing

/-! # The lists of the jobs lose nothing and keep nothing stale

After every history the list of a job holds the transfers that were created for the job and not
evicted since, in the order of creation, and nothing else. What cancelling and evicting a job answer
is read off the list of that job, and the lists of the other jobs stay as they are. -/

set_option autoImplicit false

namespace StorageBroker.TransferLedger

open Numbered (turn turns)

/-! ## Cancelling and evicting a job -/

/-- Whether an id is that of a tracked transfer that has not ended. -/
def isLive (l : TransferLedger) (id : TransferId) : Bool :=
  ((l.entries.get? id).map fun entry => !entry.transfer.status.isTerminal).getD false

/-- The live transfers among distinct ids are cancelled once each. -/
theorem cancelLives_count {state : Nat × TransferLedger} (sound : state.2.Sound)
    {ids : List TransferId} (apart : ids.Nodup) :
    (ids.foldl cancelLive state).1 = state.1 + ids.countP state.2.isLive := by
  induction ids generalizing state with
  | nil => rfl
  | cons id rest ih =>
      obtain ⟨unlisted, apart⟩ := List.nodup_cons.mp apart
      have one : (cancelLive state id).1 = state.1 + if state.2.isLive id then 1 else 0 := by
        unfold cancelLive isLive
        cases state.2.entries.get? id with
        | none => rfl
        | some entry => by_cases ended : entry.transfer.status.isTerminal = true <;> simp [ended]
      have others : rest.countP (cancelLive state id).2.isLive = rest.countP state.2.isLive := by
        refine List.countP_congr fun x listed => ?_
        have other : x ≠ id := fun same => unlisted (same ▸ listed)
        rw [isLive, cancelLive_get? sound, if_neg other, isLive]
      rw [List.foldl_cons, ih (cancelLive_preserves_sound sound id) apart, one, others,
        List.countP_cons]
      omega

theorem length_pending (l : TransferLedger) (job : JobId) :
    (l.pending job).length = (l.idsOf job).countP l.isLive := by
  rw [pending, List.length_map, List.length_mergeSort, ← List.countP_eq_length_filter, entriesOf,
    List.countP_filterMap]
  rfl

section

variable {l : TransferLedger} (sound : l.Sound)
include sound

theorem cancelAll_count (single : l.Single) (job : JobId) :
    (l.cancelAll job).1 = (l.pending job).length := by
  rw [cancelAll, cancelLives_count sound (single job), length_pending, Nat.zero_add]

theorem pending_cancelAll (job : JobId) : (l.cancelAll job).2.pending job = [] := by
  refine List.eq_nil_iff_forall_not_mem.mpr fun t listed => ?_
  obtain ⟨tracked, mine, live⟩ := (mem_pending (cancelAll_preserves_sound sound job)).mp listed
  obtain ⟨entry, found, rfl⟩ := transfer_eq_ok.mp tracked
  rw [cancelAll_get? sound, Option.map_eq_some_iff] at found
  obtain ⟨before, -, rfl⟩ := found
  by_cases same : before.transfer.jobId = job
  · rw [if_pos same, LedgerEntry.cancelled_isTerminal] at live
    exact absurd live (by decide)
  · rw [if_neg same] at mine
    exact same mine

/-- As many transfers are evicted with a job as it has ended ones. -/
theorem evictJob_count (job : JobId) :
    (l.evictJob job).1 = (l.transfersFor job).countP fun t => t.status.isTerminal := by
  rw [countP_transfersFor]
  unfold evictJob idsOf
  cases l.byJob.get? job with
  | none => rfl
  | some ids =>
      change ((ids.filter l.entries.contains).filter l.isEnded).length = ids.countP _
      rw [← List.countP_eq_length_filter, List.countP_filter]
      refine List.countP_congr fun id _ => ?_
      cases found : l.entries.get? id with
      | none => simp [Table.contains, found]
      | some entry => simp [Table.contains, found, isEnded_iff sound found]

end

section

variable {s : Numbered TransferLedger} {made : List Transfer} {granted : TransferId → List Int64}
  (orderly : Orderly s) (single : s.store.Single) (recorded : Recorded made granted s)
include orderly single recorded

/-- Cancelling a job takes nothing off the lists. -/
theorem ids_transfersFor_cancelAll (job other : JobId) :
    ((s.store.cancelAll job).2.transfersFor other).map Transfer.id =
      (s.store.transfersFor other).map Transfer.id := by
  have after := ids_transfersFor_pairwise (turn_preserves_orderly orderly (.own (.cancelAll job)))
    (turn_preserves_single orderly single _) (turn_preserves_recorded orderly recorded _) other
  refine after.eq_of_mem_iff (ids_transfersFor_pairwise orderly single recorded other) fun id => ?_
  have sound' := cancelAll_preserves_sound orderly.sound job
  change id ∈ ((s.store.cancelAll job).2.transfersFor other).map Transfer.id ↔ _
  simp only [mem_ids_transfersFor sound', mem_ids_transfersFor orderly.sound, transfer_eq_ok,
    cancelAll_get? orderly.sound]
  cases s.store.entries.get? id with
  | none => simp
  | some entry => by_cases mine : entry.transfer.jobId = job <;> simp [mine]

theorem transfersFor_cancelAll_of_ne {job other : JobId} (apart : other ≠ job) :
    (s.store.cancelAll job).2.transfersFor other = s.store.transfersFor other := by
  refine transfersFor_eq (turn_preserves_orderly orderly (.own (.cancelAll job)))
    (turn_preserves_single orderly single _) (turn_preserves_recorded orderly recorded _)
    (transfersFor_pairwise orderly single recorded other) fun t => ?_
  change _ ↔ (s.store.cancelAll job).2.transfer t.id = .ok t ∧ _
  simp only [mem_transfersFor orderly.sound, transfer_eq_ok, cancelAll_get? orderly.sound]
  refine and_congr_left fun mine => ?_
  cases s.store.entries.get? t.id with
  | none => simp
  | some entry =>
      by_cases same : entry.transfer.jobId = job
      · grind [LedgerEntry.cancelled_jobId]
      · simp [same]

/-- Evicting a job takes exactly its ended transfers off its list. -/
theorem transfersFor_evictJob (job other : JobId) :
    (s.store.evictJob job).2.transfersFor other = (s.store.transfersFor other).filter fun t =>
      !(t.jobId = job && t.status.isTerminal) := by
  refine transfersFor_eq (turn_preserves_orderly orderly (.own (.evictJob job)))
    (turn_preserves_single orderly single _) (turn_preserves_recorded orderly recorded _)
    ((transfersFor_pairwise orderly single recorded other).filter _) fun t => ?_
  change _ ↔ (s.store.evictJob job).2.transfer t.id = .ok t ∧ _
  simp only [List.mem_filter, mem_transfersFor orderly.sound, transfer_eq_ok,
    evictJob_get? orderly.sound, Option.filter_eq_some_iff]
  grind

end

/-! ## Creations and evictions of a history -/

/-- An eviction of its job has found a transfer ended. -/
def Evicted (ids : IdAllocator) (history : List Turn) (id : TransferId) : Prop :=
  ∃ first rest t, history = first ++ .own (.evictJob t.jobId) :: rest ∧
    (turns apply ⟨ids, empty⟩ first).store.transfer id = .ok t ∧ t.status.isTerminal = true

theorem mem_gather {α : Type} {give : Numbered TransferLedger → Turn → Option α}
    {s : Numbered TransferLedger} {history : List Turn} {a : α} (given : a ∈ gather give s history) :
    ∃ first next rest, history = first ++ next :: rest ∧ give (turns apply s first) next = some a := by
  induction history generalizing s with
  | nil => exact nomatch given
  | cons next rest ih =>
      rcases List.mem_append.mp given with now | later
      · exact ⟨[], next, rest, rfl, Option.mem_toList.mp now⟩
      · obtain ⟨first, turn, last, split, given⟩ := ih later
        exact ⟨next :: first, turn, last, congrArg _ split, given⟩

/-- A transfer is tracked as soon as it has been created. -/
theorem tracked_of_created? {s : Numbered TransferLedger} {next : Turn} {t : Transfer}
    (new : created? s next = some t) : (turn apply s next).store.transfer t.id = .ok t := by
  cases next with
  | elsewhere drawn => simp [created?] at new
  | own operation =>
      cases operation with
      | create job sources targets limits mapping =>
          simp only [created?, turn, apply] at new ⊢
          rcases create_outcome s job sources targets limits mapping with
            ⟨e, refused⟩ | ⟨raw, ids, t', -, -, same, done⟩
          · rw [refused] at new
            simp [Except.toOption] at new
          · rw [done] at new ⊢
            obtain rfl := Option.some.inj new
            subst same
            exact transfer_eq_ok.mpr ⟨_, by rw [Table.get?_insert, if_pos rfl], rfl⟩
      | _ => simp [created?] at new

section

variable (ids : IdAllocator) (history : List Turn)

theorem untracked_of_evicted {id : TransferId} (evicted : Evicted ids history id) :
    (turns apply ⟨ids, empty⟩ history).store.transfer id = .error (.notFound id) := by
  obtain ⟨first, rest, t, rfl, tracked, ended⟩ := evicted
  have orderly := turns_preserve_orderly (orderly_empty ids) first
  obtain ⟨entry, found, rfl⟩ := transfer_eq_ok.mp tracked
  have gone : ((turns apply ⟨ids, empty⟩ first).store.evictJob entry.transfer.jobId).2.transfer id =
      .error (.notFound id) :=
    transfer_eq_notFound.mpr (evictJob_drops orderly.sound found ended)
  have spent := orderly.issued id (by simp [found])
  rw [Numbered.turns_append]
  exact turns_keep_untracked
    (turn_preserves_orderly orderly (.own (.evictJob entry.transfer.jobId))) rest spent gone

/-- What was created is tracked, or an eviction of its job has found it ended. -/
theorem tracked_or_evicted {t : Transfer} (listed : t ∈ creations ⟨ids, empty⟩ history) :
    (∃ now, (turns apply ⟨ids, empty⟩ history).store.transfer t.id = .ok now ∧ t.SameTask now) ∨
    Evicted ids history t.id := by
  obtain ⟨first, next, rest, rfl, new⟩ := mem_gather listed
  have orderly := turns_preserve_orderly (orderly_empty ids) (first ++ [next])
  have through (rest : List Turn) : turns apply ⟨ids, empty⟩ (first ++ next :: rest) =
      turns apply (turns apply ⟨ids, empty⟩ (first ++ [next])) rest := by
    rw [← Numbered.turns_append, List.append_assoc]
    rfl
  have tracked : (turns apply ⟨ids, empty⟩ (first ++ [next])).store.transfer t.id = .ok t := by
    rw [Numbered.turns_concat]
    exact tracked_of_created? new
  cases course orderly rest tracked with
  | tracked now found later => exact .inl ⟨now, through rest ▸ found, later.task⟩
  | evicted before after last split found later ended gone =>
      refine .inr ⟨first ++ next :: before, after, last, ?_, through before ▸ found, ended⟩
      rw [split, later.task.jobId, List.append_assoc]
      rfl

end

/-! ## The index after any history -/

/-- The list of a job holds what a history has created for the job and not evicted, each transfer
once and as it is now, in the order of creation. -/
structure Listed (ids : IdAllocator) (history : List Turn) (job : JobId) : Prop where
  ordered : (((turns apply ⟨ids, empty⟩ history).store.transfersFor job).map Transfer.id).Sublist
    ((creations ⟨ids, empty⟩ history).map Transfer.id)
  nodup : (((turns apply ⟨ids, empty⟩ history).store.transfersFor job).map Transfer.id).Nodup
  complete : ∀ t ∈ creations ⟨ids, empty⟩ history,
    t.id ∈ ((turns apply ⟨ids, empty⟩ history).store.transfersFor job).map Transfer.id ↔
      t.jobId = job ∧ ¬ Evicted ids history t.id
  current : ∀ t ∈ (turns apply ⟨ids, empty⟩ history).store.transfersFor job,
    (turns apply ⟨ids, empty⟩ history).store.transfer t.id = .ok t ∧
      ∃ first ∈ creations ⟨ids, empty⟩ history, first.SameTask t

/-- Cancelling a job answers how many transfers it had pending and leaves none pending; all stay
on their lists. -/
structure Cancels (l : TransferLedger) (job : JobId) : Prop where
  answer : (l.cancelAll job).1 = (l.pending job).length
  pending : (l.cancelAll job).2.pending job = []
  listed : ∀ other, ((l.cancelAll job).2.transfersFor other).map Transfer.id =
    (l.transfersFor other).map Transfer.id
  others : ∀ other ≠ job, (l.cancelAll job).2.transfersFor other = l.transfersFor other

/-- Evicting a job answers how many of its transfers had ended and drops exactly those. -/
structure Evicts (l : TransferLedger) (job : JobId) : Prop where
  answer : (l.evictJob job).1 = (l.transfersFor job).countP fun t => t.status.isTerminal
  mine : (l.evictJob job).2.transfersFor job =
    (l.transfersFor job).filter fun t => !t.status.isTerminal
  others : ∀ other ≠ job, (l.evictJob job).2.transfersFor other = l.transfersFor other
  gone : ∀ t ∈ l.transfersFor job, t.status.isTerminal = true →
    (l.evictJob job).2.transfer t.id = .error (.notFound t.id)
  kept : ∀ id, (∀ t ∈ l.transfersFor job, t.id = id → t.status.isTerminal = false) →
    (l.evictJob job).2.transfer id = l.transfer id

/-- Cancelling a job and then evicting it drops its whole list and nothing else. -/
structure Drops (l : TransferLedger) (job : JobId) : Prop where
  answer : ((l.cancelAll job).2.evictJob job).1 = (l.transfersFor job).length
  none : (l.dropJob job).transfersFor job = []
  others : ∀ other ≠ job, (l.dropJob job).transfersFor other = l.transfersFor other
  count : (l.dropJob job).count + (l.transfersFor job).length = l.count

theorem listed (ids : IdAllocator) (history : List Turn) (job : JobId) :
    Listed ids history job := by
  have orderly := turns_preserve_orderly (orderly_empty ids) history
  have single := turns_preserve_single (orderly_empty ids) single_empty history
  have recorded := turns_recorded ids history
  refine ⟨ids_transfersFor_sublist orderly single recorded job,
    transfersFor_nodup orderly.sound single job, ?_, ?_⟩
  · intro t made
    rw [mem_ids_transfersFor orderly.sound]
    rcases tracked_or_evicted ids history made with ⟨now, tracked, task⟩ | evicted
    · have kept : ¬ Evicted ids history t.id := by
        intro evicted
        have gone := untracked_of_evicted ids history evicted
        rw [tracked] at gone
        exact nomatch gone
      simp [tracked, kept, task.jobId]
    · simp [untracked_of_evicted ids history evicted, evicted]
  · intro t listed
    obtain ⟨tracked, -⟩ := (mem_transfersFor orderly.sound).mp listed
    refine ⟨tracked, ?_⟩
    obtain ⟨entry, found, rfl⟩ := transfer_eq_ok.mp tracked
    obtain ⟨first, place, task⟩ := recorded.placed _ entry found
    exact ⟨first, List.mem_of_getElem? place, task⟩

section

variable {s : Numbered TransferLedger} {made : List Transfer} {granted : TransferId → List Int64}
  (orderly : Orderly s) (single : s.store.Single) (recorded : Recorded made granted s)
include orderly single recorded

theorem cancels (job : JobId) : Cancels s.store job where
  answer := cancelAll_count orderly.sound single job
  pending := pending_cancelAll orderly.sound job
  listed := ids_transfersFor_cancelAll orderly single recorded job
  others _ apart := transfersFor_cancelAll_of_ne orderly single recorded apart

theorem evicts (job : JobId) : Evicts s.store job where
  answer := evictJob_count orderly.sound job
  mine := by
    rw [transfersFor_evictJob orderly single recorded]
    refine List.filter_congr fun t listed => ?_
    simp [((mem_transfersFor orderly.sound).mp listed).2]
  others := by
    intro other apart
    rw [transfersFor_evictJob orderly single recorded]
    refine List.filter_eq_self.mpr fun t listed => ?_
    simp [((mem_transfersFor orderly.sound).mp listed).2, apart]
  gone := by
    intro t listed ended
    obtain ⟨tracked, rfl⟩ := (mem_transfersFor orderly.sound).mp listed
    obtain ⟨entry, found, rfl⟩ := transfer_eq_ok.mp tracked
    exact transfer_eq_notFound.mpr (evictJob_drops orderly.sound found ended)
  kept := by
    intro id live
    have same : (s.store.evictJob job).2.entries.get? id = s.store.entries.get? id := by
      rw [evictJob_get? orderly.sound]
      cases found : s.store.entries.get? id with
      | none => rfl
      | some entry =>
          have named := orderly.sound.filed id entry found
          rw [Option.filter_some]
          by_cases mine : entry.transfer.jobId = job
          · have tracked := transfer_eq_ok.mpr ⟨entry, found, rfl⟩
            rw [← named] at tracked
            simp [live _ ((mem_transfersFor orderly.sound).mpr ⟨tracked, mine⟩) named]
          · simp [mine]
    rw [transfer, transfer, same]

theorem drops (job : JobId) : Drops s.store job := by
  -- a job is evicted once all its transfers have ended
  have orderly' := turn_preserves_orderly orderly (.own (.cancelAll job))
  have single' := turn_preserves_single orderly single (.own (.cancelAll job))
  have cancelled := cancels orderly single recorded job
  have evicted := evicts orderly' single'
    (turn_preserves_recorded orderly recorded (.own (.cancelAll job))) job
  change Evicts (s.store.cancelAll job).2 job at evicted
  have ended : ∀ t ∈ (s.store.cancelAll job).2.transfersFor job, t.status.isTerminal = true := by
    intro t listed
    obtain ⟨tracked, mine⟩ := (mem_transfersFor orderly'.sound).mp listed
    by_contra live
    have waits := (mem_pending orderly'.sound).mpr ⟨tracked, mine, Bool.not_eq_true _ ▸ live⟩
    change t ∈ (s.store.cancelAll job).2.pending job at waits
    rw [cancelled.pending] at waits
    exact nomatch waits
  have none : (s.store.dropJob job).transfersFor job = [] := by
    rw [dropJob, evicted.mine, List.filter_eq_nil_iff]
    intro t listed
    simp [ended t listed]
  have others : ∀ other ≠ job,
      (s.store.dropJob job).transfersFor other = s.store.transfersFor other := by
    intro other apart
    rw [dropJob, evicted.others other apart, cancelled.others other apart]
  refine ⟨?_, none, others, ?_⟩
  · have same := congrArg List.length (cancelled.listed job)
    rw [List.length_map, List.length_map] at same
    rw [evicted.answer, List.countP_eq_length.mpr ended, same]
  · have single'' : (s.store.dropJob job).Single := evictJob_preserves_single single' job
    have total := count_add_length orderly.sound (dropJob_preserves_sound orderly.sound job)
      single single'' others
    rwa [none] at total

end

/-- After any history, the list of each job holds the transfers that were created for it and not
evicted since, in the order of creation, and the lists of all jobs add up to the number of
transfers tracked. Cancelling a job answers how many of them were pending and leaves none pending;
evicting it drops those that have ended; both together drop its whole list. -/
theorem lists_are_complete_and_current (ids : IdAllocator) (history : List Turn) :
    let l := (turns apply ⟨ids, empty⟩ history).store
    let owners := (creations ⟨ids, empty⟩ history).map Transfer.jobId
    (∀ job, Listed ids history job ∧ Cancels l job ∧ Evicts l job ∧ Drops l job) ∧
    l.count = ∑ job ∈ owners.toFinset, (l.transfersFor job).length ∧
    ∀ job ∉ owners, l.transfersFor job = [] := by
  intro l owners
  have orderly := turns_preserve_orderly (orderly_empty ids) history
  have single := turns_preserve_single (orderly_empty ids) single_empty history
  have recorded := turns_recorded ids history
  refine ⟨fun job => ⟨listed ids history job, cancels orderly single recorded job,
    evicts orderly single recorded job, drops orderly single recorded job⟩, ?_, ?_⟩
  · refine count_eq_sum orderly.sound single fun job listed => ?_
    obtain ⟨id, entry, found, rfl⟩ := exists_of_mem_owners listed
    obtain ⟨first, place, task⟩ := recorded.placed id entry found
    rw [List.mem_toFinset, task.jobId]
    exact List.mem_map_of_mem (List.mem_of_getElem? place)
  · intro job unknown
    refine List.eq_nil_iff_forall_not_mem.mpr fun t present => unknown ?_
    obtain ⟨-, first, made, task⟩ := (listed ids history job).current t present
    rw [← ((mem_transfersFor orderly.sound).mp present).2, task.jobId]
    exact List.mem_map_of_mem made

end StorageBroker.TransferLedger
