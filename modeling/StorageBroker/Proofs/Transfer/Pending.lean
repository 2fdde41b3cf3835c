import Mathlib.Data.List.Nodup
import StorageBroker.Proofs.Transfer.Record

/-! # The transfers that are pending

The index lists each transfer of a job once, so after every history the pending transfers of a job
are exactly those that were created for it and have not ended, each listed once. They come by
descending priority, and those of one priority in the order in which they were created. -/

set_option autoImplicit false

namespace StorageBroker.TransferLedger

open Numbered (turn turns)

/-! ## The index lists a transfer once -/

def Single (l : TransferLedger) : Prop :=
  ∀ job, (l.idsOf job).Nodup

theorem single_empty : Single empty :=
  fun _ => .nil

theorem evictJob_preserves_single {l : TransferLedger} (single : l.Single) (job : JobId) :
    (l.evictJob job).2.Single := by
  intro other
  have before := single other
  unfold evictJob
  cases rows : l.byJob.get? job with
  | none => exact before
  | some ids =>
      simp only [idsOf] at before ⊢
      by_cases same : other = job
      · subst same
        rw [rows, Option.getD_some] at before
        split
        · rw [Table.get?_erase, if_pos rfl]
          exact .nil
        · rw [Table.get?_insert, if_pos rfl, Option.getD_some]
          exact (before.filter _).filter _
      · split
        · rwa [Table.get?_erase, if_neg same]
        · rwa [Table.get?_insert, if_neg same]

theorem cancelAll_preserves_single {l : TransferLedger} (single : l.Single) (job : JobId) :
    (l.cancelAll job).2.Single := by
  intro other
  rw [idsOf, cancelAll, (cancelLives_places (0, l) _).1]
  exact single other

theorem dropJob_preserves_single {l : TransferLedger} (single : l.Single) (job : JobId) :
    (l.dropJob job).Single :=
  evictJob_preserves_single (cancelAll_preserves_single single job) job

theorem Effect.preserves_single {owner : Option JobId} {s s' : Numbered TransferLedger}
    (effect : Effect owner s s') (issued : KeysIssued TransferId.raw s.ids.issued s.store.entries)
    (sound : s.store.Sound) (single : s.store.Single) : s'.store.Single := by
  cases effect with
  | nothing | rewritten found live task stays | moved found live task forward => exact single
  | @created raw ids transfer asked drawn numbered pending =>
      intro job
      have unused := issued.fresh drawn (k := ⟨raw⟩) rfl
      have unlisted : ⟨raw⟩ ∉ s.store.idsOf transfer.jobId := by
        rw [sound.indexed]
        simp [unused]
      have before := single job
      simp only [idsOf, Table.get?_insert] at before unlisted ⊢
      by_cases same : job = transfer.jobId
      · subst same
        rw [if_pos rfl, Option.getD_some]
        exact List.nodup_append.mpr ⟨before, by simp, by grind⟩
      · rwa [if_neg same]

section

variable {s : Numbered TransferLedger} (orderly : Orderly s)
include orderly

theorem turn_preserves_single (single : s.store.Single) (next : Turn) :
    (turn apply s next).store.Single := by
  rcases turn_outcome s next with
    ⟨owner, effect⟩ | ⟨job, -, swept⟩ | ⟨job, -, swept⟩ | ⟨ids, -, drawn⟩
  · exact effect.preserves_single orderly.issued orderly.sound single
  · rw [swept]
    exact cancelAll_preserves_single single job
  · rw [swept]
    exact evictJob_preserves_single single job
  · rw [drawn]
    exact single

theorem turns_preserve_single (single : s.store.Single) (history : List Turn) :
    (turns apply s history).store.Single := by
  induction history generalizing s with
  | nil => exact single
  | cons next rest ih =>
      exact ih (turn_preserves_orderly orderly next) (turn_preserves_single orderly single next)

end

/-! ## What is listed -/

section

variable {l : TransferLedger} (sound : l.Sound)
include sound

theorem mem_entriesOf {job : JobId} {entry : LedgerEntry} :
    entry ∈ l.entriesOf job ↔
      l.entries.get? entry.transfer.id = some entry ∧ entry.transfer.jobId = job := by
  unfold entriesOf
  rw [List.mem_filterMap]
  constructor
  · rintro ⟨id, listed, found⟩
    obtain ⟨same, known, mine⟩ := (sound.indexed id job).mp listed
    obtain rfl := Option.some.inj (known.symm.trans found)
    exact ⟨(sound.filed id same found).symm ▸ found, mine⟩
  · rintro ⟨found, mine⟩
    exact ⟨_, (sound.indexed _ job).mpr ⟨entry, found, mine⟩, found⟩

/-- No transfer is listed twice among the entries of a job. -/
theorem entriesOf_apart (single : l.Single) (job : JobId) :
    (l.entriesOf job).Pairwise fun a b => a.transfer.id ≠ b.transfer.id := by
  refine List.Pairwise.filterMap l.entries.get? ?_ (single job)
  intro id id' apart entry found entry' found' same
  rw [sound.filed id entry found, sound.filed id' entry' found'] at same
  exact apart same

end

/-! ## The order of the listing -/

theorem listedBefore_iff {a b : LedgerEntry} : listedBefore a b = true ↔
    b.transfer.priority.toInt < a.transfer.priority.toInt ∨
    (a.transfer.priority = b.transfer.priority ∧ a.order ≤ b.order) := by
  simp [listedBefore]

theorem listedBefore_trans (a b c : LedgerEntry) (ab : listedBefore a b = true)
    (bc : listedBefore b c = true) : listedBefore a c = true := by
  rw [listedBefore_iff] at ab bc ⊢
  rcases ab with higher | ⟨same, earlier⟩
  · rcases bc with higher' | ⟨same', -⟩
    · exact .inl (Int.lt_trans higher' higher)
    · exact .inl (same' ▸ higher)
  · rcases bc with higher' | ⟨same', earlier'⟩
    · exact .inl (same ▸ higher')
    · exact .inr ⟨same.trans same', Nat.le_trans earlier earlier'⟩

theorem listedBefore_total (a b : LedgerEntry) :
    (listedBefore a b || listedBefore b a) = true := by
  rw [Bool.or_eq_true, listedBefore_iff, listedBefore_iff]
  rcases Int.lt_trichotomy a.transfer.priority.toInt b.transfer.priority.toInt with
    lower | same | higher
  · exact .inr (.inl lower)
  · have same := Int64.toInt_inj.mp same
    rcases Nat.le_total a.order b.order with earlier | later
    · exact .inl (.inr ⟨same, earlier⟩)
    · exact .inr (.inr ⟨same.symm, later⟩)
  · exact .inl (.inl higher)

/-- One transfer is listed before another if its priority is higher, or if it has the same one and
was created earlier. -/
def Precedes (made : List Transfer) (a b : Transfer) : Prop :=
  b.priority.toInt < a.priority.toInt ∨
  (a.priority = b.priority ∧
    (made.map Transfer.id).idxOf a.id < (made.map Transfer.id).idxOf b.id)

section

variable {s : Numbered TransferLedger} {made : List Transfer} {granted : TransferId → List Int64}
  (recorded : Recorded made granted s)
include recorded

theorem Recorded.nodup : (made.map Transfer.id).Nodup := by
  refine List.pairwise_map.mpr (recorded.rising.imp ?_)
  intro a b rises same
  rw [same] at rises
  exact Nat.lt_irrefl _ rises

/-- The place of a tracked transfer is its place among the created ones. -/
theorem Recorded.idxOf (sound : s.store.Sound) {id : TransferId} {entry : LedgerEntry}
    (found : s.store.entries.get? id = some entry) :
    (made.map Transfer.id).idxOf id = entry.order := by
  obtain ⟨t, place, task⟩ := recorded.placed id entry found
  have place' : (made.map Transfer.id)[entry.order]? = some id := by
    rw [List.getElem?_map, place, Option.map_some, ← task.id, sound.filed id entry found]
  obtain ⟨within, named⟩ := List.getElem?_eq_some_iff.mp place'
  rw [← named, recorded.nodup.idxOf_getElem entry.order within]

/-- Two tracked transfers that are listed in order are in order by priority and creation. -/
theorem Recorded.precedes (sound : s.store.Sound) {a b : LedgerEntry}
    (first : s.store.entries.get? a.transfer.id = some a)
    (second : s.store.entries.get? b.transfer.id = some b)
    (listed : listedBefore a b = true) (apart : a.transfer.id ≠ b.transfer.id) :
    Precedes made a.transfer b.transfer := by
  rcases listedBefore_iff.mp listed with higher | ⟨same, earlier⟩
  · exact .inl higher
  · refine .inr ⟨same, ?_⟩
    have left := recorded.idxOf sound first
    have right := recorded.idxOf sound second
    have differ : a.order ≠ b.order := by
      intro tie
      obtain ⟨t, place, task⟩ := recorded.placed _ a first
      obtain ⟨t', place', task'⟩ := recorded.placed _ b second
      rw [tie] at place
      obtain rfl := Option.some.inj (place.symm.trans place')
      exact apart (task.id.trans task'.id.symm)
    omega

end

/-! ## The listing after any history -/

/-- The entries of the pending transfers of a job, as they are listed. -/
def listing (l : TransferLedger) (job : JobId) : List LedgerEntry :=
  ((l.entriesOf job).filter fun entry => !entry.transfer.status.isTerminal).mergeSort listedBefore

theorem pending_eq_map (l : TransferLedger) (job : JobId) :
    l.pending job = (l.listing job).map LedgerEntry.transfer :=
  rfl

section

variable {l : TransferLedger} (sound : l.Sound)
include sound

theorem mem_listing {job : JobId} {entry : LedgerEntry} :
    entry ∈ l.listing job ↔ l.entries.get? entry.transfer.id = some entry ∧
      entry.transfer.jobId = job ∧ entry.transfer.status.isTerminal = false := by
  simp [listing, mem_entriesOf sound, and_assoc]

theorem mem_pending {job : JobId} {t : Transfer} :
    t ∈ l.pending job ↔
      l.transfer t.id = .ok t ∧ t.jobId = job ∧ t.status.isTerminal = false := by
  rw [pending_eq_map, List.mem_map, transfer_eq_ok]
  constructor
  · rintro ⟨entry, listed, rfl⟩
    obtain ⟨found, mine, live⟩ := (mem_listing sound).mp listed
    exact ⟨⟨entry, found, rfl⟩, mine, live⟩
  · rintro ⟨⟨entry, found, rfl⟩, mine, live⟩
    exact ⟨entry, (mem_listing sound).mpr ⟨found, mine, live⟩, rfl⟩

theorem listing_apart (single : l.Single) (job : JobId) :
    (l.listing job).Pairwise fun a b => a.transfer.id ≠ b.transfer.id := by
  have live := (entriesOf_apart sound single job).filter
    fun entry => !entry.transfer.status.isTerminal
  exact ((List.mergeSort_perm _ listedBefore).pairwise_iff fun apart => apart.symm).mpr live

theorem pending_nodup (single : l.Single) (job : JobId) :
    ((l.pending job).map Transfer.id).Nodup :=
  List.pairwise_map.mpr (List.pairwise_map.mpr (listing_apart sound single job))

end

theorem Recorded.pending_pairwise {s : Numbered TransferLedger} {made : List Transfer}
    {granted : TransferId → List Int64} (recorded : Recorded made granted s)
    (sound : s.store.Sound) (single : s.store.Single) (job : JobId) :
    (s.store.pending job).Pairwise (Precedes made) := by
  have sorted : (s.store.listing job).Pairwise fun a b => listedBefore a b = true :=
    List.pairwise_mergeSort listedBefore_trans listedBefore_total _
  refine List.pairwise_map.mpr ((sorted.and (listing_apart sound single job)).imp_of_mem ?_)
  rintro a b first second ⟨listed, apart⟩
  exact recorded.precedes sound ((mem_listing sound).mp first).1 ((mem_listing sound).mp second).1
    listed apart

theorem not_isTerminal_iff {status : TransferStatus} :
    status.isTerminal = false ↔ status = .pending ∨ status = .inProgress := by
  cases status <;> simp [TransferStatus.isTerminal]

/-- After any history, the pending transfers of a job are exactly the tracked transfers that were
created for it and are pending or in progress, each listed once, by descending priority and then by
creation. The priority of each is the sum of the shifts that it was granted, cut off at the ends of
the range at each step. -/
theorem pending_is_complete_and_ordered (ids : IdAllocator) (history : List Turn) (job : JobId) :
    let l := (turns apply ⟨ids, empty⟩ history).store
    let made := creations ⟨ids, empty⟩ history
    (∀ t, t ∈ l.pending job ↔
      l.transfer t.id = .ok t ∧ (∃ first ∈ made, first.id = t.id ∧ first.jobId = job) ∧
        (t.status = .pending ∨ t.status = .inProgress)) ∧
    ((l.pending job).map Transfer.id).Nodup ∧
    (l.pending job).Pairwise (Precedes made) ∧
    ∀ t ∈ l.pending job,
      t.priority.toInt = (shifts ⟨ids, empty⟩ t.id history).foldl shifted 0 := by
  intro l made
  have orderly := turns_preserve_orderly (orderly_empty ids) history
  have single := turns_preserve_single (orderly_empty ids) single_empty history
  have recorded := turns_recorded ids history
  have sound : l.Sound := orderly.sound
  refine ⟨?_, ?_, ?_, ?_⟩
  · intro t
    rw [mem_pending sound, not_isTerminal_iff]
    refine and_congr_right fun tracked => and_congr_left fun _ => ?_
    obtain ⟨entry, found, rfl⟩ := transfer_eq_ok.mp tracked
    obtain ⟨origin, place, task⟩ := recorded.placed _ entry found
    have listed : origin ∈ made := List.mem_of_getElem? place
    constructor
    · rintro rfl
      exact ⟨origin, listed, task.id.symm, task.jobId.symm⟩
    · rintro ⟨first, listed', named, rfl⟩
      -- numbers are drawn once, so this is the transfer that was created under the number
      obtain rfl : first = origin :=
        List.inj_on_of_nodup_map recorded.nodup listed' listed (named.trans task.id)
      exact task.jobId
  · exact pending_nodup sound single job
  · exact recorded.pending_pairwise sound single job
  · intro t listed
    obtain ⟨entry, found, rfl⟩ := transfer_eq_ok.mp ((mem_pending sound).mp listed).1
    exact recorded.priority _ entry found

/-- The later of two transfers comes first once its priority is higher, and a shift beyond the end
of the range is cut off. -/
example :
    let history : List Turn := [
      .own (.create ⟨9⟩ [⟨"a"⟩] [⟨"b"⟩] [] .oneToOne), .elsewhere 4,
      .own (.create ⟨9⟩ [⟨"c"⟩] [⟨"d"⟩] [] .oneToOne),
      .own (.setPriority ⟨6⟩ Int64.maxValue), .own (.setPriority ⟨6⟩ 1)]
    ((turns apply ⟨.fresh, empty⟩ history).store.pending ⟨9⟩).map (fun t => (t.id, t.priority)) =
      [(⟨6⟩, Int64.maxValue), (⟨1⟩, 0)] := by
  cbv

end StorageBroker.TransferLedger
