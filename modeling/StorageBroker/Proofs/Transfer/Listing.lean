import Mathlib.Algebra.BigOperators.Group.Finset.Basic
import Mathlib.Data.List.Sort
import StorageBroker.Proofs.Transfer.Pending

/-! # What is listed for a job

Transfers are held by their ids, and the ids of each job in an index of their own. Read off an index
that is sound, the lists of the jobs add up to the number of transfers tracked, and each list keeps
to the order in which its transfers were created. -/

set_option autoImplicit false

namespace StorageBroker

def TransferId.Before (a b : TransferId) : Prop :=
  a.raw.toNat < b.raw.toNat

instance : Std.Irrefl TransferId.Before :=
  ⟨fun _ => Nat.lt_irrefl _⟩

instance : Std.Antisymm TransferId.Before :=
  ⟨fun _ _ before after => absurd after (Nat.lt_asymm before)⟩

namespace TransferLedger

/-- The jobs of the transfers tracked, one for each transfer. -/
def owners (l : TransferLedger) : List JobId :=
  l.entries.values.map fun entry => entry.transfer.jobId

theorem exists_of_mem_owners {l : TransferLedger} {job : JobId} (listed : job ∈ l.owners) :
    ∃ id entry, l.entries.get? id = some entry ∧ entry.transfer.jobId = job := by
  obtain ⟨entry, stored, rfl⟩ := List.mem_map.mp listed
  obtain ⟨row, present, rfl⟩ := List.mem_map.mp stored
  exact ⟨row.1, row.2, Table.get?_of_mem_rows present, rfl⟩

/-! ## The list of a job -/

theorem transfersFor_perm (l : TransferLedger) (job : JobId) :
    (l.transfersFor job).Perm ((l.entriesOf job).map LedgerEntry.transfer) :=
  (List.mergeSort_perm _ _).map _

theorem countP_transfersFor (l : TransferLedger) (job : JobId) (p : Transfer → Bool) :
    (l.transfersFor job).countP p = (l.idsOf job).countP fun id =>
      ((l.entries.get? id).map fun entry => p entry.transfer).getD false := by
  rw [(l.transfersFor_perm job).countP_eq, List.countP_map, entriesOf, List.countP_filterMap]
  rfl

section

variable {l : TransferLedger} (sound : l.Sound)
include sound

theorem mem_transfersFor {job : JobId} {t : Transfer} :
    t ∈ l.transfersFor job ↔ l.transfer t.id = .ok t ∧ t.jobId = job := by
  simp only [transfersFor, List.mem_map, List.mem_mergeSort, mem_entriesOf sound, transfer_eq_ok]
  constructor
  · rintro ⟨entry, ⟨found, mine⟩, rfl⟩
    exact ⟨⟨entry, found, rfl⟩, mine⟩
  · rintro ⟨⟨entry, found, rfl⟩, mine⟩
    exact ⟨entry, ⟨found, mine⟩, rfl⟩

theorem mem_ids_transfersFor {job : JobId} {id : TransferId} :
    id ∈ (l.transfersFor job).map Transfer.id ↔
      ∃ t, l.transfer id = .ok t ∧ t.jobId = job := by
  rw [List.mem_map]
  constructor
  · rintro ⟨t, listed, rfl⟩
    exact ⟨t, (mem_transfersFor sound).mp listed⟩
  · rintro ⟨t, tracked, mine⟩
    obtain ⟨entry, found, rfl⟩ := transfer_eq_ok.mp tracked
    have named := sound.filed id entry found
    exact ⟨entry.transfer, (mem_transfersFor sound).mpr ⟨named ▸ tracked, mine⟩, named⟩

theorem transfersFor_nodup (single : l.Single) (job : JobId) :
    ((l.transfersFor job).map Transfer.id).Nodup := by
  refine ((l.transfersFor_perm job).map _).nodup_iff.mpr ?_
  exact List.pairwise_map.mpr (List.pairwise_map.mpr (entriesOf_apart sound single job))

/-! ## The lists of all jobs -/

/-- The list of a job has as many transfers as the table holds for it. -/
theorem length_transfersFor (single : l.Single) (job : JobId) :
    (l.transfersFor job).length = l.owners.count job := by
  have counted := Table.length_filter_values (t := l.entries)
    (p := fun entry => entry.transfer.jobId = job) (transfersFor_nodup sound single job) fun id => by
      rw [mem_ids_transfersFor sound]
      simp [transfer_eq_ok]
  rw [List.length_map] at counted
  rw [← counted, owners, List.count_eq_countP, List.countP_map, List.countP_eq_length_filter]
  rfl

/-- The lists of the jobs add up to the number of transfers tracked. -/
theorem count_eq_sum (single : l.Single) {jobs : Finset JobId}
    (covers : ∀ job ∈ l.owners, job ∈ jobs) :
    l.count = ∑ job ∈ jobs, (l.transfersFor job).length := by
  calc l.count
      = l.owners.length := by simp [count, owners, Table.size, Table.values]
    _ = ∑ job ∈ jobs, l.owners.count job := by
        rw [← Multiset.coe_card, ← Multiset.sum_count_eq_card (by simpa using covers)]
        simp only [Multiset.coe_count]
    _ = ∑ job ∈ jobs, (l.transfersFor job).length :=
        Finset.sum_congr rfl fun job _ => (length_transfersFor sound single job).symm

/-- When the lists of all other jobs stay, the number of transfers changes by what the list of one
job gains or loses. -/
theorem count_add_length {l' : TransferLedger} (sound' : l'.Sound) (single : l.Single)
    (single' : l'.Single) {job : JobId}
    (others : ∀ other ≠ job, l'.transfersFor other = l.transfersFor other) :
    l'.count + (l.transfersFor job).length = l.count + (l'.transfersFor job).length := by
  let jobs : Finset JobId := insert job (l.owners ++ l'.owners).toFinset
  have mine : job ∈ jobs := Finset.mem_insert_self job _
  have rest : ∑ other ∈ jobs.erase job, (l'.transfersFor other).length =
      ∑ other ∈ jobs.erase job, (l.transfersFor other).length :=
    Finset.sum_congr rfl fun other listed => by rw [others other (Finset.ne_of_mem_erase listed)]
  have total : l.count = ∑ owner ∈ jobs, (l.transfersFor owner).length :=
    count_eq_sum sound single fun owner listed => by simp [jobs, listed]
  have total' : l'.count = ∑ owner ∈ jobs, (l'.transfersFor owner).length :=
    count_eq_sum sound' single' fun owner listed => by simp [jobs, listed]
  rw [← Finset.add_sum_erase jobs _ mine] at total total'
  omega

end

/-! ## The order of the list -/

section

variable {s : Numbered TransferLedger} {made : List Transfer} {granted : TransferId → List Int64}
  (orderly : Orderly s) (single : s.store.Single) (recorded : Recorded made granted s)
include recorded

/-- What was created earlier has an earlier number. -/
theorem Recorded.before {a b : LedgerEntry}
    (first : s.store.entries.get? a.transfer.id = some a)
    (second : s.store.entries.get? b.transfer.id = some b)
    (earlier : a.order ≤ b.order) (apart : a.transfer.id ≠ b.transfer.id) :
    a.transfer.id.Before b.transfer.id := by
  obtain ⟨t, place, task⟩ := recorded.placed _ a first
  obtain ⟨t', place', task'⟩ := recorded.placed _ b second
  have differ : a.order ≠ b.order := by
    intro tie
    rw [tie] at place
    obtain rfl := Option.some.inj (place.symm.trans place')
    exact apart (task.id.trans task'.id.symm)
  obtain ⟨within, rfl⟩ := List.getElem?_eq_some_iff.mp place
  obtain ⟨within', rfl⟩ := List.getElem?_eq_some_iff.mp place'
  have rises := List.pairwise_iff_getElem.mp recorded.rising _ _ within within' (by omega)
  rwa [← task.id, ← task'.id] at rises

include orderly single

theorem transfersFor_pairwise (job : JobId) :
    (s.store.transfersFor job).Pairwise fun a b => a.id.Before b.id := by
  have sorted : ((s.store.entriesOf job).mergeSort fun a b => a.order ≤ b.order).Pairwise
      fun a b => decide (a.order ≤ b.order) = true :=
    List.pairwise_mergeSort (by simp only [decide_eq_true_eq]; omega)
      (by simp only [Bool.or_eq_true, decide_eq_true_eq]; omega) _
  have apart := ((List.mergeSort_perm (s.store.entriesOf job)
    fun a b : LedgerEntry => decide (a.order ≤ b.order)).pairwise_iff fun apart => apart.symm).mpr
      (entriesOf_apart orderly.sound single job)
  refine List.pairwise_map.mpr ((sorted.and apart).imp_of_mem ?_)
  rintro a b first second ⟨earlier, apart⟩
  rw [List.mem_mergeSort, mem_entriesOf orderly.sound] at first second
  exact recorded.before first.1 second.1 (of_decide_eq_true earlier) apart

/-- The transfers of a job in the order of their numbers are its list. -/
theorem transfersFor_eq {job : JobId} {listed : List Transfer}
    (rising : listed.Pairwise fun a b => a.id.Before b.id)
    (same : ∀ t, t ∈ listed ↔ s.store.transfer t.id = .ok t ∧ t.jobId = job) :
    s.store.transfersFor job = listed := by
  have irrefl : Std.Irrefl fun a b : Transfer => a.id.Before b.id :=
    ⟨fun _ => Nat.lt_irrefl _⟩
  have antisymm : Std.Antisymm fun a b : Transfer => a.id.Before b.id :=
    ⟨fun _ _ before after => absurd after (Nat.lt_asymm before)⟩
  refine (transfersFor_pairwise orderly single recorded job).eq_of_mem_iff rising fun t => ?_
  rw [mem_transfersFor orderly.sound, same]

theorem ids_transfersFor_pairwise (job : JobId) :
    ((s.store.transfersFor job).map Transfer.id).Pairwise TransferId.Before :=
  List.pairwise_map.mpr (transfersFor_pairwise orderly single recorded job)

/-- The list of a job keeps to the order in which the transfers were created. -/
theorem ids_transfersFor_sublist (job : JobId) :
    ((s.store.transfersFor job).map Transfer.id).Sublist (made.map Transfer.id) := by
  refine List.sublist_of_subperm_of_pairwise (r := TransferId.Before) ?_
    (ids_transfersFor_pairwise orderly single recorded job) (List.pairwise_map.mpr recorded.rising)
  refine List.subperm_of_subset (transfersFor_nodup orderly.sound single job) fun id listed => ?_
  obtain ⟨t, tracked, -⟩ := (mem_ids_transfersFor orderly.sound).mp listed
  obtain ⟨entry, found, -⟩ := transfer_eq_ok.mp tracked
  obtain ⟨first, place, task⟩ := recorded.placed id entry found
  exact List.mem_map.mpr
    ⟨first, List.mem_of_getElem? place, task.id.symm.trans (orderly.sound.filed id entry found)⟩

end

end TransferLedger

end StorageBroker
