import StorageBroker.Proofs.Registry.InFlight

/-! # The storages that are deployed

The registry lists every storage once, by id. Taking some storages down clears their mount paths and
leaves everything else as it was, so of the deployed ones the others remain, in the same order. -/

set_option autoImplicit false

namespace StorageBroker

/-- The plan to tear a storage down by. -/
def AdhocStorage.plan (storage : AdhocStorage) : DeploymentPlan :=
  ⟨storage.id, storage.kind, storage.context, storage.resources, storage.mountPath⟩

@[simp]
theorem AdhocStorage.plan_id (storage : AdhocStorage) : storage.plan.id = storage.id := rfl

namespace Registry

/-- The storages with a mount path, by id. -/
def deployed (r : Registry) : List AdhocStorage := r.adhocStorages.filter AdhocStorage.isDeployed

def undeploy (r : Registry) (ids : List AdhocId) : Registry :=
  { r with
    adhoc := r.adhoc.mapValues fun id entry =>
      if id ∈ ids then { entry with deployment := .undeployed } else entry }

variable {r : Registry} {id : AdhocId} {ids : List AdhocId} {storage : AdhocStorage}

/-! ## The list of storages -/

theorem mem_adhocStorages :
    storage ∈ r.adhocStorages ↔ r.adhocStorage storage.id = .ok storage := by
  rw [adhocStorages, List.mem_mergeSort, List.mem_map, adhocStorage_eq_ok]
  constructor
  · rintro ⟨row, listed, rfl⟩
    exact ⟨row.2, Table.get?_of_mem_rows listed, rfl⟩
  · rintro ⟨entry, found, same⟩
    exact ⟨(storage.id, entry), Table.mem_rows_of_get? found, same.symm⟩

theorem adhocStorages_pairwise (r : Registry) :
    r.adhocStorages.Pairwise fun a b => a.id.raw < b.id.raw := by
  have sorted : r.adhocStorages.Pairwise fun a b => decide (a.id.raw ≤ b.id.raw) = true :=
    List.pairwise_mergeSort (by simp only [decide_eq_true_eq]; exact fun a b c => UInt64.le_trans)
      (by simp only [Bool.or_eq_true, decide_eq_true_eq]; exact fun a b => UInt64.le_total _ _) _
  have apart : r.adhocStorages.Pairwise fun a b => a.id ≠ b.id := by
    refine ((List.mergeSort_perm _ _).pairwise_iff fun apart => apart.symm).mpr ?_
    exact List.pairwise_map.mpr (List.pairwise_map.mp r.adhoc.nodup_keys)
  refine (sorted.and apart).imp ?_
  rintro ⟨⟨a⟩, _⟩ ⟨⟨b⟩, _⟩ ⟨earlier, apart⟩
  exact UInt64.lt_of_le_of_ne (of_decide_eq_true earlier) fun tie => apart (congrArg AdhocId.mk tie)

theorem deployed_pairwise (r : Registry) :
    r.deployed.Pairwise fun a b => a.id.raw < b.id.raw :=
  r.adhocStorages_pairwise.filter _

/-- Storages that have been registered in the order of their ids are listed as they are. -/
theorem deployed_of_sorted (sorted : (r.adhoc.rows.map fun row => row.2.view row.1).Pairwise
    fun a b => a.id.raw ≤ b.id.raw) : r.deployed =
      (r.adhoc.rows.map fun row => row.2.view row.1).filter AdhocStorage.isDeployed := by
  rw [deployed, adhocStorages, List.mergeSort_of_pairwise]
  exact sorted.imp decide_eq_true

theorem nodup_deployed (r : Registry) : (r.deployed.map AdhocStorage.id).Nodup := by
  refine List.pairwise_map.mpr (r.deployed_pairwise.imp fun less same => ?_)
  rw [same] at less
  exact UInt64.lt_irrefl _ less

theorem mem_deployed : storage ∈ r.deployed ↔
    ∃ entry path, r.adhoc.get? storage.id = some entry ∧ storage = entry.view storage.id ∧
      entry.deployment.mountPath? = some path := by
  rw [deployed, List.mem_filter, mem_adhocStorages, adhocStorage_eq_ok]
  constructor
  · rintro ⟨⟨entry, found, same⟩, mounted⟩
    rw [same, AdhocStorage.isDeployed] at mounted
    obtain ⟨path, up⟩ := Option.isSome_iff_exists.mp mounted
    exact ⟨entry, path, found, same, up⟩
  · rintro ⟨entry, path, found, same, up⟩
    refine ⟨⟨entry, found, same⟩, ?_⟩
    rw [same, AdhocStorage.isDeployed]
    exact Option.isSome_iff_exists.mpr ⟨path, up⟩

theorem eq_of_mem_deployed {other : AdhocStorage} (listed : storage ∈ r.deployed)
    (also : other ∈ r.deployed) (same : storage.id = other.id) : storage = other := by
  have known := mem_adhocStorages.mp (List.mem_filter.mp listed).1
  rw [same, mem_adhocStorages.mp (List.mem_filter.mp also).1] at known
  exact (Except.ok.inj known).symm

theorem mem_map_id_deployed : id ∈ r.deployed.map AdhocStorage.id ↔
    ∃ path, r.mount? id = some (some path) := by
  rw [List.mem_map]
  constructor
  · rintro ⟨storage, listed, rfl⟩
    obtain ⟨entry, path, found, -, up⟩ := mem_deployed.mp listed
    exact ⟨path, by rw [mount?, found, Option.map_some, up]⟩
  · rintro ⟨path, mounted⟩
    obtain ⟨entry, found, up⟩ := Option.map_eq_some_iff.mp mounted
    exact ⟨entry.view id, mem_deployed.mpr ⟨entry, path, found, rfl, up⟩, rfl⟩

/-! ## Taking storages down -/

theorem get?_undeploy_of_not_mem (other : id ∉ ids) :
    (r.undeploy ids).adhoc.get? id = r.adhoc.get? id := by
  simp only [undeploy, Table.get?_mapValues, if_neg other, Option.map_id']

theorem mount?_undeploy (r : Registry) (ids : List AdhocId) (id : AdhocId) :
    (r.undeploy ids).mount? id =
      if id ∈ ids then (r.mount? id).map fun _ => none else r.mount? id := by
  simp only [mount?, undeploy, Table.get?_mapValues, Option.map_map]
  split
  · simp only [Function.comp_def, Deployment.mountPath?]
  · rfl

theorem undeploy_nil (r : Registry) : r.undeploy [] = r :=
  Registry.ext rfl (Table.ext (List.map_id' _)) rfl

theorem undeploy_undeploy (r : Registry) (ids more : List AdhocId) :
    (r.undeploy ids).undeploy more = r.undeploy (ids ++ more) := by
  refine Registry.ext rfl (Table.ext ?_) rfl
  simp only [undeploy, Table.mapValues, List.map_map]
  refine List.map_congr_left fun row _ => ?_
  by_cases first : row.1 ∈ ids <;> by_cases second : row.1 ∈ more <;> simp [first, second]

theorem setDeployment_undeployed {entry : AdhocEntry} (found : r.adhoc.get? id = some entry) :
    r.setDeployment id entry .undeployed = r.undeploy [id] := by
  refine Registry.ext rfl ?_ rfl
  rw [setDeployment, Table.insert_eq_mapValues _ found]
  refine Table.ext (List.map_congr_left fun row listed => ?_)
  by_cases same : row.1 = id
  · have own := Table.get?_of_mem_rows listed
    rw [same, found] at own
    simp [same, Option.some.inj own]
  · simp [same]

theorem adhocStorages_undeploy (r : Registry) (ids : List AdhocId) :
    (r.undeploy ids).adhocStorages = r.adhocStorages.map fun storage =>
      if storage.id ∈ ids then { storage with mountPath := none } else storage := by
  have viewed : ((r.undeploy ids).adhoc.rows.map fun row => row.2.view row.1) =
      (r.adhoc.rows.map fun row => row.2.view row.1).map fun storage =>
        if storage.id ∈ ids then { storage with mountPath := none } else storage := by
    simp only [undeploy, Table.mapValues, List.map_map]
    refine List.map_congr_left fun row _ => ?_
    by_cases down : row.1 ∈ ids <;>
      simp [AdhocEntry.view, Deployment.mountPath?, down]
  rw [adhocStorages, viewed, adhocStorages]
  refine (List.map_mergeSort fun a _ b _ => ?_).symm
  split <;> split <;> rfl

/-- Of the deployed storages those remain that are not taken down. -/
theorem deployed_undeploy (r : Registry) (ids : List AdhocId) :
    (r.undeploy ids).deployed = r.deployed.filter fun storage => storage.id ∉ ids := by
  rw [deployed, adhocStorages_undeploy, List.filter_map, deployed, List.filter_filter]
  have kept : ∀ storage : AdhocStorage,
      (AdhocStorage.isDeployed ∘ fun storage : AdhocStorage =>
        if storage.id ∈ ids then { storage with mountPath := none } else storage) storage =
      (decide (storage.id ∉ ids) && storage.isDeployed) := by
    intro storage
    by_cases down : storage.id ∈ ids <;> simp [AdhocStorage.isDeployed, down]
  rw [List.filter_congr fun storage _ => kept storage]
  refine (List.map_congr_left fun storage listed => ?_).trans (List.map_id _)
  obtain ⟨-, both⟩ := List.mem_filter.mp listed
  have left : storage.id ∉ ids := of_decide_eq_true (Bool.and_eq_true_iff.mp both).1
  rw [if_neg left]
  rfl

end Registry

end StorageBroker
