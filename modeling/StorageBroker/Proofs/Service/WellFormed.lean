import StorageBroker.Proofs.Limit.Value
import StorageBroker.Proofs.Registry.InFlight
import StorageBroker.Proofs.Service.Moved
import StorageBroker.Proofs.Service.References

/-! # Well-formed stores

What a service keeps has its names: no storage, host, dataset, mount point or executable on record
is blank, no storage is without nodes, and the sources and targets of every transfer pair up. Each
store keeps this by itself, under every operation whose arguments have their names. -/

set_option autoImplicit false

namespace StorageBroker

/-! ## Tables -/

namespace Table

variable {κ α : Type} [DecidableEq κ]

/-- Every value of a table has a property. -/
def All (P : α → Prop) (t : Table κ α) : Prop := ∀ k v, t.get? k = some v → P v

variable {P : α → Prop} {t : Table κ α}

theorem all_empty : All P (empty : Table κ α) := by
  intro k v found
  exact nomatch found

theorem All.insert (all : t.All P) {v : α} (held : P v) (k : κ) : (t.insert k v).All P := by
  intro x w found
  rw [get?_insert] at found
  by_cases here : x = k
  · rw [if_pos here] at found
    exact Option.some.inj found ▸ held
  · rw [if_neg here] at found
    exact all x w found

theorem All.filter (all : t.All P) (p : κ → α → Bool) : (t.filter p).All P := by
  intro x w found
  rw [get?_filter] at found
  exact all x w (Option.eq_some_of_filter_eq_some found)

theorem All.erase (all : t.All P) (k : κ) : (t.erase k).All P :=
  all.filter _

theorem All.mapValues (all : t.All P) {f : κ → α → α} (kept : ∀ k v, P v → P (f k v)) :
    (t.mapValues f).All P := by
  intro x w found
  rw [get?_mapValues] at found
  obtain ⟨v, before, rfl⟩ := Option.map_eq_some_iff.mp found
  exact kept x v (all x v before)

end Table

/-! ## Names -/

/-- Every node has a host name that is not blank. -/
def Node.AllNamed (nodes : List Node) : Prop := ∀ node ∈ nodes, Text.isBlank node.hostname = false

def Dataset.AllNamed (datasets : List Dataset) : Prop := ∀ dataset ∈ datasets, dataset.id ≠ ""

def LimitEntity.Named : LimitEntity → Prop
  | .dataset d => d.id ≠ ""
  | .node hostname => Text.isBlank hostname = false
  | .job _ => True

/-! ## The registry -/

/-- An ad-hoc storage has a name, and nodes that have names. -/
structure AdhocEntry.WellFormed (entry : AdhocEntry) : Prop where
  named : Text.isBlank entry.name = false
  staffed : entry.resources.nodes ≠ []
  hosts : Node.AllNamed entry.resources.nodes

/-- Only the name and the nodes count. -/
theorem AdhocEntry.WellFormed.of_same {entry other : AdhocEntry} (formed : entry.WellFormed)
    (name : other.name = entry.name) (resources : other.resources = entry.resources) :
    other.WellFormed where
  named := name ▸ formed.named
  staffed := resources ▸ formed.staffed
  hosts := resources ▸ formed.hosts

def Job.WellFormed (job : Job) : Prop := Node.AllNamed job.resources.nodes

theorem Job.WellFormed.forget {job : Job} (formed : job.WellFormed) (adhoc : AdhocId) :
    (job.forget adhoc).WellFormed := by
  unfold Job.forget
  split <;> exact formed

/-- A parallel file system has a name and a mount point. -/
structure PfsStorage.WellFormed (pfs : PfsStorage) : Prop where
  named : Text.isBlank pfs.name = false
  mounted : pfs.context.mountPoint ≠ ""

namespace Registry

/-- Everything that is registered is well-formed. -/
structure WellFormed (r : Registry) : Prop where
  jobs : r.jobs.All Job.WellFormed
  adhoc : r.adhoc.All AdhocEntry.WellFormed
  pfs : r.pfs.All PfsStorage.WellFormed

/-- What an operation has to be given for its part of the registry to stay well-formed. -/
def Operation.Sound : Operation → Prop
  | .registerJob _ resources _ | .updateJob _ resources _ => Node.AllNamed resources.nodes
  | .registerAdhoc name kind context resources =>
    AdhocEntry.WellFormed ⟨name, kind, context, resources, none, .undeployed⟩
  | .registerPfs name kind context => ∀ id, PfsStorage.WellFormed ⟨id, name, kind, context⟩
  | .updatePfs _ context => context.mountPoint ≠ ""
  | _ => True

theorem Operation.sound_of_moves {op : Operation} (moves : op.moves = true) : op.Sound := by
  cases op with
  | beginDeploy id | completeDeploy id path | abortDeploy id | beginTeardown id
  | completeTeardown id | abortTeardown id => trivial
  | _ => cases moves

/-- Who holds a storage has no part in whether it is well-formed. -/
theorem all_of_slots {before now : Table AdhocId AdhocEntry}
    (same : ∀ x, slotOf now x = slotOf before x) (all : before.All AdhocEntry.WellFormed) :
    now.All AdhocEntry.WellFormed := by
  intro x entry found
  have slot := same x
  simp only [slotOf, found, Option.map_some] at slot
  obtain ⟨old, tracked, alike⟩ := Option.map_eq_some_iff.mp slot.symm
  simp only [AdhocEntry.mk.injEq] at alike
  exact (all x old tracked).of_same alike.1.symm alike.2.2.2.1.symm

section

variable {s : Numbered Registry} (formed : s.store.WellFormed)
include formed

theorem Applied.preserves_wellFormed {op : Operation}
    {result : Except RegistryError Answer × Numbered Registry} (applied : Applied s op result)
    (sound : op.Sound) : result.2.store.WellFormed := by
  cases applied with
  | refused | denied | read | idled => exact formed
  | @jobRegistered slurmId resources requirements raw ids entries drawn unused claims =>
      have added : Job.WellFormed ⟨⟨raw⟩, slurmId, resources, requirements⟩ := sound
      exact ⟨formed.jobs.insert added _, all_of_slots claims.slotOf_eq formed.adhoc, formed.pfs⟩
  | @jobUpdated id resources requirements job entries found moved =>
      have updated : Job.WellFormed { job with
          resources, requirements := requirements.getD job.requirements } := sound
      exact ⟨formed.jobs.insert updated _, all_of_slots (rebind_slotOf moved) formed.adhoc,
        formed.pfs⟩
  | @jobRemoved id job found =>
      exact ⟨formed.jobs.erase id, all_of_slots (slotOf_release _ id) formed.adhoc, formed.pfs⟩
  | adhocRegistered drawn => exact { formed with adhoc := formed.adhoc.insert sound _ }
  | @adhocUpdated id context caller entry found clear =>
      have updated : AdhocEntry.WellFormed { entry with context } :=
        (formed.adhoc id entry found).of_same rfl rfl
      exact { formed with adhoc := formed.adhoc.insert updated id }
  | @adhocRemoved id caller entry found clear =>
      exact ⟨formed.jobs.mapValues fun _ _ held => held.forget id,
        formed.adhoc.erase id, formed.pfs⟩
  | @bound id job holder entries found only claims =>
      have holding : (holder.hold id).WellFormed := formed.jobs job holder found
      exact ⟨formed.jobs.insert holding job, all_of_slots claims.slotOf_eq formed.adhoc,
        formed.pfs⟩
  | @unbound id entry jobs found sides =>
      refine ⟨?_, all_of_slots (slotOf_rewrite found rfl) formed.adhoc, formed.pfs⟩
      rcases sides with ⟨-, rfl⟩ | ⟨client, job, -, known, rfl⟩
      · exact formed.jobs
      · exact formed.jobs.insert ((formed.jobs client job known).forget id) client
  | @moved op id entry deployment answer found moves =>
      have kept : AdhocEntry.WellFormed { entry with deployment } :=
        (formed.adhoc id entry found).of_same rfl rfl
      exact { formed with adhoc := formed.adhoc.insert kept id }
  | pfsRegistered drawn => exact { formed with pfs := formed.pfs.insert (sound _) _ }
  | @pfsUpdated id context pfs found =>
      have updated : PfsStorage.WellFormed { pfs with context } :=
        ⟨(formed.pfs id pfs found).named, sound⟩
      exact { formed with pfs := formed.pfs.insert updated id }
  | @pfsRemoved id pfs found => exact { formed with pfs := formed.pfs.erase id }

theorem apply_preserves_wellFormed {op : Operation} (sound : op.Sound) :
    (apply s op).2.store.WellFormed :=
  (apply_applied s op).preserves_wellFormed formed sound

end

/-- A controller is never given a node without a name. -/
theorem WellFormed.hosts_of_inFlight {r : Registry} (formed : r.WellFormed) {id : AdhocId}
    {work : Work} (shown : r.inFlight? id = some work) :
    Node.AllNamed work.plan.resources.nodes := by
  cases work with
  | deploy plan =>
      obtain ⟨entry, found, -, rfl⟩ := inFlight?_eq_deploy.mp shown
      exact (formed.adhoc id entry found).hosts
  | teardown plan =>
      obtain ⟨entry, path, found, -, rfl⟩ := inFlight?_eq_teardown.mp shown
      exact (formed.adhoc id entry found).hosts

end Registry

/-! ## Transfers -/

/-- The sources and targets of a transfer pair up and have names, and so have the entities of its
limits. -/
structure Transfer.WellFormed (transfer : Transfer) : Prop where
  paired : transfer.mapping.accepts transfer.sources.length transfer.targets.length = true
  sources : Dataset.AllNamed transfer.sources
  targets : Dataset.AllNamed transfer.targets
  limits : ∀ limit ∈ transfer.limits, limit.entity.Named

theorem Transfer.SameTask.wellFormed {before after : Transfer} (task : before.SameTask after)
    (formed : before.WellFormed) : after.WellFormed where
  paired := by rw [task.mapping, task.sources, task.targets]; exact formed.paired
  sources := task.sources ▸ formed.sources
  targets := task.targets ▸ formed.targets
  limits := task.limits ▸ formed.limits

namespace TransferLedger

def WellFormed (l : TransferLedger) : Prop := l.entries.All fun entry => entry.transfer.WellFormed

theorem Effect.preserves_wellFormed {s s' : Numbered TransferLedger} (effect : Effect none s s')
    (sound : s.store.Sound) (formed : s.store.WellFormed) : s'.store.WellFormed := by
  intro id entry found
  rcases effect.origin sound found with ⟨before, tracked, task⟩ | asked
  · exact task.wellFormed (formed id before tracked)
  · exact nomatch asked

theorem create_preserves_wellFormed {s : Numbered TransferLedger} (formed : s.store.WellFormed)
    (job : JobId) {sources targets : List Dataset} {limits : List Limit} (mapping : Mapping)
    (reads : Dataset.AllNamed sources) (writes : Dataset.AllNamed targets)
    (capped : ∀ limit ∈ limits, limit.entity.Named) :
    (create s job sources targets limits mapping).2.store.WellFormed := by
  rcases create_outcome s job sources targets limits mapping with
    ⟨e, refused⟩ | ⟨raw, ids, transfer, -, paired, rfl, done⟩
  · rw [refused]
    exact formed
  · rw [done]
    exact formed.insert ⟨paired, reads, writes, capped⟩ _

end TransferLedger

/-! ## Data operations -/

/-- An operation has an executable, and the datasets that it is connected to have names. -/
structure DataOperation.WellFormed (operation : DataOperation) : Prop where
  executable : Text.isBlank operation.executable = false
  connected : ∀ connection, operation.connection = some connection →
    Dataset.AllNamed connection.inputs ∧ Dataset.AllNamed connection.outputs

namespace Pipeline

def WellFormed (p : Pipeline) : Prop := p.operations.All DataOperation.WellFormed

theorem define_preserves_wellFormed {s : Numbered Pipeline} (formed : s.store.WellFormed)
    (job : JobId) {executable : String} (arguments : List Argument)
    (named : Text.isBlank executable = false) :
    (define s job executable arguments).2.store.WellFormed := by
  rcases define_outcome s job executable arguments with ⟨e, refused⟩ | ⟨raw, ids, -, done⟩
  · rw [refused]
    exact formed
  · rw [done]
    exact formed.insert ⟨named, by simp⟩ _

section

variable {p : Pipeline} (formed : p.WellFormed)
include formed

theorem connect_preserves_wellFormed (job : JobId) (id : OperationId) {connection : Connection}
    (reads : Dataset.AllNamed connection.inputs) (writes : Dataset.AllNamed connection.outputs) :
    (p.connect job id connection).2.WellFormed := by
  rcases p.connect_outcome job id connection with ⟨e, refused⟩ | ⟨operation, found, -, done⟩
  · rw [refused]
    exact formed
  · rw [done]
    have connected : DataOperation.WellFormed
        { operation with status := .connected, connection := some connection } := by
      refine ⟨(formed id operation (get_ok found).1).executable, ?_⟩
      rintro _ ⟨⟩
      exact ⟨reads, writes⟩
    exact formed.insert connected id

theorem link_preserves_wellFormed (job : JobId) (id : OperationId) (link : Link) :
    (p.link job id link).2.WellFormed := by
  rcases p.link_outcome job id link with ⟨e, refused⟩ | ⟨operation, found, -, done⟩
  · rw [refused]
    exact formed
  · rw [done]
    have before := formed id operation (get_ok found).1
    have linked : DataOperation.WellFormed
        { operation with status := .linked, link := some link } :=
      ⟨before.executable, before.connected⟩
    exact formed.insert linked id

theorem finalize_preserves_wellFormed (job : JobId) (id : OperationId)
    (outcome : OperationOutcome) : (p.finalize job id outcome).2.WellFormed := by
  rcases p.finalize_outcome job id outcome with ⟨e, refused⟩ | ⟨operation, found, -, done⟩
  · rw [refused]
    exact formed
  · rw [done]
    have before := formed id operation (get_ok found).1
    have finalized : DataOperation.WellFormed
        { operation with status := .finalized, outcome := some outcome } :=
      ⟨before.executable, before.connected⟩
    exact formed.insert finalized id

end

end Pipeline

/-! ## Limits -/

namespace LimitStore

def WellFormed (s : LimitStore) : Prop :=
  ∀ entity limitClass value, s.value? entity limitClass = some value → entity.Named

variable {s : LimitStore} (formed : s.WellFormed)
include formed

theorem set_preserves_wellFormed {limit : Limit} (named : limit.entity.Named) :
    (s.set limit).2.WellFormed := by
  intro entity limitClass value found
  rw [value?_set] at found
  by_cases here : entity = limit.entity ∧ limitClass = limit.limitClass
  · exact here.1 ▸ named
  · rw [if_neg here] at found
    exact formed entity limitClass value found

theorem remove_preserves_wellFormed (entity : LimitEntity) (limitClass : Option LimitClass) :
    (s.remove entity limitClass).2.WellFormed :=
  fun other named value left => formed other named value (value?_of_remove left)

theorem purgeJob_preserves_wellFormed (job : JobId) : (s.purgeJob job).2.WellFormed := by
  intro entity limitClass value left
  rw [value?_purgeJob] at left
  by_cases mine : entity = .job job
  · simp [mine] at left
  · rw [if_neg mine] at left
    exact formed entity limitClass value left

end LimitStore

/-! ## The service -/

namespace Service

/-- Everything that a service keeps is well-formed. -/
structure WellFormed (s : Service) : Prop where
  registry : s.registry.WellFormed
  transfers : s.transfers.WellFormed
  limits : s.limits.WellFormed
  pipeline : s.pipeline.WellFormed

theorem wellFormed_fresh (config : ServiceConfig) : WellFormed (fresh config) where
  registry := ⟨Table.all_empty, Table.all_empty, Table.all_empty⟩
  transfers := Table.all_empty
  limits := by
    intro entity limitClass value found
    exact nomatch LimitStore.value?_empty.symm.trans found
  pipeline := Table.all_empty

namespace WellFormed

variable {s s' : Service} (formed : s.WellFormed)
include formed

theorem of_operation (op : Registry.Operation) (sound : op.Sound) : WellFormed { s with
    ids := (Registry.apply ⟨s.ids, s.registry⟩ op).2.ids
    registry := (Registry.apply ⟨s.ids, s.registry⟩ op).2.store } := by
  have kept : (Registry.apply ⟨s.ids, s.registry⟩ op).2.store.WellFormed :=
    Registry.apply_preserves_wellFormed formed.registry sound
  exact { formed with registry := kept }

theorem of_moved {allowed : Registry.Operation → Prop} (moved : Moved allowed s s') :
    s'.WellFormed := by
  refine moved.invariant (P := WellFormed) (fun t op moves _ held => ?_) formed
  have kept : (Registry.apply ⟨t.ids, t.registry⟩ op).2.store.WellFormed :=
    Registry.apply_preserves_wellFormed held.registry (Registry.Operation.sound_of_moves moves)
  exact { held with registry := kept }

theorem of_ledger {l : TransferLedger} (sound : s.transfers.Sound)
    (effect : TransferLedger.Effect none ⟨s.ids, s.transfers⟩ ⟨s.ids, l⟩) :
    WellFormed { s with transfers := l } :=
  { formed with transfers := effect.preserves_wellFormed sound formed.transfers }

theorem dropJob (sound : s.transfers.Sound) (job : JobId) : (s.dropJob job).WellFormed where
  registry := by
    have jobs := formed.registry.jobs.erase job
    exact ⟨jobs, Registry.all_of_slots (Registry.slotOf_release _ job) formed.registry.adhoc,
      formed.registry.pfs⟩
  transfers := by
    intro id entry found
    exact formed.transfers id entry ((transfer_dropJob sound).mp found).1
  limits := LimitStore.purgeJob_preserves_wellFormed formed.limits job
  pipeline := formed.pipeline.filter _

end WellFormed

end Service

end StorageBroker
