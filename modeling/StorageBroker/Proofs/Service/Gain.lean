import StorageBroker.Proofs.Service.Begun
import StorageBroker.Proofs.Service.Dispatch

/-! # What a request creates

Jobs, storages, transfers and operations share one sequence of numbers. A request that succeeds in
creating one of them takes the next number for it and puts nothing else on record. A job whose
storage is in use takes a number too and is not registered. No other request takes any. -/

set_option autoImplicit false

namespace StorageBroker

inductive Entity
  | job (id : JobId)
  | adhoc (id : AdhocId)
  | pfs (id : PfsId)
  | transfer (id : TransferId)
  | operation (id : OperationId)
  deriving DecidableEq, Repr

/-- The number of an entity, whatever its kind. -/
def Entity.raw : Entity → UInt64
  | .job id => id.raw
  | .adhoc id => id.raw
  | .pfs id => id.raw
  | .transfer id => id.raw
  | .operation id => id.raw

def Service.keeps (s : Service) : Entity → Bool
  | .job id => s.registry.jobs.contains id
  | .adhoc id => s.registry.adhoc.contains id
  | .pfs id => s.registry.pfs.contains id
  | .transfer id => s.transfers.entries.contains id
  | .operation id => s.pipeline.operations.contains id

namespace Request

/-- The entity that a request has created when its call has got this far. -/
def created? : Request → CallState → Option Entity
  | .registerJob _ _ _, .finished (.reply (.ok (.job job))) => some (.job job.id)
  | .registerAdhocStorage _ _ _ _, .finished (.reply (.ok (.adhocStorage storage))) =>
    some (.adhoc storage.id)
  | .registerPfsStorage _ _ _, .finished (.reply (.ok (.pfsStorage pfs))) => some (.pfs pfs.id)
  | .transferDatasets _ _ _ _ _, .finished (.reply (.ok (.transfer transfer))) =>
    some (.transfer transfer.id)
  | .transferDatasets _ _ _ _ _, .waiting (.dispatching transfer _) =>
    some (.transfer transfer.id)
  | .defineDataOperation _ _ _, .finished (.reply (.ok (.dataOperation operation))) =>
    some (.operation operation.id)
  | _, _ => none

/-- Whether a request was to register a job with a storage that has a client. -/
def isVain : Request → CallState → Bool
  | .registerJob _ _ _, .finished (.reply (.error (.registry (.adhocInUse _ _)))) => true
  | _, _ => false

/-- Whether a request is for a new entity. -/
def creates : Request → Bool
  | .registerJob _ _ _ | .registerAdhocStorage _ _ _ _ | .registerPfsStorage _ _ _
  | .transferDatasets _ _ _ _ _ | .defineDataOperation _ _ _ => true
  | _ => false

theorem created?_of_not_creates {request : Request} (still : request.creates = false)
    (state : CallState) : request.created? state = none ∧ request.isVain state = false := by
  cases request <;> first
    | exact ⟨rfl, rfl⟩
    | exact absurd still (by simp [creates])

end Request

/-! ## What one call creates -/

namespace Service

/-- A service has gained at most this entity, under the next number, or has lost the number. -/
structure Gains (made : Option Entity) (vain : Bool) (s s' : Service) : Prop where
  count : s'.ids.issued = s.ids.issued + made.toList.length + vain.toNat
  number : ∀ e, made = some e → e.raw.toNat = s.ids.issued + 1
  recorded : ∀ e, made = some e → s'.keeps e = true
  kept : ∀ e, s'.keeps e = true → s.keeps e = true ∨ made = some e

theorem Draws.keeps {s s' : Service} (draws : Draws s s') {e : Entity} (kept : s'.keeps e = true) :
    s.keeps e = true ∨ (s.ids.issued < e.raw.toNat ∧ e.raw.toNat ≤ s'.ids.issued) := by
  cases e with
  | job id => exact draws.registry.jobs id kept
  | adhoc id => exact draws.registry.adhoc id kept
  | pfs id => exact draws.registry.pfs id kept
  | transfer id => exact draws.transfers.entries id kept
  | operation id => exact draws.operations.operations id kept

theorem Orderly.issued_of_keeps {s : Service} (orderly : s.Orderly) {e : Entity}
    (kept : s.keeps e = true) : e.raw.toNat ≤ s.ids.issued := by
  cases e with
  | job id => exact orderly.registry.jobs id kept
  | adhoc id => exact orderly.registry.adhoc id kept
  | pfs id => exact orderly.registry.pfs id kept
  | transfer id => exact orderly.transfers id kept
  | operation id => exact orderly.operations id kept

theorem Gains.nothing (s : Service) : Gains none false s s where
  count := rfl
  number := by simp
  recorded := by simp
  kept e kept := .inl kept

theorem Gains.of_draws {s s' : Service} (draws : Draws s s') (same : s'.ids = s.ids) :
    Gains none false s s' where
  count := by rw [same]; rfl
  number := by simp
  recorded := by simp
  kept := by
    intro e kept
    rcases draws.keeps kept with before | ⟨low, high⟩
    · exact .inl before
    · rw [same] at high
      omega

theorem Gains.of_drawn {s s' : Service} {made : Entity} {raw : UInt64} {ids : IdAllocator}
    (drawn : s.ids.allocate = some (raw, ids)) (next : s'.ids = ids) (numbered : made.raw = raw)
    (recorded : s'.keeps made = true)
    (kept : ∀ e, s'.keeps e = true → s.keeps e = true ∨ e = made) :
    Gains (some made) false s s' := by
  have value := IdAllocator.allocate_some drawn
  refine ⟨?_, ?_, ?_, ?_⟩
  · rw [next]
    exact value.2
  · rintro e same
    obtain rfl := Option.some.inj same
    rw [numbered]
    exact value.1
  · rintro e same
    obtain rfl := Option.some.inj same
    exact recorded
  · intro e present
    rcases kept e present with before | rfl
    · exact .inl before
    · exact .inr rfl

/-- A table gains no other row than the one that is written. -/
theorem kept_of_insert {κ α : Type} [DecidableEq κ] (form : κ → Entity) {t : Table κ α}
    {made k : κ} {v : α} (kept : (t.insert made v).contains k = true) :
    t.contains k = true ∨ form k = form made := by
  rcases Table.contains_insert.mp kept with rfl | before
  · exact .inr rfl
  · exact .inl before

theorem registerJob_gains (s : Service) (slurmId : UInt64) (resources : JobResources)
    (requirements : JobRequirements) :
    let asked : Request := .registerJob slurmId resources requirements
    let r := s.startRequest asked
    Gains (asked.created? r.1) (asked.isVain r.1) s r.2 := by
  simp only [startRequest, finish, ofNumberedRegistry]
  have in_use := fun adhoc client => @Registry.registerJob_in_use ⟨s.ids, s.registry⟩ slurmId
    resources requirements adhoc client
  rcases Registry.registerJob_outcome ⟨s.ids, s.registry⟩ slurmId resources requirements with
    ⟨e, refused⟩ | ⟨adhoc, entry, client, raw, ids, -, -, -, drawn, denied⟩ |
    ⟨raw, ids, entries, drawn, -, claims, done⟩
  · rw [refused] at in_use ⊢
    cases e with
    | adhocInUse adhoc client =>
        -- this refusal draws a number, so it is not one that changes nothing
        obtain ⟨raw, ids, drawn, same⟩ := in_use adhoc client rfl
        have value := IdAllocator.allocate_some drawn
        have next : s.ids = ids := congrArg Numbered.ids same
        simp only [next] at value
        omega
    | _ => exact .nothing s
  · rw [denied]
    have value := IdAllocator.allocate_some drawn
    refine ⟨value.2, ?_, ?_, fun e kept => .inl ?_⟩
    · rintro e ⟨⟩
    · rintro e ⟨⟩
    · cases e <;> exact kept
  · rw [done]
    refine .of_drawn drawn rfl rfl (Table.contains_insert.mpr (.inl rfl)) fun e kept => ?_
    cases e with
    | job id => exact kept_of_insert Entity.job kept
    | adhoc id =>
        have old : KeysDrawn AdhocId.raw 0 0 s.registry.adhoc entries := claims.keysDrawn
        rcases old id kept with before | ⟨low, high⟩
        · exact .inl before
        · omega
    | pfs id | transfer id | operation id => exact .inl kept

theorem registerAdhoc_gains (s : Service) (name : String) (kind : AdhocKind)
    (context : AdhocContext) (resources : AdhocResources) :
    let asked : Request := .registerAdhocStorage name kind context resources
    let r := s.startRequest asked
    Gains (asked.created? r.1) false s r.2 := by
  simp only [startRequest, finish, ofNumberedRegistry]
  rcases Registry.registerAdhoc_outcome ⟨s.ids, s.registry⟩ name kind context resources with
    ⟨e, refused⟩ | ⟨raw, ids, drawn, done⟩
  · rw [refused]
    exact .nothing s
  · rw [done]
    refine .of_drawn drawn rfl rfl (Table.contains_insert.mpr (.inl rfl)) fun e kept => ?_
    cases e with
    | adhoc id => exact kept_of_insert Entity.adhoc kept
    | job id | pfs id | transfer id | operation id => exact .inl kept

theorem registerPfs_gains (s : Service) (name : String) (kind : PfsKind) (context : PfsContext) :
    let asked : Request := .registerPfsStorage name kind context
    let r := s.startRequest asked
    Gains (asked.created? r.1) false s r.2 := by
  simp only [startRequest, finish, ofNumberedRegistry]
  rcases Registry.registerPfs_outcome ⟨s.ids, s.registry⟩ name kind context with
    ⟨e, refused⟩ | ⟨raw, ids, drawn, done⟩
  · rw [refused]
    exact .nothing s
  · rw [done]
    refine .of_drawn drawn rfl rfl (Table.contains_insert.mpr (.inl rfl)) fun e kept => ?_
    cases e with
    | pfs id => exact kept_of_insert Entity.pfs kept
    | job id | adhoc id | transfer id | operation id => exact .inl kept

theorem startDispatch_gains (s : Service) (job : JobId) (sources targets : List Dataset)
    (limits : List Limit) (mapping : Mapping) :
    let asked : Request := .transferDatasets job sources targets limits mapping
    let r := s.startRequest asked
    Gains (asked.created? r.1) false s r.2 := by
  simp only [startRequest]
  rcases s.startDispatch_outcome job sources targets limits mapping with
    ⟨e, refused⟩ | ⟨owner, transfer, n, found, created⟩
  · rw [refused]
    exact .nothing s
  · rw [startDispatch_of_created found created]
    rcases TransferLedger.create_outcome ⟨s.ids, s.transfers⟩ job sources targets limits mapping
      with ⟨e, refused⟩ | ⟨raw, ids, made, drawn, -, rfl, done⟩
    · exact absurd (created.symm.trans refused) (by simp)
    · obtain ⟨same, rfl⟩ := Prod.mk.inj (created.symm.trans done)
      obtain rfl := Except.ok.inj same
      have made : Gains (some (.transfer ⟨raw⟩)) false s { s with
          ids
          transfers :=
            (TransferLedger.create ⟨s.ids, s.transfers⟩ job sources targets limits
              mapping).2.store } := by
        rw [done]
        refine .of_drawn drawn rfl rfl (Table.contains_insert.mpr (.inl rfl)) fun e kept => ?_
        cases e with
        | transfer id => exact kept_of_insert Entity.transfer kept
        | job id | adhoc id | pfs id | operation id => exact .inl kept
      rw [done] at made
      -- the call names its transfer also while it waits for the data mover
      cases s.moverAddress owner with
      | none => exact made
      | some address => exact made

theorem defineOperation_gains (s : Service) (job : JobId) (executable : String)
    (arguments : List Argument) :
    let asked : Request := .defineDataOperation job executable arguments
    let r := s.startRequest asked
    Gains (asked.created? r.1) false s r.2 := by
  simp only [startRequest, finish, defineOperation_eq]
  cases found : s.registry.job job with
  | error e => exact .nothing s
  | ok owner =>
      rcases Pipeline.define_outcome ⟨s.ids, s.pipeline⟩ job executable arguments with
        ⟨e, refused⟩ | ⟨raw, ids, drawn, done⟩
      · rw [refused]
        exact .nothing s
      · rw [done]
        refine .of_drawn drawn rfl rfl (Table.contains_insert.mpr (.inl rfl)) fun e kept => ?_
        cases e with
        | operation id => exact kept_of_insert Entity.operation kept
        | job id | adhoc id | pfs id | transfer id => exact .inl kept

theorem apply_ids_of_operation? {request : Request} {op : Registry.Operation}
    (asked : request.operation? = some op) (still : request.creates = false)
    (s : Numbered Registry) : (Registry.apply s op).2.ids = s.ids := by
  cases request <;> cases asked <;> first
    | rfl
    | exact absurd still (by simp [Request.creates])

/-- A request for something else than a new entity draws no number. -/
theorem Begun.ids_eq {s s' : Service} {request : Request} (begun : Begun s (.request request) s')
    (still : request.creates = false) : s'.ids = s.ids := by
  cases begun with
  | steady steady => exact steady.ids
  | operation op asked => exact apply_ids_of_operation? asked still _
  | transferCreated registered sources targets limits mapping
  | operationDefined registered executable arguments =>
      exact absurd still (by simp [Request.creates])
  | jobRemoved registered | limitSet registered limit
  | limitsRemoved registered entity limitClass => rfl

theorem startRequest_gains {s : Service} (orderly : s.Orderly) (request : Request) :
    let r := s.startRequest request
    Gains (request.created? r.1) (request.isVain r.1) s r.2 := by
  have quiet : request.creates = false →
      Gains (request.created? (s.startRequest request).1)
        (request.isVain (s.startRequest request).1) s (s.startRequest request).2 := by
    intro still
    obtain ⟨nothing, spared⟩ := Request.created?_of_not_creates still (s.startRequest request).1
    rw [nothing, spared]
    exact .of_draws ((s.startRequest_changes request).draws orderly)
      ((s.startRequest_begun request).ids_eq still)
  cases request with
  | registerJob slurmId resources requirements =>
      exact s.registerJob_gains slurmId resources requirements
  | registerAdhocStorage name kind context resources =>
      exact s.registerAdhoc_gains name kind context resources
  | registerPfsStorage name kind context => exact s.registerPfs_gains name kind context
  | transferDatasets job sources targets limits mapping =>
      exact s.startDispatch_gains job sources targets limits mapping
  | defineDataOperation job executable arguments =>
      exact s.defineOperation_gains job executable arguments
  | _ => exact quiet rfl

end Service

end StorageBroker
