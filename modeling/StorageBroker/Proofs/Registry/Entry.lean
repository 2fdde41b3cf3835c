import StorageBroker.Proofs.Registry.Link

/-! # What an operation does to one storage

`EntryStep` lists what can become of a registered storage in one operation, each way with the
operation that it takes: its client comes or goes, its context is replaced, its deployment moves, or
it is removed. Whatever is said of a single storage over time follows from it. -/

set_option autoImplicit false

namespace StorageBroker.Registry

namespace Operation

/-- The storage that an operation is to make some job the client of. -/
def claimed? : Operation → Option AdhocId
  | .registerJob _ _ requirements | .updateJob _ _ (some requirements) => requirements.adhocStorage
  | .bind target _ => some target
  | _ => none

/-- The operations that may part a storage from the job that is its client. -/
inductive Releases (adhoc : AdhocId) (job : JobId) : Operation → Prop
  | unbind : Releases adhoc job (.unbind adhoc)
  | removeJob : Releases adhoc job (.removeJob job)
  | moveJob {resources : JobResources} {requirements : JobRequirements}
      (elsewhere : requirements.adhocStorage ≠ some adhoc) :
      Releases adhoc job (.updateJob job resources (some requirements))
  | removeAdhoc : Releases adhoc job (.removeAdhoc adhoc (some job))

end Operation

/-- What an operation can make of a registered storage. -/
inductive EntryStep (op : Operation) (id : AdhocId) (entry : AdhocEntry) : Option AdhocEntry → Prop
  | same : EntryStep op id entry (some entry)
  | claimed {job : JobId} (asked : op.claimed? = some id) (free : entry.client = none) :
      EntryStep op id entry (some { entry with client := some job })
  | released {job : JobId} (asked : op.Releases id job) (held : entry.client = some job) :
      EntryStep op id entry (some { entry with client := none })
  | contextSet {context : AdhocContext} {caller : Option JobId}
      (asked : op = .updateAdhoc id context caller) (clear : entry.obstacle? id caller = none) :
      EntryStep op id entry (some { entry with context })
  | moved {deployment : Deployment} (moves : Operation.Moves id op entry.deployment deployment) :
      EntryStep op id entry (some { entry with deployment })
  | removed {caller : Option JobId} (asked : op = .removeAdhoc id caller)
      (clear : entry.obstacle? id caller = none) : EntryStep op id entry none

section

variable {op : Operation} {id : AdhocId} {entry : AdhocEntry}

/-! ## Clients come and go -/

theorem EntryStep.of_release {job : JobId} (asked : op.Releases id job) :
    EntryStep op id entry (some (entry.release job)) := by
  unfold AdhocEntry.release
  by_cases mine : entry.client = some job
  · rw [if_pos mine]
    exact .released asked mine
  · rw [if_neg mine]
    exact .same

theorem EntryStep.of_claims {entries now : Table AdhocId AdhocEntry} {job : JobId}
    {named : Option AdhocId} (claims : Claims entries job named now)
    (found : entries.get? id = some entry) (asked : named = some id → op.claimed? = some id) :
    EntryStep op id entry (now.get? id) := by
  cases claims with
  | nothing =>
      rw [found]
      exact .same
  | @free target other known unclaimed =>
      rw [Table.get?_insert]
      by_cases same : id = target
      · subst same
        obtain rfl := Option.some.inj (found.symm.trans known)
        rw [if_pos rfl]
        exact .claimed (asked rfl) unclaimed
      · rw [if_neg same, found]
        exact .same

theorem get?_releaseFrom (entries : Table AdhocId AdhocEntry) (left : AdhocId) (job : JobId) :
    (releaseFrom entries left job).get? id =
      if id = left then (entries.get? id).map fun entry => entry.release job
      else entries.get? id := by
  unfold releaseFrom
  cases found : entries.get? left with
  | none =>
      by_cases same : id = left
      · subst same
        simp [found]
      · simp [same]
  | some other =>
      rw [Table.get?_insert]
      by_cases same : id = left
      · subst same
        simp [found]
      · simp [same]

theorem EntryStep.of_rebind {entries now : Table AdhocId AdhocEntry} {job : JobId}
    {old new : Option AdhocId} (moved : rebind entries job old new = .ok now)
    (found : entries.get? id = some entry)
    (joins : new = some id → old ≠ new → op.claimed? = some id)
    (leaves : old = some id → old ≠ new → op.Releases id job) :
    EntryStep op id entry (now.get? id) := by
  rcases rebind_ok moved with ⟨-, rfl⟩ | ⟨apart, claimed, claims, rfl⟩
  · rw [found]
    exact .same
  · have joined : EntryStep op id entry (claimed.get? id) :=
      .of_claims claims found fun target => joins target apart
    cases old with
    | none => exact joined
    | some left =>
        rw [Option.elim_some, get?_releaseFrom]
        by_cases same : id = left
        · -- what a job leaves is not what it joins, so the claim has not touched it
          subst same
          have kept : claimed.get? id = some entry := by
            cases claims with
            | nothing => exact found
            | @free target other known unclaimed =>
                have other : id ≠ target := fun same => apart (congrArg some same)
                rw [Table.get?_insert, if_neg other, found]
          rw [if_pos rfl, kept]
          exact .of_release (leaves rfl apart)
        · rw [if_neg same]
          exact joined

/-! ## Rewriting a storage -/

theorem EntryStep.of_rewrite {entries : Table AdhocId AdhocEntry} {target : AdhocId}
    {old updated : AdhocEntry} (found : entries.get? id = some entry)
    (known : entries.get? target = some old)
    (step : target = id → old = entry → EntryStep op id entry (some updated)) :
    EntryStep op id entry ((entries.insert target updated).get? id) := by
  rw [Table.get?_insert]
  by_cases same : id = target
  · subst same
    rw [if_pos rfl]
    exact step rfl (Option.some.inj (known.symm.trans found))
  · rw [if_neg same, found]
    exact .same

theorem EntryStep.of_setDeployment {r : Registry} {target : AdhocId} {old : AdhocEntry}
    {deployment : Deployment} (found : r.adhoc.get? id = some entry)
    (known : r.adhoc.get? target = some old)
    (moves : Operation.Moves target op old.deployment deployment) :
    EntryStep op id entry ((r.setDeployment target old deployment).adhoc.get? id) := by
  refine .of_rewrite found known ?_
  rintro rfl rfl
  exact .moved moves

end

/-! ## Every operation -/

theorem Applied.entryStep {s : Numbered Registry} {op : Operation}
    {result : Except RegistryError Answer × Numbered Registry} (applied : Applied s op result)
    {id : AdhocId} {entry : AdhocEntry} (issued : Issued s)
    (found : s.store.adhoc.get? id = some entry) :
    EntryStep op id entry (result.2.store.adhoc.get? id) := by
  have kept : EntryStep op id entry (s.store.adhoc.get? id) := by
    rw [found]
    exact .same
  cases applied with
  | refused | denied | read | idled | pfsRegistered | pfsUpdated | pfsRemoved => exact kept
  | jobRegistered drawn unused claims => exact .of_claims claims found fun named => named
  | @jobUpdated job resources requirements holder entries known moved =>
      cases requirements with
      | none =>
          exact .of_rebind moved found (fun _ apart => absurd rfl apart)
            (fun _ apart => absurd rfl apart)
      | some needs =>
          refine .of_rebind moved found (fun named _ => named) fun left apart => .moveJob ?_
          rw [left] at apart
          exact apart.symm
  | jobRemoved known =>
      rw [Table.get?_mapValues, found]
      exact .of_release .removeJob
  | @adhocRegistered name kind context resources raw ids drawn =>
      have other : id ≠ ⟨raw⟩ := by
        rintro rfl
        exact absurd (found.symm.trans (issued.adhoc.fresh drawn rfl)) (by simp)
      rw [Table.get?_insert, if_neg other]
      exact kept
  | adhocUpdated known clear =>
      refine .of_rewrite found known ?_
      rintro rfl rfl
      exact .contextSet rfl clear
  | @adhocRemoved adhoc caller old known clear =>
      rw [Table.get?_erase]
      by_cases here : id = adhoc
      · subst here
        obtain rfl := Option.some.inj (known.symm.trans found)
        rw [if_pos rfl]
        exact .removed rfl clear
      · rw [if_neg here]
        exact kept
  | bound known only claims => exact .of_claims claims found fun named => named
  | @unbound adhoc old jobs known sides =>
      refine .of_rewrite found known ?_
      rintro rfl rfl
      cases held : old.client with
      | none =>
          have unchanged : { old with client := none } = old := by rw [← held]
          rw [unchanged]
          exact .same
      | some client => exact .released .unbind held
  | moved answer known moves => exact .of_setDeployment found known moves

/-- What becomes of a registered storage in one operation. -/
theorem apply_entry {s : Numbered Registry} {id : AdhocId} {entry : AdhocEntry} (issued : Issued s)
    (found : s.store.adhoc.get? id = some entry) (op : Operation) :
    EntryStep op id entry ((apply s op).2.store.adhoc.get? id) :=
  (apply_applied s op).entryStep issued found

end StorageBroker.Registry
