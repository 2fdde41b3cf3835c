import StorageBroker.Proofs.Registry.Entry

/-! # What an operation changes

`Operation.alteration` says row by row what an operation that succeeds makes of a registry. A row
that it does not speak of stays as it was. Some operations go through all storages or all jobs for
the one that is linked to what they name; that no other row changes rests on the link. -/

set_option autoImplicit false

namespace StorageBroker

/-- What becomes of the rows of a table: the value that a key has afterwards, if any, from the value
that it had. -/
def RowEdit (κ α : Type) : Type := κ → Option α → Option α

namespace RowEdit

variable {κ α : Type} [DecidableEq κ]

def keep : RowEdit κ α := fun _ row => row

def add (key : Option κ) (value : κ → α) : RowEdit κ α :=
  fun k row => row <|> if key = some k then some (value k) else none

def drop (key : κ) : RowEdit κ α := fun k row => if key = k then none else row

def change (key : Option κ) (f : α → α) : RowEdit κ α :=
  fun k row => if key = some k then row.map f else row

def andThen (first last : RowEdit κ α) : RowEdit κ α := fun k row => last k (first k row)

def Leads (edit : RowEdit κ α) (t u : Table κ α) : Prop := ∀ k, u.get? k = edit k (t.get? k)

variable {t : Table κ α} {key : κ} {v : α}

theorem Leads.keep (t : Table κ α) : RowEdit.keep.Leads t t := fun _ => rfl

theorem Leads.changeNone (f : α → α) (t : Table κ α) : (change none f).Leads t t := fun _ => rfl

theorem Leads.insertNew (absent : t.get? key = none) (value : κ → α) :
    (add (some key) value).Leads t (t.insert key (value key)) := by
  intro k
  rw [Table.get?_insert]
  by_cases same : k = key
  · subst same
    simp [add, absent]
  · cases found : t.get? k <;> simp [add, same, Ne.symm same]

theorem Leads.insert {f : α → α} {after : α} (found : t.get? key = some v) (changed : after = f v) :
    (change (some key) f).Leads t (t.insert key after) := by
  intro k
  rw [Table.get?_insert]
  by_cases same : k = key
  · subst same
    simp [change, found, changed]
  · simp [change, same, Ne.symm same]

theorem Leads.changeSame {f : α → α} (found : t.get? key = some v) (same : f v = v) :
    (change (some key) f).Leads t t := by
  intro k
  by_cases here : key = k
  · subst here
    simp [change, found, same]
  · simp [change, here]

theorem Leads.erase (t : Table κ α) (key : κ) : (drop key).Leads t (t.erase key) := by
  intro k
  rw [Table.get?_erase]
  by_cases same : k = key
  · simp [drop, same]
  · simp [drop, same, Ne.symm same]

end RowEdit

namespace Registry

/-- What becomes of a registry, row by row. -/
structure Alteration where
  jobs : RowEdit JobId Job := .keep
  adhoc : RowEdit AdhocId AdhocEntry := .keep
  pfs : RowEdit PfsId PfsStorage := .keep

structure Alteration.Leads (alteration : Alteration) (r r' : Registry) : Prop where
  jobs : alteration.jobs.Leads r.jobs r'.jobs
  adhoc : alteration.adhoc.Leads r.adhoc r'.adhoc
  pfs : alteration.pfs.Leads r.pfs r'.pfs

namespace Operation

/-- The state that an operation moves a deployment to. -/
def deploymentAfter : Operation → Deployment → Deployment
  | .beginDeploy _, .undeployed => .deploying
  | .completeDeploy _ path, .deploying => .deployed path
  | .abortDeploy _, .deploying => .undeployed
  | .beginTeardown _, .deployed path => .tearingDown path
  | .completeTeardown _, .tearingDown _ => .undeployed
  | .abortTeardown _, .tearingDown path => .deployed path
  | _, state => state

def setClient (adhoc : Option AdhocId) (client : Option JobId) : RowEdit AdhocId AdhocEntry :=
  .change adhoc fun entry => { entry with client }

def setHeld (job : Option JobId) (held : Option AdhocId) : RowEdit JobId Job :=
  .change job fun holder =>
    { holder with requirements := { holder.requirements with adhocStorage := held } }

def alteration (s : Numbered Registry) (op : Operation) : Alteration :=
  let number := s.ids.allocate.map Prod.fst
  match op with
  | .registerJob slurmId resources requirements =>
    { jobs := .add (number.map JobId.mk) fun id => ⟨id, slurmId, resources, requirements⟩
      adhoc := setClient requirements.adhocStorage (number.map JobId.mk) }
  | .updateJob id resources none => { jobs := .change (some id) fun job => { job with resources } }
  | .updateJob id resources (some requirements) =>
    { jobs := .change (some id) fun job => { job with resources, requirements }
      adhoc := (setClient (heldBy s.store.jobs id) none).andThen
        (setClient requirements.adhocStorage (some id)) }
  | .removeJob id => { jobs := .drop id, adhoc := setClient (heldBy s.store.jobs id) none }
  | .bind id client =>
    { jobs := setHeld (some client) (some id), adhoc := setClient (some id) (some client) }
  | .unbind id =>
    { jobs := setHeld (clientOf s.store.adhoc id) none, adhoc := setClient (some id) none }
  | .registerAdhoc name kind context resources =>
    { adhoc := .add (number.map AdhocId.mk) fun _ =>
        ⟨name, kind, context, resources, none, .undeployed⟩ }
  | .updateAdhoc id context _ => { adhoc := .change (some id) fun entry => { entry with context } }
  | .removeAdhoc id _ => { jobs := setHeld (clientOf s.store.adhoc id) none, adhoc := .drop id }
  | .beginDeploy id | .completeDeploy id _ | .abortDeploy id | .beginTeardown id
  | .completeTeardown id | .abortTeardown id =>
    { adhoc := .change (some id) fun entry =>
        { entry with deployment := op.deploymentAfter entry.deployment } }
  | .registerPfs name kind context =>
    { pfs := .add (number.map PfsId.mk) fun id => ⟨id, name, kind, context⟩ }
  | .updatePfs id context => { pfs := .change (some id) fun entry => { entry with context } }
  | .removePfs id => { pfs := .drop id }
  | .job _ | .jobBySlurmId _ | .adhoc _ | .pfs _ | .storage _ | .currentClient _ => {}

theorem Moves.deploymentAfter {id : AdhocId} {op : Operation} {before after : Deployment}
    (moves : Moves id op before after) : after = op.deploymentAfter before := by
  cases moves <;> rfl

end Operation

open Operation

/-! ## Clients and holders -/

theorem Claims.leads {entries now : Table AdhocId AdhocEntry} {job : JobId}
    {named : Option AdhocId} (claims : Claims entries job named now) :
    (setClient named (some job)).Leads entries now := by
  cases claims with
  | nothing => exact RowEdit.Leads.changeNone _ entries
  | free found unclaimed => exact RowEdit.Leads.insert found rfl

section

variable {r : Registry} (linked : r.Linked)
include linked

/-- Releasing a job from all storages releases it from the one that it holds. -/
theorem Linked.leads_release (job : JobId) : (setClient (heldBy r.jobs job) none).Leads r.adhoc
    (r.adhoc.mapValues fun _ entry => entry.release job) := by
  intro adhoc
  have link := linked adhoc job
  rw [Table.get?_mapValues, setClient, RowEdit.change]
  cases found : r.adhoc.get? adhoc with
  | none => simp
  | some entry =>
      have mine : entry.client = some job ↔ heldBy r.jobs job = some adhoc := by
        rw [← link, clientOf, found, Option.bind_some]
      by_cases held : heldBy r.jobs job = some adhoc
      · simp [AdhocEntry.release, mine.mpr held, held]
      · simp [AdhocEntry.release, mt mine.mp held, held]

theorem Linked.leads_forget (adhoc : AdhocId) : (setHeld (clientOf r.adhoc adhoc) none).Leads r.jobs
    (r.jobs.mapValues fun _ job => job.forget adhoc) := by
  intro id
  have link := linked adhoc id
  rw [Table.get?_mapValues, setHeld, RowEdit.change]
  cases found : r.jobs.get? id with
  | none => simp
  | some job =>
      have mine : job.requirements.adhocStorage = some adhoc ↔
          clientOf r.adhoc adhoc = some id := by
        rw [link, heldBy, found, Option.bind_some]
      by_cases client : clientOf r.adhoc adhoc = some id
      · simp [Job.forget, mine.mpr client, client]
      · simp [Job.forget, mt mine.mp client, client]

/-- A job that moves leaves the storage that it holds and joins the one that it names. -/
theorem Linked.leads_rebind {job : JobId} {holder : Job} {new : Option AdhocId}
    {now : Table AdhocId AdhocEntry} (found : r.jobs.get? job = some holder)
    (moved : rebind r.adhoc job holder.requirements.adhocStorage new = .ok now) :
    ((setClient (heldBy r.jobs job) none).andThen (setClient new (some job))).Leads r.adhoc
      now := by
  have holds : heldBy r.jobs job = holder.requirements.adhocStorage := by
    rw [heldBy, found, Option.bind_some]
  have mine : ∀ {adhoc entry}, r.adhoc.get? adhoc = some entry →
      holder.requirements.adhocStorage = some adhoc → entry.client = some job := by
    intro adhoc entry known held
    have named := (linked adhoc job).mpr (holds.trans held)
    rwa [clientOf, known, Option.bind_some] at named
  rw [holds]
  rcases rebind_ok moved with ⟨rfl, rfl⟩ | ⟨apart, claimed, claims, rfl⟩
  · -- the job stays: it is the client before and after
    intro adhoc
    cases known : r.adhoc.get? adhoc with
    | none => simp [RowEdit.andThen, setClient, RowEdit.change]
    | some entry =>
        by_cases here : holder.requirements.adhocStorage = some adhoc
        · have client := mine known here
          simp [RowEdit.andThen, setClient, RowEdit.change, here, ← client]
        · simp [RowEdit.andThen, setClient, RowEdit.change, here]
  · intro adhoc
    have joined := claims.leads adhoc
    cases left : holder.requirements.adhocStorage with
    | none => simpa [RowEdit.andThen, setClient, RowEdit.change] using joined
    | some old =>
        rw [left] at apart
        rw [Option.elim_some, get?_releaseFrom, joined]
        by_cases here : adhoc = old
        · subst here
          have other : new ≠ some adhoc := Ne.symm apart
          cases known : r.adhoc.get? adhoc with
          | none => simp [RowEdit.andThen, setClient, RowEdit.change, other]
          | some entry =>
              have client := mine known left
              simp [RowEdit.andThen, setClient, RowEdit.change, other, AdhocEntry.release, client]
        · simp [RowEdit.andThen, setClient, RowEdit.change, here, Ne.symm here]

/-- The client that a storage loses forgets it. -/
theorem Linked.leads_unbind {adhoc : AdhocId} {entry : AdhocEntry} {jobs : Table JobId Job}
    (found : r.adhoc.get? adhoc = some entry)
    (sides : (entry.client.bind r.jobs.get? = none ∧ jobs = r.jobs) ∨
      ∃ client job, entry.client = some client ∧ r.jobs.get? client = some job ∧
        jobs = r.jobs.insert client (job.forget adhoc)) :
    (setHeld (clientOf r.adhoc adhoc) none).Leads r.jobs jobs := by
  have named : clientOf r.adhoc adhoc = entry.client := by rw [clientOf, found, Option.bind_some]
  rcases sides with ⟨nobody, rfl⟩ | ⟨client, job, held, registered, rfl⟩
  · cases held : entry.client with
    | none =>
        rw [named, held]
        exact RowEdit.Leads.changeNone _ r.jobs
    | some client =>
        have holds := (linked adhoc client).mp (named.trans held)
        rw [held, Option.bind_some] at nobody
        exact absurd holds (by simp [heldBy, nobody])
  · rw [named, held]
    have holds := (linked adhoc client).mp (named.trans held)
    rw [heldBy, registered, Option.bind_some] at holds
    refine RowEdit.Leads.insert registered ?_
    rw [Job.forget, if_pos holds]

end

/-! ## Every operation -/

section

variable {s : Numbered Registry} {op : Operation}

theorem leads_setDeployment {id : AdhocId} {entry : AdhocEntry} {deployment : Deployment}
    (found : s.store.adhoc.get? id = some entry)
    (moves : Moves id op entry.deployment deployment) :
    (op.alteration s).Leads s.store (s.store.setDeployment id entry deployment) := by
  have after := moves.deploymentAfter
  have changed : (RowEdit.change (some id) fun entry =>
      { entry with deployment := op.deploymentAfter entry.deployment }).Leads s.store.adhoc
      (s.store.adhoc.insert id { entry with deployment }) :=
    .insert found (by rw [after])
  generalize entry.deployment = before at moves
  cases moves <;> exact ⟨.keep _, changed, .keep _⟩

theorem leads_idle {id : AdhocId} {entry : AdhocEntry} (found : s.store.adhoc.get? id = some entry)
    (idles : Idles id op entry.deployment) : (op.alteration s).Leads s.store s.store := by
  have same : ∀ {op : Operation}, op.deploymentAfter entry.deployment = entry.deployment →
      (RowEdit.change (some id) fun entry =>
        { entry with deployment := op.deploymentAfter entry.deployment }).Leads s.store.adhoc
        s.store.adhoc :=
    fun still => .changeSame found (by rw [still])
  cases idles with
  | abort idle =>
      refine ⟨.keep _, same ?_, .keep _⟩
      cases state : entry.deployment with
      | deploying => exact absurd state idle
      | undeployed | deployed path | tearingDown path => rfl
  | abortTeardown idle =>
      refine ⟨.keep _, same ?_, .keep _⟩
      cases state : entry.deployment with
      | tearingDown path => exact absurd state (idle path)
      | undeployed | deploying | deployed path => rfl

theorem leads_read (reads : op.reads = true) : (op.alteration s).Leads s.store s.store := by
  cases op with
  | job id | jobBySlurmId slurmId | adhoc id | pfs id | storage raw | currentClient id =>
      exact ⟨.keep _, .keep _, .keep _⟩
  | _ => cases reads

theorem Applied.leads {result : Except RegistryError Answer × Numbered Registry}
    (applied : Applied s op result) (issued : Issued s) (linked : s.store.Linked) :
    ((∃ e, result.1 = .error e) ∧ result.2.store = s.store) ∨
      (op.alteration s).Leads s.store result.2.store := by
  cases applied with
  | refused e => exact .inl ⟨⟨e, rfl⟩, rfl⟩
  | denied named found held drawn => exact .inl ⟨⟨_, rfl⟩, rfl⟩
  | read answer reads => exact .inr (leads_read reads)
  | @jobRegistered slurmId resources requirements raw ids entries drawn unused claims =>
      have fresh : s.store.jobs.get? ⟨raw⟩ = none := issued.jobs.fresh drawn rfl
      have added := RowEdit.Leads.insertNew fresh fun id =>
        (⟨id, slurmId, resources, requirements⟩ : Job)
      have claimed := claims.leads
      refine .inr ⟨?_, ?_, .keep _⟩
      · simpa only [alteration, drawn, Option.map_some] using added
      · simpa only [alteration, drawn, Option.map_some] using claimed
  | @jobUpdated id resources requirements job entries found moved =>
      right
      cases requirements with
      | none =>
          rcases rebind_ok moved with ⟨-, rfl⟩ | ⟨apart, -⟩
          · exact ⟨.insert found rfl, .keep _, .keep _⟩
          · exact absurd rfl apart
      | some needs => exact ⟨.insert found rfl, linked.leads_rebind found moved, .keep _⟩
  | @jobRemoved id job found => exact .inr ⟨.erase _ id, linked.leads_release id, .keep _⟩
  | @adhocRegistered name kind context resources raw ids drawn =>
      have fresh : s.store.adhoc.get? ⟨raw⟩ = none := issued.adhoc.fresh drawn rfl
      have added := RowEdit.Leads.insertNew fresh fun _ =>
        (⟨name, kind, context, resources, none, .undeployed⟩ : AdhocEntry)
      refine .inr ⟨.keep _, ?_, .keep _⟩
      simpa only [alteration, drawn, Option.map_some] using added
  | adhocUpdated found clear => exact .inr ⟨.keep _, .insert found rfl, .keep _⟩
  | @adhocRemoved id caller entry found clear =>
      exact .inr ⟨linked.leads_forget id, .erase _ id, .keep _⟩
  | bound found only claims => exact .inr ⟨.insert found rfl, claims.leads, .keep _⟩
  | unbound found sides =>
      exact .inr ⟨linked.leads_unbind found sides, .insert found rfl, .keep _⟩
  | moved answer found moves => exact .inr (leads_setDeployment found moves)
  | idled found idles => exact .inr (leads_idle found idles)
  | @pfsRegistered name kind context raw ids drawn =>
      have fresh : s.store.pfs.get? ⟨raw⟩ = none := issued.pfs.fresh drawn rfl
      have added := RowEdit.Leads.insertNew fresh fun id =>
        (⟨id, name, kind, context⟩ : PfsStorage)
      refine .inr ⟨.keep _, .keep _, ?_⟩
      simpa only [alteration, drawn, Option.map_some] using added
  | pfsUpdated found => exact .inr ⟨.keep _, .keep _, .insert found rfl⟩
  | @pfsRemoved id pfs found => exact .inr ⟨.keep _, .keep _, .erase _ id⟩

/-- An operation is refused and leaves the registry as it was, or changes just what its alteration
says. -/
theorem apply_leads (issued : Issued s) (linked : s.store.Linked) (op : Operation) :
    ((∃ e, (apply s op).1 = .error e) ∧ (apply s op).2.store = s.store) ∨
      (op.alteration s).Leads s.store (apply s op).2.store :=
  (apply_applied s op).leads issued linked

end

end Registry

end StorageBroker
