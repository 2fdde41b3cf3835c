import StorageBroker.Proofs.Registry.Alteration
import StorageBroker.Proofs.Registry.Phase

/-! # What stays for life

What an operation changes of an entity is never what the entity was registered as. A number that has
named an entity names no other one later, so whenever it names one again nothing of that has
changed. -/

set_option autoImplicit false

namespace StorageBroker

/-- What a job is registered as for good. -/
def Job.identity (job : Job) : JobId × UInt64 := (job.id, job.slurmId)

/-- What a storage is registered as for good. -/
def AdhocEntry.identity (entry : AdhocEntry) : String × AdhocKind × AdhocResources :=
  (entry.name, entry.kind, entry.resources)

/-- What a parallel file system is registered as for good. -/
def PfsStorage.identity (pfs : PfsStorage) : PfsId × String × PfsKind :=
  (pfs.id, pfs.name, pfs.kind)

/-! ## Edits that keep something -/

namespace RowEdit

variable {κ α β : Type} [DecidableEq κ] {of : α → β}

/-- A row that an edit leaves in place keeps what a function reads of it. -/
def Keeps (edit : RowEdit κ α) (of : α → β) : Prop :=
  ∀ k v now, edit k (some v) = some now → of now = of v

omit [DecidableEq κ] in
theorem keeps_keep : (keep : RowEdit κ α).Keeps of := by
  intro k v now same
  rw [Option.some.inj same]

theorem keeps_add (key : Option κ) (value : κ → α) : (add key value).Keeps of := by
  intro k v now same
  rw [Option.some.inj same]

theorem keeps_drop (key : κ) : (drop key : RowEdit κ α).Keeps of := by
  intro k v now left
  unfold drop at left
  split at left
  · exact nomatch left
  · rw [Option.some.inj left]

theorem keeps_change (key : Option κ) {f : α → α} (kept : ∀ v, of (f v) = of v) :
    (change key f).Keeps of := by
  intro k v now changed
  unfold change at changed
  split at changed
  · rw [← Option.some.inj changed]
    exact kept v
  · rw [Option.some.inj changed]

omit [DecidableEq κ] in
theorem keeps_andThen {first last : RowEdit κ α} (total : ∀ k v, (first k (some v)).isSome)
    (early : first.Keeps of) (late : last.Keeps of) : (first.andThen last).Keeps of := by
  intro k v now changed
  obtain ⟨middle, between⟩ := Option.isSome_iff_exists.mp (total k v)
  rw [andThen, between] at changed
  exact (late k middle now changed).trans (early k v middle between)

end RowEdit

namespace Registry

section

variable (op : Operation) (s : Numbered Registry)

theorem alteration_keeps_jobs : (op.alteration s).jobs.Keeps Job.identity := by
  cases op with
  | registerJob slurmId resources requirements => exact RowEdit.keeps_add _ _
  | updateJob id resources requirements =>
      cases requirements with
      | none => exact RowEdit.keeps_change _ (by exact fun _ => rfl)
      | some needs => exact RowEdit.keeps_change _ (by exact fun _ => rfl)
  | removeJob id => exact RowEdit.keeps_drop id
  | bind id job => exact RowEdit.keeps_change _ (by exact fun _ => rfl)
  | unbind id | removeAdhoc id caller => exact RowEdit.keeps_change _ (by exact fun _ => rfl)
  | _ => exact RowEdit.keeps_keep

theorem alteration_keeps_adhoc : (op.alteration s).adhoc.Keeps AdhocEntry.identity := by
  have client : ∀ id client, (Operation.setClient id client).Keeps AdhocEntry.identity :=
    fun id client => RowEdit.keeps_change id (by exact fun _ => rfl)
  cases op with
  | registerJob slurmId resources requirements => exact client _ _
  | updateJob id resources requirements =>
      cases requirements with
      | none => exact RowEdit.keeps_keep
      | some needs =>
          have stays : ∀ adhoc entry,
              (Operation.setClient (heldBy s.store.jobs id) none adhoc (some entry)).isSome := by
            intro adhoc entry
            unfold Operation.setClient RowEdit.change
            split <;> rfl
          have joins := client needs.adhocStorage (some id)
          have both := RowEdit.keeps_andThen stays (client _ _) joins
          exact both
  | removeJob id => exact client _ _
  | bind id job => exact client _ _
  | unbind id => exact client _ _
  | registerAdhoc name kind context resources => exact RowEdit.keeps_add _ _
  | removeAdhoc id caller => exact RowEdit.keeps_drop id
  | updateAdhoc id context caller => exact RowEdit.keeps_change _ (by exact fun _ => rfl)
  | beginDeploy id | abortDeploy id | beginTeardown id | completeTeardown id | abortTeardown id =>
      exact RowEdit.keeps_change _ (by exact fun _ => rfl)
  | completeDeploy id path => exact RowEdit.keeps_change _ (by exact fun _ => rfl)
  | _ => exact RowEdit.keeps_keep

theorem alteration_keeps_pfs : (op.alteration s).pfs.Keeps PfsStorage.identity := by
  cases op with
  | registerPfs name kind context => exact RowEdit.keeps_add _ _
  | updatePfs id context => exact RowEdit.keeps_change _ (by exact fun _ => rfl)
  | removePfs id => exact RowEdit.keeps_drop id
  | updateJob id resources requirements => cases requirements <;> exact RowEdit.keeps_keep
  | _ => exact RowEdit.keeps_keep

end

/-! ## Whole histories -/

/-- Numbers on record have been issued, and the two sides of the link agree. -/
structure Sound (s : Numbered Registry) : Prop where
  issued : Issued s
  linked : s.store.Linked

theorem sound_empty (ids : IdAllocator) : Sound ⟨ids, empty⟩ := ⟨issued_empty ids, linked_empty⟩

theorem turn_preserves_sound {s : Numbered Registry} (sound : Sound s)
    (next : Numbered.Turn Operation) : Sound (s.turn apply next) where
  issued := sound.issued.of_draws (turn_draws s next)
  linked := by
    cases next with
    | elsewhere drawn => exact sound.linked
    | own op => exact (apply_effect s op).preserves_linked sound.issued sound.linked

theorem turns_preserve_sound {s : Numbered Registry} (sound : Sound s)
    (history : List (Numbered.Turn Operation)) : Sound (s.turns apply history) :=
  Numbered.turns_invariant (P := Sound) (fun _ next held => turn_preserves_sound held next)
    sound history

section

variable {κ α β : Type} [DecidableEq κ] {raw : κ → UInt64} {of : α → β}
  (rows : Registry → Table κ α)

theorem turn_keeps_row {s : Numbered Registry} (sound : Sound s) {edit : Alteration → RowEdit κ α}
    (leads : ∀ alteration r r', alteration.Leads r r' → (edit alteration).Leads (rows r) (rows r'))
    (keeps : ∀ op s, (edit (Operation.alteration s op)).Keeps of)
    (next : Numbered.Turn Operation) {k : κ} {v now : α} (found : (rows s.store).get? k = some v)
    (later : (rows (s.turn apply next).store).get? k = some now) : of now = of v := by
  cases next with
  | elsewhere drawn => rw [Option.some.inj (later.symm.trans found)]
  | own op =>
      rcases apply_leads sound.issued sound.linked op with ⟨-, same⟩ | alters
      · rw [Numbered.turn, same] at later
        rw [Option.some.inj (later.symm.trans found)]
      · have edited := leads _ _ _ alters k
        rw [found] at edited
        exact keeps op s k v now (edited.symm.trans later)

/-- Whenever a number that names something names something later, it has kept what every turn
keeps. -/
theorem turns_keep_row {s : Numbered Registry} (sound : Sound s)
    (issued : ∀ s, Issued s → KeysIssued raw s.ids.issued (rows s.store))
    (drawn : ∀ s s', Draws s s' → KeysDrawn raw s.ids.issued s'.ids.issued (rows s.store)
      (rows s'.store))
    (kept : ∀ s next k v now, Sound s → (rows s.store).get? k = some v →
      (rows (s.turn apply next).store).get? k = some now → of now = of v)
    {k : κ} {v now : α} (found : (rows s.store).get? k = some v)
    (history : List (Numbered.Turn Operation))
    (later : (rows (s.turns apply history).store).get? k = some now) : of now = of v := by
  refine Numbered.turns_related rows Sound (fun before after => of after = of before)
    (fun _ next held => turn_preserves_sound held next) (fun s next => (turn_draws s next).later)
    (fun s next k now held present => ?_) (fun _ => rfl)
    (fun _ _ _ first last => last.trans first) sound found
    (issued s sound.issued k (by simp [found])) history later
  rcases drawn _ _ (turn_draws s next) k (by simp [present]) with known | ⟨new, -⟩
  · obtain ⟨before, known⟩ := Option.isSome_iff_exists.mp known
    exact .inl ⟨before, known, kept s next k before now held known present⟩
  · exact .inr new

end

section

variable {s : Numbered Registry} (sound : Sound s) (history : List (Numbered.Turn Operation))
include sound

theorem turns_keep_job {id : JobId} {job now : Job} (found : s.store.jobs.get? id = some job)
    (later : (s.turns apply history).store.jobs.get? id = some now) :
    now.identity = job.identity :=
  turns_keep_row Registry.jobs sound (fun _ issued => issued.jobs)
    (fun _ _ draws => draws.jobs)
    (fun _ next _ _ _ held => turn_keeps_row _ held (fun _ _ _ leads => leads.jobs)
      alteration_keeps_jobs next) found history later

theorem turns_keep_entry {id : AdhocId} {entry now : AdhocEntry}
    (found : s.store.adhoc.get? id = some entry)
    (later : (s.turns apply history).store.adhoc.get? id = some now) :
    now.identity = entry.identity :=
  turns_keep_row Registry.adhoc sound (fun _ issued => issued.adhoc)
    (fun _ _ draws => draws.adhoc)
    (fun _ next _ _ _ held => turn_keeps_row _ held (fun _ _ _ leads => leads.adhoc)
      alteration_keeps_adhoc next) found history later

theorem turns_keep_pfs {id : PfsId} {pfs now : PfsStorage} (found : s.store.pfs.get? id = some pfs)
    (later : (s.turns apply history).store.pfs.get? id = some now) :
    now.identity = pfs.identity :=
  turns_keep_row Registry.pfs sound (fun _ issued => issued.pfs)
    (fun _ _ draws => draws.pfs)
    (fun _ next _ _ _ held => turn_keeps_row _ held (fun _ _ _ leads => leads.pfs)
      alteration_keeps_pfs next) found history later

end

/-- After any history, an operation that succeeds changes what its alteration says and nothing else.
However the history goes on, whatever its number still names keeps what it was registered as. -/
theorem operations_change_what_they_name (ids : IdAllocator)
    (history : List (Numbered.Turn Operation)) :
    let s := (⟨ids, empty⟩ : Numbered Registry).turns apply history
    (∀ op answer, (apply s op).1 = .ok answer →
      (op.alteration s).Leads s.store (apply s op).2.store) ∧
    ∀ more,
      let r := (s.turns apply more).store
      (∀ id job now, s.store.job id = .ok job → r.job id = .ok now →
        now.id = job.id ∧ now.slurmId = job.slurmId) ∧
      (∀ id storage now, s.store.adhocStorage id = .ok storage → r.adhocStorage id = .ok now →
        now.id = storage.id ∧ now.name = storage.name ∧ now.kind = storage.kind ∧
          now.resources = storage.resources) ∧
      ∀ id pfs now, s.store.pfsStorage id = .ok pfs → r.pfsStorage id = .ok now →
        now.id = pfs.id ∧ now.name = pfs.name ∧ now.kind = pfs.kind := by
  intro s
  have sound : Sound s := turns_preserve_sound (sound_empty ids) history
  refine ⟨?_, ?_⟩
  · intro op answer done
    rcases apply_leads sound.issued sound.linked op with ⟨⟨e, refused⟩, -⟩ | leads
    · exact absurd (refused.symm.trans done) (by simp)
    · exact leads
  · intro more r
    refine ⟨?_, ?_, ?_⟩
    · intro id job now found later
      have same := turns_keep_job sound more (job_eq_ok.mp found) (job_eq_ok.mp later)
      exact Prod.mk.inj same
    · intro id storage now found later
      obtain ⟨entry, known, rfl⟩ := adhocStorage_eq_ok.mp found
      obtain ⟨last, still, rfl⟩ := adhocStorage_eq_ok.mp later
      have same := turns_keep_entry sound more known still
      obtain ⟨name, rest⟩ := Prod.mk.inj same
      obtain ⟨kind, resources⟩ := Prod.mk.inj rest
      exact ⟨rfl, name, kind, resources⟩
    · intro id pfs now found later
      have same := turns_keep_pfs sound more (pfsStorage_eq_ok.mp found)
        (pfsStorage_eq_ok.mp later)
      obtain ⟨number, rest⟩ := Prod.mk.inj same
      obtain ⟨name, kind⟩ := Prod.mk.inj rest
      exact ⟨number, name, kind⟩

end Registry

end StorageBroker
