import StorageBroker.Proofs.Drawn
import StorageBroker.Proofs.Registry.Effect

/-! # The numbers of registered entities

What an operation adds to the registry has a number that it drew, so every number on record has
been issued and an entity that was removed never comes back. -/

set_option autoImplicit false

namespace StorageBroker.Registry

/-- What is new on record was drawn in between. -/
structure Draws (s s' : Numbered Registry) : Prop where
  later : s.ids.issued ≤ s'.ids.issued
  jobs : KeysDrawn JobId.raw s.ids.issued s'.ids.issued s.store.jobs s'.store.jobs
  adhoc : KeysDrawn AdhocId.raw s.ids.issued s'.ids.issued s.store.adhoc s'.store.adhoc
  pfs : KeysDrawn PfsId.raw s.ids.issued s'.ids.issued s.store.pfs s'.store.pfs

/-- Every number on record has been issued. -/
structure Issued (s : Numbered Registry) : Prop where
  jobs : KeysIssued JobId.raw s.ids.issued s.store.jobs
  adhoc : KeysIssued AdhocId.raw s.ids.issued s.store.adhoc
  pfs : KeysIssued PfsId.raw s.ids.issued s.store.pfs

theorem Issued.of_draws {s s' : Numbered Registry} (issued : Issued s) (draws : Draws s s') :
    Issued s' where
  jobs := issued.jobs.of_drawn draws.jobs draws.later
  adhoc := issued.adhoc.of_drawn draws.adhoc draws.later
  pfs := issued.pfs.of_drawn draws.pfs draws.later

theorem issued_empty (ids : IdAllocator) : Issued ⟨ids, empty⟩ where
  jobs := by intro id present; simp [empty] at present
  adhoc := by intro id present; simp [empty] at present
  pfs := by intro id present; simp [empty] at present

/-- Nothing is new in a registry when another store draws numbers. -/
theorem Draws.elsewhere {ids next : IdAllocator} (r : Registry) (later : ids.issued ≤ next.issued) :
    Draws ⟨ids, r⟩ ⟨next, r⟩ :=
  ⟨later, .refl _, .refl _, .refl _⟩

theorem Draws.trans {s s' s'' : Numbered Registry} (first : Draws s s') (last : Draws s' s'') :
    Draws s s'' where
  later := Nat.le_trans first.later last.later
  jobs := first.jobs.trans last.jobs first.later last.later
  adhoc := first.adhoc.trans last.adhoc first.later last.later
  pfs := first.pfs.trans last.pfs first.later last.later

section

variable {before after : Nat} {entries now : Table AdhocId AdhocEntry} {job : JobId}

theorem Claims.keysDrawn {named : Option AdhocId} (claims : Claims entries job named now) :
    KeysDrawn AdhocId.raw before after entries now := by
  cases claims with
  | nothing => exact .refl _
  | free found unclaimed => exact (KeysDrawn.refl _).rewrite _ (by simp [found])

theorem KeysDrawn.releaseFrom (drawn : KeysDrawn AdhocId.raw before after entries now)
    (id : AdhocId) (job : JobId) :
    KeysDrawn AdhocId.raw before after entries (releaseFrom now id job) := by
  unfold Registry.releaseFrom
  cases found : now.get? id with
  | none => exact drawn
  | some entry => exact drawn.rewrite _ (by simp [found])

theorem rebind_keysDrawn {old new : Option AdhocId} (moved : rebind entries job old new = .ok now) :
    KeysDrawn AdhocId.raw before after entries now := by
  rcases rebind_ok moved with ⟨-, rfl⟩ | ⟨-, claimed, claims, rfl⟩
  · exact .refl _
  · cases old with
    | none => exact claims.keysDrawn
    | some left => exact KeysDrawn.releaseFrom claims.keysDrawn left job

end

/-- An operation adds nothing to the registry but under a number that it draws. -/
theorem Effect.draws {op : Operation} {s s' : Numbered Registry}
    (effect : Effect op s s') : Draws s s' := by
  cases effect with
  | nothing => exact .elsewhere _ (Nat.le_refl _)
  | number drawn =>
      have value := IdAllocator.allocate_some drawn
      exact ⟨by simp only; omega, .refl _, .refl _, .refl _⟩
  | jobAdded drawn numbered unused claims =>
      have value := IdAllocator.allocate_some drawn
      exact ⟨by simp only; omega, .insert drawn _ _ _ rfl, claims.keysDrawn, .refl _⟩
  | jobUpdated found kept moved =>
      exact ⟨Nat.le_refl _, (KeysDrawn.refl _).rewrite _ (by simp [found]),
        rebind_keysDrawn moved, .refl _⟩
  | jobRemoved asked found => exact ⟨Nat.le_refl _, .erase _ _, .mapValues _ _, .refl _⟩
  | adhocAdded drawn unclaimed down =>
      have value := IdAllocator.allocate_some drawn
      exact ⟨by simp only; omega, .refl _, .insert drawn _ _ _ rfl, .refl _⟩
  | contextSet context found still =>
      exact ⟨Nat.le_refl _, .refl _, (KeysDrawn.refl _).rewrite _ (by simp [found]), .refl _⟩
  | adhocRemoved found still => exact ⟨Nat.le_refl _, .mapValues _ _, .erase _ _, .refl _⟩
  | bound found only claims =>
      exact ⟨Nat.le_refl _, (KeysDrawn.refl _).rewrite _ (by simp [found]), claims.keysDrawn,
        .refl _⟩
  | unbound found sides =>
      refine ⟨Nat.le_refl _, ?_, (KeysDrawn.refl _).rewrite _ (by simp [found]), .refl _⟩
      rcases sides with ⟨-, rfl⟩ | ⟨client, job, -, registered, rfl⟩
      · exact .refl _
      · exact (KeysDrawn.refl _).rewrite _ (by simp [registered])
  | deploymentSet found moves =>
      exact ⟨Nat.le_refl _, .refl _, (KeysDrawn.refl _).rewrite _ (by simp [found]), .refl _⟩
  | pfsAdded drawn numbered =>
      have value := IdAllocator.allocate_some drawn
      exact ⟨by simp only; omega, .refl _, .refl _, .insert drawn _ _ _ rfl⟩
  | pfsUpdated context found =>
      exact ⟨Nat.le_refl _, .refl _, .refl _, (KeysDrawn.refl _).rewrite _ (by simp [found])⟩
  | pfsRemoved found => exact ⟨Nat.le_refl _, .refl _, .refl _, .erase _ _⟩

theorem Effect.preserves_issued {op : Operation} {s s' : Numbered Registry}
    (effect : Effect op s s')
    (issued : Issued s) : Issued s' :=
  issued.of_draws effect.draws

end StorageBroker.Registry
