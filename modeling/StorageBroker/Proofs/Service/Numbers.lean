import StorageBroker.Proofs.Registry.Numbers
import StorageBroker.Proofs.Service.Change

/-! # The numbers of a service

All stores draw from one allocator. In every state of a service the numbers on record have been
issued, and what a change adds to a store has a number drawn by that change, so what is gone stays
gone. -/

set_option autoImplicit false

namespace StorageBroker

namespace Service

variable {allowed : Registry.Operation → Prop}

/-- What is new in the stores was drawn in between. -/
structure Draws (s s' : Service) : Prop where
  registry : Registry.Draws ⟨s.ids, s.registry⟩ ⟨s'.ids, s'.registry⟩
  transfers : TransferLedger.Draws ⟨s.ids, s.transfers⟩ ⟨s'.ids, s'.transfers⟩
  operations : Pipeline.Draws ⟨s.ids, s.pipeline⟩ ⟨s'.ids, s'.pipeline⟩

/-- The numbers on record have been issued, and the ledger is sound. -/
structure Orderly (s : Service) : Prop where
  registry : Registry.Issued ⟨s.ids, s.registry⟩
  transfers : KeysIssued TransferId.raw s.ids.issued s.transfers.entries
  watched : KeysIssued TransferId.raw s.ids.issued s.transfers.watched
  operations : KeysIssued OperationId.raw s.ids.issued s.pipeline.operations
  sound : s.transfers.Sound

theorem Draws.refl (s : Service) : Draws s s :=
  ⟨.elsewhere _ (Nat.le_refl _), .elsewhere _ (Nat.le_refl _), .elsewhere _ (Nat.le_refl _)⟩

theorem Draws.trans {s s' s'' : Service} (first : Draws s s') (last : Draws s' s'') :
    Draws s s'' :=
  ⟨first.registry.trans last.registry, first.transfers.trans last.transfers,
    first.operations.trans last.operations⟩

theorem orderly_fresh (config : ServiceConfig) : Orderly (fresh config) where
  registry := Registry.issued_empty _
  transfers := by intro id present; simp [fresh, TransferLedger.empty] at present
  watched := by intro id present; simp [fresh, TransferLedger.empty] at present
  operations := by intro id present; simp [fresh, Pipeline.empty] at present
  sound := TransferLedger.sound_empty

/-! ## One change -/

theorem dropJob_draws {s : Service} (sound : s.transfers.Sound) (job : JobId) :
    Draws s (s.dropJob job) :=
  ⟨⟨Nat.le_refl _, .erase _ _, .mapValues _ _, .refl _⟩,
    TransferLedger.dropJob_draws sound s.ids job, ⟨Nat.le_refl _, .filter _ _⟩⟩

theorem Change.draws {s s' : Service} (change : Change allowed s s') (sound : s.transfers.Sound) :
    Draws s s' := by
  cases change with
  | registry may stays effect => exact ⟨effect.draws, .elsewhere _ effect.draws.later,
      .elsewhere _ effect.draws.later⟩
  | jobRemoved registered => exact dropJob_draws sound _
  | transfers registered effect =>
      have drawn := effect.draws sound
      exact ⟨.elsewhere _ drawn.later, drawn, .elsewhere _ drawn.later⟩
  | operations registered tied effect =>
      exact ⟨.elsewhere _ effect.draws.later, .elsewhere _ effect.draws.later, effect.draws⟩
  | limitSet registered limit | limitsRemoved registered entity limitClass =>
      exact ⟨.elsewhere _ (Nat.le_refl _), .elsewhere _ (Nat.le_refl _),
        .elsewhere _ (Nat.le_refl _)⟩

theorem Change.preserves_sound {s s' : Service} (change : Change allowed s s')
    (orderly : Orderly s) : s'.transfers.Sound := by
  cases change with
  | jobRemoved registered => exact TransferLedger.dropJob_preserves_sound orderly.sound _
  | transfers registered effect => exact effect.preserves_sound orderly.transfers orderly.sound
  | registry may stays effect | operations registered tied effect | limitSet registered limit
  | limitsRemoved registered entity limitClass => exact orderly.sound

theorem Change.preserves_orderly {s s' : Service} (change : Change allowed s s')
    (orderly : Orderly s) : Orderly s' := by
  have drawn := change.draws orderly.sound
  have later := drawn.registry.later
  exact ⟨orderly.registry.of_draws drawn.registry,
    orderly.transfers.of_drawn drawn.transfers.entries later,
    orderly.watched.of_drawn drawn.transfers.watched later,
    orderly.operations.of_drawn drawn.operations.operations later,
    change.preserves_sound orderly⟩

theorem Changes.preserve_orderly {s s' : Service} (changes : Changes allowed s s')
    (orderly : Orderly s) : Orderly s' :=
  changes.invariant (fun _ _ change => change.preserves_orderly) orderly

theorem Changes.draws {s s' : Service} (changes : Changes allowed s s') (orderly : Orderly s) :
    Draws s s' := by
  have kept : ∀ t t', Change allowed t t' → Orderly t ∧ Draws s t → Orderly t' ∧ Draws s t' := by
    rintro t t' change ⟨held, drawn⟩
    exact ⟨change.preserves_orderly held, drawn.trans (change.draws held.sound)⟩
  exact (changes.invariant kept ⟨orderly, .refl s⟩).2

/-- A job that has been issued its number and is not registered is never registered again. -/
theorem Changes.unregistered {s s' : Service} (changes : Changes allowed s s') (orderly : Orderly s)
    {job : JobId} (gone : ¬ s.Registered job) (spent : job.raw.toNat ≤ s.ids.issued) :
    ¬ s'.Registered job := by
  unfold Registered at gone ⊢
  rw [Option.not_isSome_iff_eq_none] at gone ⊢
  exact (changes.draws orderly).registry.jobs.absent gone spent

end Service

theorem Machine.run_orderly (config : ServiceConfig) (history : List Event) :
    ((Machine.fresh config).run history).service.Orderly :=
  ((Machine.fresh config).run_changes history).preserve_orderly (Service.orderly_fresh config)

end StorageBroker
