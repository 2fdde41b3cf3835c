import StorageBroker.Registry.Operation

/-! # Numbers are drawn once

`KeysDrawn` compares a table before and after: a key that is new afterwards was drawn in between.
Since numbers are drawn in increasing order, a key that a table has lost never comes back. -/

set_option autoImplicit false

namespace StorageBroker

theorem IdAllocator.issued_le_take (n : Nat) (ids : IdAllocator) :
    ids.issued ≤ (ids.take n).2.issued := by
  induction n generalizing ids with
  | zero => exact Nat.le_refl _
  | succ n ih =>
      unfold take
      cases drawn : ids.allocate with
      | none => exact Nat.le_refl _
      | some next =>
          have one := (allocate_some drawn).2
          have more := ih next.2
          simp only
          omega

section Keys

variable {κ α : Type} [DecidableEq κ]

/-- Each key of a table was in the table before, or is a number drawn since. -/
def KeysDrawn (raw : κ → UInt64) (before after : Nat) (old new : Table κ α) : Prop :=
  ∀ k, (new.get? k).isSome →
    (old.get? k).isSome ∨ (before < (raw k).toNat ∧ (raw k).toNat ≤ after)

/-- Each key of a table has been drawn. -/
def KeysIssued (raw : κ → UInt64) (issued : Nat) (t : Table κ α) : Prop :=
  ∀ k, (t.get? k).isSome → (raw k).toNat ≤ issued

variable {raw : κ → UInt64} {before middle after : Nat} {old mid new : Table κ α}

theorem KeysDrawn.refl (t : Table κ α) : KeysDrawn raw before after t t :=
  fun _ present => .inl present

theorem KeysDrawn.trans (first : KeysDrawn raw before middle old mid)
    (last : KeysDrawn raw middle after mid new) (early : before ≤ middle) (late : middle ≤ after) :
    KeysDrawn raw before after old new := by
  intro k present
  rcases last k present with present | drawn
  · rcases first k present with present | drawn
    · exact .inl present
    · exact .inr ⟨drawn.1, Nat.le_trans drawn.2 late⟩
  · exact .inr ⟨Nat.lt_of_le_of_lt early drawn.1, drawn.2⟩

theorem KeysDrawn.rewrite (drawn : KeysDrawn raw before after old new) {k : κ} (v : α)
    (present : (new.get? k).isSome) : KeysDrawn raw before after old (new.insert k v) := by
  intro x found
  apply drawn x
  rw [Table.get?_insert] at found
  split at found
  · subst x
    exact present
  · exact found

theorem KeysDrawn.erase (t : Table κ α) (k : κ) : KeysDrawn raw before after t (t.erase k) := by
  intro x found
  rw [Table.get?_erase] at found
  split at found
  · simp at found
  · exact .inl found

theorem KeysDrawn.filter (t : Table κ α) (p : κ → α → Bool) :
    KeysDrawn raw before after t (t.filter p) := by
  intro x found
  rw [Table.get?_filter] at found
  exact .inl (Option.isSome_of_isSome_filter _ _ found)

theorem KeysDrawn.mapValues (t : Table κ α) (f : κ → α → α) :
    KeysDrawn raw before after t (t.mapValues f) := by
  intro x found
  rw [Table.get?_mapValues, Option.isSome_map] at found
  exact .inl found

theorem KeysDrawn.insert {ids next : IdAllocator} {number : UInt64}
    (drawn : ids.allocate = some (number, next)) (t : Table κ α) (k : κ) (v : α)
    (numbered : raw k = number) : KeysDrawn raw ids.issued next.issued t (t.insert k v) := by
  intro x found
  rw [Table.get?_insert] at found
  split at found
  · subst x
    have value := IdAllocator.allocate_some drawn
    rw [numbered]
    exact .inr ⟨by omega, by omega⟩
  · exact .inl found

theorem KeysIssued.of_drawn (issued : KeysIssued raw before old)
    (drawn : KeysDrawn raw before after old new) (later : before ≤ after) :
    KeysIssued raw after new := by
  intro k present
  rcases drawn k present with present | number
  · exact Nat.le_trans (issued k present) later
  · exact number.2

/-- A number about to be drawn names nothing yet. -/
theorem KeysIssued.fresh {ids next : IdAllocator} {number : UInt64} {t : Table κ α}
    (issued : KeysIssued raw ids.issued t) (drawn : ids.allocate = some (number, next)) {k : κ}
    (numbered : raw k = number) : t.get? k = none := by
  rw [← Option.not_isSome_iff_eq_none]
  intro present
  have bound := issued k present
  have value := (IdAllocator.allocate_some drawn).1
  rw [numbered] at bound
  omega

/-- A drawn number that names nothing never names anything again. -/
theorem KeysDrawn.absent (drawn : KeysDrawn raw before after old new) {k : κ}
    (gone : old.get? k = none) (spent : (raw k).toNat ≤ before) : new.get? k = none := by
  rw [← Option.not_isSome_iff_eq_none]
  intro present
  rcases drawn k present with present | number
  · simp [gone] at present
  · omega

end Keys

end StorageBroker
