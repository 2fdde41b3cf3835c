import StorageBroker.Text.Scan

/-! # What scanners read

One lemma for each way in which scanners are put together says when the whole reads something, and
when it reads nothing. -/

set_option autoImplicit false

namespace StorageBroker.Scan

section

variable {α β : Type} {a b : Scan α} {f : α → Scan β} {s : List Char}

theorem pure_eq (x : α) : (pure x : Scan α) s = some (x, s) :=
  rfl

theorem failure_ne_some {read : α × List Char} : (failure : Scan α) s ≠ some read :=
  (Option.some_ne_none read).symm

theorem orElse_eq_some {read : α × List Char} :
    (a <|> b) s = some read ↔ a s = some read ∨ (a s = none ∧ b s = some read) := by
  change (a s <|> b s) = _ ↔ _
  cases a s <;> simp

theorem orElse_eq_none : (a <|> b) s = none ↔ a s = none ∧ b s = none := by
  change (a s <|> b s) = _ ↔ _
  cases a s <;> simp

theorem orElse_of_none (nothing : a s = none) : (a <|> b) s = b s := by
  change (a s <|> b s) = _
  rw [nothing]
  rfl

theorem bind_eq_some {read : β × List Char} :
    (a >>= f) s = some read ↔ ∃ x after, a s = some (x, after) ∧ f x after = some read := by
  change (a s).bind (fun p => f p.1 p.2) = _ ↔ _
  rw [Option.bind_eq_some_iff, Prod.exists]

theorem map_eq_some {g : α → β} {y : β} {after : List Char} :
    (g <$> a) s = some (y, after) ↔ ∃ x, a s = some (x, after) ∧ g x = y := by
  change (a s).bind (fun p => some (g p.1, p.2)) = _ ↔ _
  rw [Option.bind_eq_some_iff, Prod.exists]
  simp

theorem map_of_none {g : α → β} (nothing : a s = none) : (g <$> a) s = none := by
  change (a s).bind (fun p => some (g p.1, p.2)) = _
  rw [nothing, Option.bind_none]

theorem bind_of_none (nothing : a s = none) : (a >>= f) s = none := by
  change (a s).bind (fun p => f p.1 p.2) = _
  rw [nothing, Option.bind_none]

theorem bind_of_some {x : α} {after : List Char} (read : a s = some (x, after)) :
    (a >>= f) s = f x after := by
  change (a s).bind (fun p => f p.1 p.2) = _
  rw [read, Option.bind_some]

/-- What cannot fail after a reader does not make it fail. -/
theorem bind_eq_none (never : ∀ x after, f x after ≠ none) : (a >>= f) s = none ↔ a s = none := by
  constructor
  · intro nothing
    cases read : a s with
    | none => rfl
    | some p => exact absurd ((bind_of_some read).symm.trans nothing) (never p.1 p.2)
  · exact bind_of_none

theorem char_eq_none {p : Char → Bool} {c : Char} {rest : List Char} :
    char p (c :: rest) = none ↔ p c = false := by
  simp [char]

theorem lit_eq_some {text : String} {after : List Char} (read : lit text s = some ((), after)) :
    s = text.toList ++ after := by
  unfold lit at read
  split at read
  · rename_i front
    obtain ⟨rest, rfl⟩ := List.isPrefixOf_iff_prefix.mp front
    simp only [Option.some.injEq, Prod.mk.injEq, true_and] at read
    rw [← read, ← String.length_toList, List.drop_left]
  · exact nomatch read

theorem lit_of_ne {text : String} {c d : Char} {front rest : List Char}
    (starts : text.toList = c :: front) (other : c ≠ d) : lit text (d :: rest) = none := by
  simp [lit, starts, other]

end

end StorageBroker.Scan
