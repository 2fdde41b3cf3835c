import Mathlib.Data.List.Induction
import StorageBroker.Proofs.Drawn

/-! # Histories of a store

A store shares its allocator with others, which draw numbers between its operations. A history says
what is asked of the store and how many numbers are drawn elsewhere. An operation is open after a
history if it has succeeded and nothing that ends what it began has succeeded since. -/

set_option autoImplicit false

namespace StorageBroker.Numbered

variable {σ ω ε α : Type}

/-- What happens to a store and its allocator: an operation, or numbers drawn by another store. -/
inductive Turn (ω : Type)
  | own (operation : ω)
  | elsewhere (drawn : Nat)
  deriving DecidableEq, Repr

section

variable (step : Numbered σ → ω → Except ε α × Numbered σ)

def turn (s : Numbered σ) : Turn ω → Numbered σ
  | .own operation => (step s operation).2
  | .elsewhere drawn => ⟨(s.ids.take drawn).2, s.store⟩

def turns (s : Numbered σ) (history : List (Turn ω)) : Numbered σ := history.foldl (turn step) s

def Succeeds (s : Numbered σ) (operation : ω) : Prop := ∃ answer, (step s operation).1 = .ok answer

def answer? (s : Numbered σ) : Turn ω → Option (ω × Except ε α)
  | .own operation => some (operation, (step s operation).1)
  | .elsewhere _ => none

/-- All that is asked in a history, with the answers. -/
def answers (s : Numbered σ) : List (Turn ω) → List (ω × Except ε α)
  | [] => []
  | next :: rest => (s.answer? step next).toList ++ (s.turn step next).answers rest

/-- An operation has succeeded after the first part of a history, and nothing that ends what it
began has succeeded since. -/
def OpenSince (s : Numbered σ) (history : List (Turn ω)) (operation : ω) (ends : ω → Prop)
    (first : List (Turn ω)) : Prop :=
  (s.turns step first).Succeeds step operation ∧
  ∃ rest, history = first ++ .own operation :: rest ∧
    ∀ entry ∈ (s.turns step (first ++ [.own operation])).answers step rest,
      ends entry.1 → ∃ e, entry.2 = .error e

end

variable {step : Numbered σ → ω → Except ε α × Numbered σ}

theorem turns_append (s : Numbered σ) (history more : List (Turn ω)) :
    s.turns step (history ++ more) = (s.turns step history).turns step more :=
  List.foldl_append

theorem turns_concat (s : Numbered σ) (history : List (Turn ω)) (next : Turn ω) :
    s.turns step (history ++ [next]) = (s.turns step history).turn step next :=
  turns_append s history [next]

theorem turns_invariant {P : Numbered σ → Prop}
    (kept : ∀ s next, P s → P (s.turn step next)) {s : Numbered σ} (initial : P s)
    (history : List (Turn ω)) : P (s.turns step history) := by
  induction history generalizing s with
  | nil => exact initial
  | cons next rest ih => exact ih (kept s next initial)

theorem answers_concat (s : Numbered σ) (history : List (Turn ω)) (next : Turn ω) :
    s.answers step (history ++ [next]) =
      s.answers step history ++ ((s.turns step history).answer? step next).toList := by
  induction history generalizing s with
  | nil => simp [answers, turns]
  | cons early rest ih =>
      simp only [List.cons_append, answers, ih, List.append_assoc]
      rfl

/-- Whenever a key that names a row names one later, the two are related as far as every turn relates
them: the number of the key was spent before, so the row has been there all along. -/
theorem turns_related {κ β : Type} [DecidableEq κ] (rows : σ → Table κ β) {raw : κ → UInt64}
    (holds : Numbered σ → Prop) (related : β → β → Prop)
    (kept : ∀ s next, holds s → holds (s.turn step next))
    (drawn : ∀ (s : Numbered σ) next, s.ids.issued ≤ (s.turn step next).ids.issued)
    (origin : ∀ s next k now, holds s → (rows (s.turn step next).store).get? k = some now →
      (∃ before, (rows s.store).get? k = some before ∧ related before now) ∨
        s.ids.issued < (raw k).toNat)
    (refl : ∀ v, related v v) (trans : ∀ u v w, related u v → related v w → related u w)
    {s : Numbered σ} (initial : holds s) {k : κ} {v now : β}
    (found : (rows s.store).get? k = some v) (spent : (raw k).toNat ≤ s.ids.issued)
    (history : List (Turn ω)) (later : (rows (s.turns step history).store).get? k = some now) :
    related v now := by
  induction history using List.reverseRecOn generalizing now with
  | nil =>
      obtain rfl := Option.some.inj (found.symm.trans later)
      exact refl v
  | append_singleton history next ih =>
      rw [turns_concat] at later
      rcases origin _ next k now (turns_invariant kept initial history) later with
        ⟨before, known, same⟩ | unspent
      · exact trans v before now (ih known) same
      · have more : s.ids.issued ≤ (s.turns step history).ids.issued :=
          turns_invariant (P := fun t => s.ids.issued ≤ t.ids.issued)
            (fun t next held => Nat.le_trans held (drawn t next)) (Nat.le_refl _) history
        omega

/-! ## What is open -/

section

variable {s : Numbered σ} {history first : List (Turn ω)} {operation : ω} {ends : ω → Prop}

theorem not_openSince_nil : ¬ s.OpenSince step [] operation ends first := by
  rintro ⟨-, rest, split, -⟩
  simp at split

/-- An operation is open after one more turn if that turn has opened it, or if it was open and the
turn has not ended it. -/
theorem openSince_concat {next : Turn ω} :
    s.OpenSince step (history ++ [next]) operation ends first ↔
      (next = .own operation ∧ first = history ∧
        (s.turns step history).Succeeds step operation) ∨
      (s.OpenSince step history operation ends first ∧
        ∀ asked, next = .own asked → ends asked →
          ¬ (s.turns step history).Succeeds step asked) := by
  constructor
  · rintro ⟨succeeded, rest, split, quiet⟩
    rcases List.eq_nil_or_concat rest with rfl | ⟨early, last, rfl⟩
    · obtain ⟨rfl, same⟩ := List.append_inj' split rfl
      exact .inl ⟨List.singleton_inj.mp same, rfl, succeeded⟩
    · rw [List.concat_eq_append] at split quiet
      rw [← List.cons_append, ← List.append_assoc] at split
      obtain ⟨rfl, same⟩ := List.append_inj' split rfl
      obtain rfl := List.singleton_inj.mp same
      rw [answers_concat, ← turns_append, List.append_assoc, List.singleton_append] at quiet
      refine .inr ⟨⟨succeeded, early, rfl, fun entry listed => quiet entry ?_⟩, ?_⟩
      · exact List.mem_append_left _ listed
      · rintro asked rfl ending ⟨answer, done⟩
        obtain ⟨e, refused⟩ := quiet _ (List.mem_append_right _ (List.mem_singleton_self _)) ending
        exact absurd (refused.symm.trans done) (by simp)
  · rintro (⟨rfl, rfl, succeeded⟩ | ⟨⟨succeeded, rest, rfl, quiet⟩, goes⟩)
    · exact ⟨succeeded, [], rfl, by simp [answers]⟩
    · refine ⟨succeeded, rest ++ [next], by simp, fun entry listed ending => ?_⟩
      rw [answers_concat, ← turns_append, List.append_assoc, List.singleton_append] at listed
      rcases List.mem_append.mp listed with early | late
      · exact quiet entry early ending
      · cases next with
        | elsewhere drawn => exact absurd late (by simp [answer?])
        | own asked =>
            obtain rfl := List.mem_singleton.mp late
            have refused := goes asked rfl ending
            cases answered : (step (s.turns step (first ++ .own operation :: rest)) asked).1 with
            | error e => exact ⟨e, rfl⟩
            | ok answer => exact absurd ⟨answer, answered⟩ refused

theorem exists_openSince_concat {next : Turn ω} :
    (∃ first, s.OpenSince step (history ++ [next]) operation ends first) ↔
      (next = .own operation ∧ (s.turns step history).Succeeds step operation) ∨
      ((∃ first, s.OpenSince step history operation ends first) ∧
        ∀ asked, next = .own asked → ends asked →
          ¬ (s.turns step history).Succeeds step asked) := by
  simp only [openSince_concat, exists_or, exists_and_right]
  refine or_congr ?_ Iff.rfl
  constructor
  · rintro ⟨first, opens, -, succeeded⟩
    exact ⟨opens, succeeded⟩
  · rintro ⟨opens, succeeded⟩
    exact ⟨history, opens, rfl, succeeded⟩

end

end StorageBroker.Numbered
