import StorageBroker.Proofs.Text.Scan
import StorageBroker.Shell.Reader

/-! # Dollar signs between double quotes

An expansion is no text. So a dollar sign between double quotes is read as text exactly if no
expansion starts there, which the character after it decides. -/

set_option autoImplicit false

namespace StorageBroker.Shell

open Scan

/-- Whether an expansion starts at a dollar sign before this character. -/
def opensExpansion (next : Char) : Bool :=
  next ∈ ['(', '\x7b'] || startsName next || next.isDigit ||
    next ∈ ['$', '?', '#', '!', '@', '*', '-']

/-! ## Expansions are no text -/

def Piece.isText : Piece → Bool
  | .text _ _ => true
  | _ => false

/-- A reader of pieces that are no text. -/
def NoText (item : Scan Piece) : Prop :=
  ∀ s x quoted after, item s ≠ some (.text x quoted, after)

theorem NoText.pure {piece : Piece} (other : piece.isText = false) : NoText (pure piece) := by
  intro s x quoted after read
  obtain rfl : piece = .text x quoted := congrArg Prod.fst (Option.some.inj read)
  exact Bool.noConfusion other

theorem NoText.failure : NoText failure :=
  fun _ _ _ _ => failure_ne_some

theorem NoText.bind {α : Type} {a : Scan α} {f : α → Scan Piece} (rest : ∀ x, NoText (f x)) :
    NoText (a >>= f) := by
  intro s text quoted after read
  obtain ⟨x, middle, -, read⟩ := bind_eq_some.mp read
  exact rest x middle text quoted after read

/-- Text comes from the last of the alternatives that can give any. -/
theorem NoText.skip {a b : Scan Piece} (first : NoText a) {s x after : List Char} {quoted : Bool}
    (read : (a <|> b) s = some (.text x quoted, after)) :
    a s = none ∧ b s = some (.text x quoted, after) := by
  rcases orElse_eq_some.mp read with read | last
  · exact absurd read (first s x quoted after)
  · exact last

/-! ## Lone dollar signs -/

theorem parameterName_eq_none {next : Char} {rest : List Char} :
    parameterName (next :: rest) = none ↔ startsName next = false ∧
      (next.isDigit || next ∈ ['$', '?', '#', '!', '@', '*', '-']) = false := by
  unfold parameterName name
  exact orElse_eq_none.trans (and_congr
    ((bind_eq_none fun _ _ => Option.some_ne_none _).trans char_eq_none)
    ((bind_eq_none fun _ _ => Option.some_ne_none _).trans char_eq_none))

section

variable (inner : (n : Nested) → Scan n.Result)

theorem backQuoted_noText (quoted : Bool) : NoText (backQuoted inner quoted) := by
  unfold backQuoted
  refine .bind fun _ => .bind fun text => ?_
  split
  · exact .pure rfl
  · exact .failure

/-- Only a lone dollar sign is read as text. -/
theorem dollar_text {s x after : List Char} {quoted : Bool}
    (read : dollar inner true s = some (.text x quoted, after)) :
    s = '$' :: after ∧ x = ['$'] ∧ quoted = true ∧
      ∀ next, after.head? = some next → opensExpansion next = false := by
  unfold dollar at read
  obtain ⟨⟨⟩, u, sign, read⟩ := bind_eq_some.mp read
  obtain ⟨-, read⟩ := NoText.skip (.bind fun _ => .bind fun text => .bind fun _ => by
    split
    · exact .pure rfl
    · exact .failure) read
  obtain ⟨-, read⟩ := NoText.skip (.bind fun _ => .bind fun next => by
    split
    · exact .bind fun _ => .bind fun _ => .bind fun _ => .bind fun _ => .pure rfl
    · exact .bind fun _ => .bind fun _ => .bind fun _ => .pure rfl) read
  obtain ⟨-, read⟩ := NoText.skip (.bind fun _ => .bind fun _ => .bind fun _ => .pure rfl) read
  obtain ⟨-, read⟩ := NoText.skip
    (.bind fun _ => .bind fun _ => .bind fun _ => .bind fun _ => .pure rfl) read
  obtain ⟨-, read⟩ := NoText.skip (.bind fun _ => .bind fun _ => .bind fun _ => .pure rfl) read
  obtain ⟨unnamed, read⟩ := NoText.skip (.bind fun _ => .pure rfl) read
  obtain ⟨next?, v, peeked, read⟩ := bind_eq_some.mp read
  obtain ⟨rfl, rfl⟩ : u.head? = next? ∧ u = v := by simpa [Scan.peek] using peeked
  have unnamed := (bind_eq_none fun _ _ => Option.some_ne_none _).mp unnamed
  have source := lit_eq_some sign
  cases u with
  | nil =>
      obtain ⟨⟨rfl, rfl⟩, rfl⟩ : (['$'] = x ∧ true = quoted) ∧ [] = after := by
        simpa [pure_eq] using read
      exact ⟨source, rfl, rfl, fun next follows => absurd follows (by simp)⟩
  | cons next rest =>
      have shut : next ∉ ['(', '\x7b'] := by
        simp only [List.mem_cons, List.not_mem_nil, or_false, not_or]
        constructor <;> rintro rfl <;> exact failure_ne_some read
      obtain ⟨⟨rfl, rfl⟩, rfl⟩ : (['$'] = x ∧ true = quoted) ∧ next :: rest = after := by
        simp only [List.mem_cons, List.not_mem_nil, or_false, not_or] at shut
        simpa [pure_eq, shut] using read
      refine ⟨source, rfl, rfl, fun first follows => ?_⟩
      obtain rfl : next = first := Option.some.inj follows
      obtain ⟨starts, special⟩ := parameterName_eq_none.mp unnamed
      simp only [opensExpansion, shut, starts]
      simpa using special

theorem dollar_of_shut {next : Char} {rest : List Char} (shut : opensExpansion next = false) :
    dollar inner true ('$' :: next :: rest) = some (.text ['$'] true, next :: rest) := by
  simp only [opensExpansion, Bool.or_eq_false_iff, decide_eq_false_iff_not, List.mem_cons,
    List.not_mem_nil, or_false, not_or] at shut
  obtain ⟨⟨⟨⟨parenthesis, brace⟩, starts⟩, digit⟩, special⟩ := shut
  have unnamed : parameterName (next :: rest) = none :=
    parameterName_eq_none.mpr ⟨starts, by simp [digit, special]⟩
  unfold dollar
  rw [bind_of_some (show Scan.lit "$" ('$' :: next :: rest) = some ((), next :: rest) from rfl),
    orElse_of_none (bind_of_none (lit_of_ne rfl (Ne.symm parenthesis))),
    orElse_of_none (bind_of_none (lit_of_ne rfl (Ne.symm parenthesis))),
    orElse_of_none (bind_of_none (lit_of_ne rfl (Ne.symm brace))),
    orElse_of_none (bind_of_none (lit_of_ne rfl (Ne.symm brace))),
    orElse_of_none (bind_of_none (lit_of_ne rfl (Ne.symm brace))),
    orElse_of_none (bind_of_none unnamed),
    bind_of_some (show Scan.peek (next :: rest) = some (some next, next :: rest) from rfl)]
  simp [pure_eq, parenthesis, brace]

end

end StorageBroker.Shell
