import StorageBroker.Proofs.Shell.Dollar

/-! # Text between double quotes

Between double quotes a character stands for itself unless it ends the quotes, starts an expansion,
or is hidden by a backslash. A string in double quotes is read as one word whose text is what stands
between its quotes exactly if every character there stands for itself. -/

set_option autoImplicit false

namespace StorageBroker.Shell

open Scan

/-! ## Characters that stand for themselves -/

def standsBefore (next c : Char) : Bool :=
  if c ∈ ['"', '`'] then false
  else if c = '$' then !opensExpansion next
  else if c = '\\' then next ∉ ['$', '`', '"', '\\', '\n']
  else true

/-- Whether all characters of a text stand for themselves before a character. -/
def standsAhead (next : Char) : List Char → Bool
  | [] => true
  | c :: rest => standsBefore (rest.headD next) c && standsAhead next rest

theorem standsAhead_append (next : Char) (s t : List Char) :
    standsAhead next (s ++ t) = (standsAhead (t.headD next) s && standsAhead next t) := by
  induction s with
  | nil => rfl
  | cons c s ih =>
      have same : (s ++ t).headD next = s.headD (t.headD next) := by cases s <;> rfl
      rw [List.cons_append, standsAhead, standsAhead, ih, same, Bool.and_assoc]

theorem standsBefore_of_plain {c : Char} (plain : c ∉ ['$', '`', '"', '\\']) (next : Char) :
    standsBefore next c = true := by
  simp only [List.mem_cons, List.not_mem_nil, or_false, not_or] at plain
  simp [standsBefore, plain]

theorem standsAhead_of_plain {text : List Char} (plain : ∀ c ∈ text, c ∉ ['$', '`', '"', '\\'])
    (next : Char) : standsAhead next text = true := by
  induction text with
  | nil => rfl
  | cons c text ih =>
      rw [standsAhead, standsBefore_of_plain (plain c List.mem_cons_self),
        ih fun d listed => plain d (List.mem_cons_of_mem c listed)]
      rfl

/-- The text of a word that is made of quoted text only. -/
def literal? : Word → Option (List Char)
  | [] => some []
  | .text s true :: rest => (literal? rest).map (s ++ ·)
  | _ => none

theorem literal?_cons {piece : Piece} {rest : Word} {text : List Char}
    (literal : literal? (piece :: rest) = some text) :
    ∃ s t, piece = .text s true ∧ literal? rest = some t ∧ text = s ++ t := by
  cases piece with
  | text s quoted =>
      cases quoted with
      | false => exact nomatch literal
      | true =>
          obtain ⟨t, found, rfl⟩ := Option.map_eq_some_iff.mp literal
          exact ⟨s, t, rfl, found, rfl⟩
  | parameter name use quoted => exact nomatch literal
  | arithmetic expression quoted => exact nomatch literal
  | output script quoted => exact nomatch literal

/-! ## What is read stands for at most as much text -/

/-- Some text was read as a text that is not longer; if it is as long, it is the same, and its
characters stand for themselves. -/
structure Stands (source text after : List Char) : Prop where
  bound : text.length + after.length ≤ source.length
  exact : text.length + after.length = source.length →
    source = text ++ after ∧ ∀ next, after.head? = some next → standsAhead next text = true

theorem Stands.refl (source : List Char) : Stands source [] source :=
  ⟨by simp, fun _ => ⟨rfl, fun _ _ => rfl⟩⟩

theorem Stands.trans {source text middle text' after : List Char} (first : Stands source text middle)
    (last : Stands middle text' after) : Stands source (text ++ text') after where
  bound := by
    have bound := first.bound
    have bound' := last.bound
    rw [List.length_append]
    omega
  exact := by
    intro whole
    have bound := first.bound
    have bound' := last.bound
    rw [List.length_append] at whole
    obtain ⟨rfl, stands⟩ := first.exact (by omega)
    obtain ⟨rfl, stands'⟩ := last.exact (by omega)
    refine ⟨(List.append_assoc _ _ _).symm, fun next follows => ?_⟩
    rw [standsAhead_append, stands' next follows, Bool.and_true]
    refine stands _ ?_
    cases text' with
    | nil => exact follows
    | cons c rest => rfl

/-- A text that is longer than what it was read as stands for less. -/
theorem Stands.of_shorter {source text after : List Char}
    (shorter : text.length + after.length < source.length) : Stands source text after :=
  ⟨Nat.le_of_lt shorter, fun whole => absurd whole (Nat.ne_of_lt shorter)⟩

theorem Stands.cons {source text after : List Char} (rest : Stands source text after) {c : Char}
    (stands : ∀ next, (text ++ after).head? = some next → standsBefore next c = true) :
    Stands (c :: source) (c :: text) after where
  bound := by
    have bound := rest.bound
    simp only [List.length_cons]
    omega
  exact := by
    intro whole
    simp only [List.length_cons] at whole
    obtain ⟨rfl, ahead⟩ := rest.exact (by omega)
    refine ⟨rfl, fun next follows => ?_⟩
    have first : standsBefore (text.headD next) c = true := by
      refine stands _ ?_
      cases text with
      | nil => exact follows
      | cons d text => rfl
    rw [standsAhead, first, ahead next follows]
    rfl

/-! ## Runs of text -/

theorem quotedRun_stands (source : List Char) :
    Stands source (quotedRun source).1 (quotedRun source).2 := by
  unfold quotedRun
  fun_induction textRun ['$', '`', '"', '\\'] ['"', '$', '`'] source with
  | case1 => exact .refl []
  | case2 rest run after read ih =>
      have bound : run.length + after.length ≤ rest.length := by simpa [read] using ih.bound
      exact .of_shorter (by simp only [List.length_cons]; omega)
  | case3 c rest run after read line hidden ih =>
      have bound : run.length + after.length ≤ rest.length := by simpa [read] using ih.bound
      exact .of_shorter (by simp only [List.length_cons]; omega)
  | case4 c rest run after read line visible ih =>
      rw [read] at ih
      refine (ih.cons fun next _ => standsBefore_of_plain visible next).cons fun next follows => ?_
      obtain rfl := Option.some.inj follows
      simp only [List.mem_cons, List.not_mem_nil, or_false, not_or] at visible
      simp [standsBefore, visible, line]
  | case5 c rest last ending => exact .refl _
  | case6 c rest last plain run after read ih =>
      rw [read] at ih
      refine ih.cons fun next follows => ?_
      by_cases slash : c = '\\'
      · -- a backslash at the end of the text has nothing after it
        have nothing : rest = [] := by
          cases rest with
          | nil => rfl
          | cons d rest => exact (last d rest slash rfl).elim
        subst nothing
        have ended : ([], []) = (run, after) := read
        simp only [Prod.mk.injEq] at ended
        simp [← ended.1, ← ended.2] at follows
      · refine standsBefore_of_plain ?_ next
        simp only [List.mem_cons, List.not_mem_nil, or_false, not_or] at plain ⊢
        exact ⟨plain.2.1, plain.2.2, plain.1, slash⟩

/-! ## Strings in double quotes -/

section

variable (inner : (n : Nested) → Scan n.Result)

/-- A reader of a piece between double quotes. -/
def quotedPiece : Scan Piece := quotedText <|> dollar inner true <|> backQuoted inner true

theorem quotedText_eq_some {s after : List Char} {piece : Piece}
    (read : quotedText s = some (piece, after)) :
    piece = .text (quotedRun s).1 true ∧ after = (quotedRun s).2 := by
  unfold quotedText runOf at read
  split at read
  · rename_i rest run
    split at read
    · cases read
      simp [run]
    · exact nomatch read
  · rename_i text rest nonempty run
    cases read
    simp [run]

theorem quotedPiece_stands {s x after : List Char}
    (read : quotedPiece inner s = some (.text x true, after)) : Stands s x after := by
  rcases orElse_eq_some.mp read with text | ⟨-, read⟩
  · obtain ⟨same, rfl⟩ := quotedText_eq_some text
    obtain rfl : x = (quotedRun s).1 := by simpa using same
    exact quotedRun_stands s
  rcases orElse_eq_some.mp read with sign | ⟨-, output⟩
  · obtain ⟨rfl, rfl, -, shut⟩ := dollar_text inner sign
    exact (Stands.refl after).cons fun next follows => by simp [standsBefore, shut next follows]
  · exact absurd output (backQuoted_noText inner true s x true after)

theorem upTo_stands {n : Nat} {s after text : List Char} {pieces : List Piece}
    (read : Scan.upTo (quotedPiece inner) n s = some (pieces, after))
    (literal : literal? pieces = some text) : Stands s text after := by
  induction n generalizing s pieces text with
  | zero =>
      cases read
      cases literal
      exact .refl _
  | succ n ih =>
      obtain ⟨first, middle, one, read⟩ := bind_eq_some.mp read
      rcases orElse_eq_some.mp one with one | ⟨-, one⟩
      · obtain ⟨piece, front, rfl⟩ := map_eq_some.mp one
        obtain ⟨rest, last, more, same⟩ := bind_eq_some.mp read
        cases same
        obtain ⟨x, y, rfl, behind, rfl⟩ := literal?_cons literal
        exact (quotedPiece_stands inner front).trans (ih more behind)
      · cases one
        cases read
        cases literal
        exact .refl _

/-- The word that is made of the pieces between double quotes. -/
def quotedWord (pieces : List Piece) : Word :=
  match pieces with
  | [.parameter "@" .value _] => pieces
  | _ => .text [] true :: pieces

theorem literal?_quotedWord (pieces : List Piece) :
    literal? (quotedWord pieces) = literal? pieces := by
  unfold quotedWord
  split
  · rfl
  · simp [literal?]

theorem quotedWord_ne_nil (pieces : List Piece) : quotedWord pieces ≠ [] := by
  unfold quotedWord
  split <;> exact List.cons_ne_nil _ _

theorem doubleQuoted_eq : doubleQuoted inner = do
    Scan.lit "\""
    let pieces ← Scan.many (quotedPiece inner)
    Scan.lit "\""
    return quotedWord pieces := by
  unfold doubleQuoted quotedWord
  refine bind_congr fun _ => bind_congr fun pieces => bind_congr fun _ => ?_
  split
  · rfl
  · simp_all

/-- A string in double quotes is read as the pieces between its quotes. -/
theorem doubleQuoted_eq_some {s after : List Char} {word : Word} :
    doubleQuoted inner ('"' :: s) = some (word, after) ↔
    ∃ pieces, Scan.upTo (quotedPiece inner) s.length s = some (pieces, '"' :: after) ∧
      word = quotedWord pieces := by
  have opened (rest : List Char) : Scan.lit "\"" ('"' :: rest) = some ((), rest) := rfl
  rw [doubleQuoted_eq, bind_of_some (opened s)]
  constructor
  · intro read
    obtain ⟨pieces, middle, many, read⟩ := bind_eq_some.mp read
    obtain ⟨⟨⟩, last, close, read⟩ := bind_eq_some.mp read
    cases read
    obtain rfl := lit_eq_some close
    exact ⟨pieces, many, rfl⟩
  · rintro ⟨pieces, read, rfl⟩
    rw [bind_of_some (show Scan.many (quotedPiece inner) s = _ from read), bind_of_some (opened after)]
    rfl

omit inner in
/-- Text that stands for itself is read as it is, up to a dollar sign or the end of its quotes. -/
theorem quotedRun_of_stands (rest : List Char) : ∀ {text : List Char},
    standsAhead '"' text = true →
    ∃ run left, text = run ++ left ∧ quotedRun (text ++ '"' :: rest) = (run, left ++ '"' :: rest) ∧
      standsAhead '"' left = true ∧ (run = [] → text.head?.all (· = '$'))
  | [], _ => ⟨[], [], rfl, rfl, rfl, fun _ => rfl⟩
  | c :: text, stands => by
    by_cases sign : c = '$'
    · subst sign
      exact ⟨[], '$' :: text, rfl, by simp [quotedRun, textRun], stands, fun _ => rfl⟩
    by_cases slash : c = '\\'
    · subst slash
      cases text with
      | nil => exact absurd stands (by decide)
      | cons d text =>
          simp only [standsAhead, Bool.and_eq_true, List.headD_cons] at stands
          obtain ⟨visible, -, stands⟩ := stands
          obtain ⟨run, left, rfl, read, stands, -⟩ := quotedRun_of_stands rest stands
          refine ⟨'\\' :: d :: run, left, rfl, ?_, stands, nofun⟩
          unfold quotedRun at read ⊢
          simp only [standsBefore] at visible
          simp_all [textRun]
    · simp only [standsAhead, Bool.and_eq_true] at stands
      obtain ⟨plain, stands⟩ := stands
      obtain ⟨run, left, rfl, read, stands, -⟩ := quotedRun_of_stands rest stands
      refine ⟨c :: run, left, rfl, ?_, stands, nofun⟩
      unfold quotedRun at read ⊢
      have ordinary : c ∉ ['"', '`'] := by
        intro special
        simp [standsBefore, special] at plain
      simp_all [textRun]

omit inner in
theorem quotedText_of_run {s run after : List Char} (nonempty : run ≠ [])
    (read : quotedRun s = (run, after)) : quotedText s = some (.text run true, after) := by
  unfold quotedText runOf
  rw [read]
  cases run with
  | nil => exact absurd rfl nonempty
  | cons c run => rfl

omit inner in
theorem quotedText_of_ending {c : Char} {rest : List Char} (ending : c ∈ ['"', '$', '`']) :
    quotedText (c :: rest) = none := by
  have read : quotedRun (c :: rest) = ([], c :: rest) := by
    unfold quotedRun
    simp only [List.mem_cons, List.not_mem_nil, or_false] at ending
    rcases ending with rfl | rfl | rfl <;> simp [textRun]
  unfold quotedText runOf
  rw [read]
  simp

theorem quotedPiece_quote (rest : List Char) : quotedPiece inner ('"' :: rest) = none :=
  orElse_eq_none.mpr ⟨quotedText_of_ending (by simp), orElse_eq_none.mpr
    ⟨bind_of_none (lit_of_ne rfl (by decide)), bind_of_none (lit_of_ne rfl (by decide))⟩⟩

/-- A piece of text that stands for itself is read off its front. -/
theorem quotedPiece_of_stands (rest : List Char) {text : List Char}
    (stands : standsAhead '"' text = true) (nonempty : text ≠ []) :
    ∃ x left, text = x ++ left ∧ x ≠ [] ∧ standsAhead '"' left = true ∧
      quotedPiece inner (text ++ '"' :: rest) = some (.text x true, left ++ '"' :: rest) := by
  obtain ⟨run, left, whole, read, stands', signs⟩ := quotedRun_of_stands rest stands
  by_cases blank : run = []
  · subst blank
    cases text with
    | nil => exact absurd rfl nonempty
    | cons c text =>
        obtain rfl : c = '$' := by simpa using signs rfl
        simp only [standsAhead, Bool.and_eq_true] at stands
        obtain ⟨shut, stands⟩ := stands
        refine ⟨['$'], text, rfl, nofun, stands, ?_⟩
        unfold quotedPiece
        rw [List.cons_append, orElse_of_none (quotedText_of_ending (by simp))]
        refine orElse_eq_some.mpr (.inl ?_)
        cases text with
        | nil => exact dollar_of_shut inner (by simpa [standsBefore] using shut)
        | cons d text => exact dollar_of_shut inner (by simpa [standsBefore] using shut)
  · exact ⟨run, left, whole, blank, stands',
      orElse_eq_some.mpr (.inl (quotedText_of_run blank read))⟩

theorem exists_upTo_of_stands (rest : List Char) {n : Nat} {text : List Char}
    (stands : standsAhead '"' text = true) (enough : text.length ≤ n) :
    ∃ pieces, Scan.upTo (quotedPiece inner) n (text ++ '"' :: rest) = some (pieces, '"' :: rest) ∧
      literal? pieces = some text := by
  induction n generalizing text with
  | zero =>
      obtain rfl := List.length_eq_zero_iff.mp (Nat.le_zero.mp enough)
      exact ⟨[], rfl, rfl⟩
  | succ n ih =>
      by_cases blank : text = []
      · subst blank
        have ended := map_of_none (g := some) (quotedPiece_quote inner rest)
        exact ⟨[], bind_eq_some.mpr ⟨none, _, orElse_eq_some.mpr (.inr ⟨ended, rfl⟩), rfl⟩, rfl⟩
      · obtain ⟨x, left, rfl, nonempty, stands', one⟩ := quotedPiece_of_stands inner rest stands blank
        have shorter : left.length ≤ n := by
          have positive := List.length_pos_iff.mpr nonempty
          rw [List.length_append] at enough
          omega
        obtain ⟨pieces, more, literal⟩ := ih stands' shorter
        refine ⟨.text x true :: pieces, ?_, by simp [literal?, literal]⟩
        refine bind_eq_some.mpr ⟨some (.text x true), _,
          orElse_eq_some.mpr (.inl (map_eq_some.mpr ⟨_, one, rfl⟩)), ?_⟩
        exact bind_eq_some.mpr ⟨pieces, _, more, rfl⟩

/-- A string in double quotes is one word whose text is what stands between the quotes, exactly if
every character there stands for itself. -/
theorem reads_literally_iff {text rest : List Char} :
    (∃ word, doubleQuoted inner ('"' :: text ++ '"' :: rest) = some (word, rest) ∧
      literal? word = some text) ↔ standsAhead '"' text = true := by
  rw [List.cons_append]
  constructor
  · rintro ⟨word, read, literal⟩
    obtain ⟨pieces, many, rfl⟩ := (doubleQuoted_eq_some inner).mp read
    rw [literal?_quotedWord] at literal
    obtain ⟨-, stands⟩ := (upTo_stands inner many literal).exact (by simp)
    exact stands '"' rfl
  · intro stands
    obtain ⟨pieces, read, literal⟩ := exists_upTo_of_stands inner rest stands
      (n := (text ++ '"' :: rest).length) (by simp)
    exact ⟨quotedWord pieces, (doubleQuoted_eq_some inner).mpr ⟨pieces, read, rfl⟩,
      (literal?_quotedWord pieces).trans literal⟩

end

end StorageBroker.Shell
