import StorageBroker.Proofs.Shell.Quoting
import StorageBroker.Shell.Run

/-! # Quoted text is one argument

A word that is made of quoted text is one argument of its command, whatever state the shell is in:
nothing is done, and no file is looked up, to find it. -/

set_option autoImplicit false

namespace StorageBroker.Shell

def Piece.atoms : Piece → List Atom
  | .text s quoted => Atom.ofText s quoted
  | _ => []

theorem act_bind_of_ok {α β : Type} {x : Act α} {f : α → Act β} {s after : State} {a : α}
    (done : x s = .ok a after) : (x >>= f) s = f a after := by
  simp only [bind, EStateM.bind, done]

theorem mapM_ok {α β : Type} {f : α → Act β} {g : α → β} {s : State} {l : List α}
    (each : ∀ a ∈ l, f a s = .ok (g a) s) : l.mapM f s = .ok (l.map g) s := by
  induction l with
  | nil => rfl
  | cons a l ih =>
      have first := each a List.mem_cons_self
      have others := ih fun b listed => each b (List.mem_cons_of_mem a listed)
      rw [List.mapM_cons, act_bind_of_ok first, act_bind_of_ok others]
      rfl

/-- Text is expanded to itself, and nothing is done. -/
theorem expand_of_text {word : Word} (texts : ∀ piece ∈ word, piece.isText = true) (depth : Nat)
    (separators : List Char) (s : State) :
    expand (depth + 1) separators word s = .ok (word.flatMap Piece.atoms) s := by
  rw [expand, act_bind_of_ok (mapM_ok (g := Piece.atoms) fun piece listed => ?_)]
  · rw [List.flatMap_def]
    rfl
  · cases piece with
    | text x quoted => rfl
    | parameter name use quoted => exact nomatch texts _ listed
    | arithmetic expression quoted => exact nomatch texts _ listed
    | output script quoted => exact nomatch texts _ listed

def quotedField (text : List Char) : Field :=
  text.map fun c => (c, true)

theorem fieldsFrom_within (f : Field) (text : List Char) (rest : List Atom) :
    fieldsFrom (.within f) (text.map (fun c => Atom.char c true) ++ rest) =
      fieldsFrom (.within ((quotedField text).reverse ++ f)) rest := by
  induction text generalizing f with
  | nil => rfl
  | cons c text ih =>
      rw [List.map_cons, List.cons_append, fieldsFrom, FieldState.reversed, ih]
      simp [quotedField]

theorem fieldsFrom_literal {word : Word} {text : List Char} (literal : literal? word = some text)
    (f : Field) :
    fieldsFrom (.within f) (word.flatMap Piece.atoms) = [f.reverse ++ quotedField text] := by
  induction word generalizing f text with
  | nil =>
      cases literal
      simp [fieldsFrom, quotedField]
  | cons piece word ih =>
      obtain ⟨x, y, rfl, behind, rfl⟩ := literal?_cons literal
      rw [List.flatMap_cons, Piece.atoms, Atom.ofText, if_pos rfl, List.cons_append, fieldsFrom,
        FieldState.reversed, fieldsFrom_within, ih behind]
      simp [quotedField]

/-- A field that is in quotes stands for its text, whatever files there are. -/
theorem words_quotedField (files : FileTree) (here : Location) (text : List Char) :
    (quotedField text).words files here = [String.ofList text] := by
  have shown : (quotedField text).withHidden = quotedField text := by
    induction text with
    | nil => rfl
    | cons c text ih =>
        change Field.withHidden ((c, true) :: quotedField text) = (c, true) :: quotedField text
        rw [Field.withHidden, ih]
        simp
  have plain : (quotedField text).any isWildcard = false := by
    simp [quotedField, isWildcard]
  rw [Field.words, shown, plain, if_neg Bool.false_ne_true, Field.text, quotedField, List.map_map]
  simp [Function.comp_def]

theorem isText_of_literal {word : Word} {text : List Char} (literal : literal? word = some text) :
    ∀ piece ∈ word, piece.isText = true := by
  induction word generalizing text with
  | nil => exact nofun
  | cons piece word ih =>
      obtain ⟨x, y, rfl, behind, -⟩ := literal?_cons literal
      exact List.forall_mem_cons.mpr ⟨rfl, ih behind⟩

/-- A word of quoted text is one argument of its command, which is its text: nothing is done and
nothing looked up to find it. -/
theorem fieldsOf_literal {word : Word} {text : List Char} (literal : literal? word = some text)
    (present : word ≠ []) (depth : Nat) (s : State) :
    fieldsOf (depth + 2) [word] s = .ok [String.ofList text] s := by
  have one : fields (word.flatMap Piece.atoms) = [quotedField text] := by
    cases word with
    | nil => exact absurd rfl present
    | cons piece word =>
        obtain ⟨x, y, rfl, -, -⟩ := literal?_cons literal
        exact fieldsFrom_literal literal []
  have expanded := expand_of_text (isText_of_literal literal) depth s.separators s
  have lists : ([word].mapM fun word => do
      return fields (← expand (depth + 1) s.separators word) : Act (List (List Field))) s =
        .ok [[quotedField text]] s := by
    refine mapM_ok (g := fun _ => [quotedField text]) fun other listed => ?_
    obtain rfl := List.mem_singleton.mp listed
    rw [act_bind_of_ok expanded, one]
    rfl
  rw [fieldsOf, act_bind_of_ok (show (get : Act State) s = .ok s s from rfl), act_bind_of_ok lists,
    act_bind_of_ok (show (get : Act State) s = .ok s s from rfl)]
  by_cases plain : s.hasOption 'f' = true
  · simp [plain, pure, EStateM.pure, Field.text, quotedField, Function.comp_def]
  · simp [plain, pure, EStateM.pure, words_quotedField]

end StorageBroker.Shell
