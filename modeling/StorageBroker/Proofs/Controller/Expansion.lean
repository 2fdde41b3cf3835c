import Mathlib.Data.List.TakeWhile
import StorageBroker.Controller.Template
import StorageBroker.Wire.Scalar

/-! # Expansion is one pass

A reference scanner walks a template one character at a time; it knows nothing but the names of the
placeholders, as they stand in templates, and a value for each. The names cut a template into pieces
before any value is known: characters that are kept, and names. Walking character by character and
going from brace to brace both put the pieces out in their order. So a value is never looked at
again, and nothing but the names is touched. -/

set_option autoImplicit false

namespace StorageBroker

/-! ## The reference scanner -/

namespace Template

/-- Walks a template one character at a time: where a name starts, its value is put out and its
characters are passed over; any other character is kept. The number says how many characters are
still to be passed over. -/
def scan (values : List (List Char × List Char)) : Nat → List Char → List Char
  | _, [] => []
  | skip + 1, _ :: rest => scan values skip rest
  | 0, c :: rest =>
    match values.find? fun entry => entry.1.isPrefixOf (c :: rest) with
    | some (name, value) => value ++ scan values (name.length - 1) rest
    | none => c :: scan values 0 rest

/-- A piece of a template: a character that is kept, or a name. -/
inductive Piece
  | kept (c : Char)
  | placed (name : List Char)
  deriving DecidableEq, Repr

namespace Piece

def source : Piece → List Char
  | .kept c => [c]
  | .placed name => name

def text (values : List (List Char × List Char)) : Piece → List Char
  | .kept c => [c]
  | .placed name => ((values.find? fun entry => entry.1 = name).map Prod.snd).getD []

end Piece

/-- The pieces of a template, after so many characters that are passed over. -/
def pieces (names : List (List Char)) : Nat → List Char → List Piece
  | _, [] => []
  | skip + 1, _ :: rest => pieces names skip rest
  | 0, c :: rest =>
    match names.find? fun name => name.isPrefixOf (c :: rest) with
    | some name => .placed name :: pieces names (name.length - 1) rest
    | none => .kept c :: pieces names 0 rest

theorem find?_named {values : List (List Char × List Char)} {s : List Char}
    {entry : List Char × List Char}
    (found : (values.find? fun entry => entry.1.isPrefixOf s) = some entry) :
    (values.find? fun other => other.1 = entry.1) = some entry := by
  obtain ⟨leads, before, after, rfl, missed⟩ := List.find?_eq_some_iff_append.mp found
  refine List.find?_eq_some_iff_append.mpr ⟨by simp, before, after, rfl, fun other listed => ?_⟩
  have apart := missed other listed
  by_cases same : other.1 = entry.1
  · simp [same, leads] at apart
  · simp [same]

theorem scan_eq_pieces (values : List (List Char × List Char)) (skip : Nat) (s : List Char) :
    scan values skip s = (pieces (values.map Prod.fst) skip s).flatMap (Piece.text values) := by
  fun_induction scan values skip s with
  | case1 => rfl
  | case2 skip c rest ih => exact ih
  | case3 c rest name value found ih =>
      have named := find?_named found
      rw [pieces, List.find?_map]
      simp only [Function.comp_def, found, Option.map_some, List.flatMap_cons, ih, Piece.text, named,
        Option.getD_some]
  | case4 c rest missed ih =>
      rw [pieces, List.find?_map]
      simp only [Function.comp_def, missed, Option.map_none, List.flatMap_cons, ih]
      rfl

/-! ## The pieces of a template -/

/-- Each name opens with a brace, and none of them starts another. -/
structure Apart (names : List (List Char)) : Prop where
  opens : ∀ name ∈ names, ∃ tail, name = '\x7b' :: tail
  apart : ∀ a ∈ names, ∀ b ∈ names, a <+: b → a = b

section

variable {names : List (List Char)}

theorem Apart.eq_of_starts (distinct : Apart names) {a b : List Char} (one : a ∈ names)
    (other : b ∈ names) {s : List Char} (first : a <+: s) (second : b <+: s) : a = b := by
  rcases List.prefix_or_prefix_of_prefix first second with shorter | shorter
  · exact distinct.apart a one b other shorter
  · exact (distinct.apart b other a one shorter).symm

/-- No name starts at any other character than an opening brace. -/
theorem Apart.not_starts (distinct : Apart names) {c : Char} {rest : List Char}
    (other : c ≠ '\x7b') : ∀ name ∈ names, ¬ name <+: c :: rest := by
  intro name listed starts
  obtain ⟨tail, rfl⟩ := distinct.opens name listed
  exact other (List.cons_prefix_cons.mp starts).1.symm

theorem pieces_skip (skip : Nat) (s : List Char) :
    pieces names skip s = pieces names 0 (s.drop skip) := by
  induction s generalizing skip with
  | nil => simp [pieces]
  | cons c rest ih =>
      cases skip with
      | zero => rfl
      | succ skip => exact ih skip

theorem pieces_kept {c : Char} {rest : List Char} (plain : ∀ name ∈ names, ¬ name <+: c :: rest) :
    pieces names 0 (c :: rest) = .kept c :: pieces names 0 rest := by
  have missed : (names.find? fun name => name.isPrefixOf (c :: rest)) = none :=
    List.find?_eq_none.mpr fun name listed starts =>
      plain name listed (List.isPrefixOf_iff_prefix.mp starts)
  rw [pieces, missed]

theorem pieces_placed (distinct : Apart names) {name : List Char} (listed : name ∈ names)
    (rest : List Char) : pieces names 0 (name ++ rest) = .placed name :: pieces names 0 rest := by
  obtain ⟨tail, split⟩ := distinct.opens name listed
  have found : (names.find? fun other => other.isPrefixOf (name ++ rest)) = some name := by
    cases found : names.find? fun other => other.isPrefixOf (name ++ rest) with
    | none =>
        have missed := List.find?_eq_none.mp found name listed
        exact absurd (List.isPrefixOf_iff_prefix.mpr (List.prefix_append name rest)) missed
    | some other =>
        have starts : other <+: name ++ rest :=
          List.isPrefixOf_iff_prefix.mp (by simpa using List.find?_some found)
        rw [distinct.eq_of_starts (List.mem_of_find?_eq_some found) listed starts
          (List.prefix_append name rest)]
  have left : (tail ++ rest).drop (name.length - 1) = rest := by
    rw [split, List.length_cons, Nat.add_sub_cancel, List.drop_left]
  rw [split, List.cons_append, ← split] at found ⊢
  rw [pieces, found]
  simp only [pieces_skip (name.length - 1), left]

theorem pieces_plain (distinct : Apart names) {front : List Char} (plain : '\x7b' ∉ front)
    (tail : List Char) :
    pieces names 0 (front ++ tail) = front.map .kept ++ pieces names 0 tail := by
  induction front with
  | nil => rfl
  | cons c front ih =>
      rw [List.mem_cons, not_or] at plain
      rw [List.cons_append, pieces_kept (distinct.not_starts (Ne.symm plain.1)), ih plain.2]
      rfl

/-- Every text either goes on with a name or with a character that is kept. -/
theorem cons_cases (names : List (List Char)) (c : Char) (rest : List Char) :
    (∃ name ∈ names, ∃ after, c :: rest = name ++ after) ∨ ∀ name ∈ names, ¬ name <+: c :: rest := by
  by_cases starts : ∃ name ∈ names, name <+: c :: rest
  · obtain ⟨name, listed, after, split⟩ := starts
    exact .inl ⟨name, listed, after, split.symm⟩
  · exact .inr fun name listed leads => starts ⟨name, listed, leads⟩

/-- What holds of the template's end and is handed on from piece to piece holds of the template. -/
theorem pieces_induction {motive : List Char → Prop} (distinct : Apart names) (s : List Char)
    (nil : motive [])
    (placed : ∀ name ∈ names, ∀ rest : List Char, motive rest → motive (name ++ rest))
    (kept : ∀ (c : Char) (rest : List Char), (∀ name ∈ names, ¬ name <+: c :: rest) →
      motive rest → motive (c :: rest)) : motive s := by
  induction size : s.length using Nat.strongRecOn generalizing s with
  | ind n ih =>
      subst size
      cases s with
      | nil => exact nil
      | cons c rest =>
          rcases cons_cases names c rest with ⟨name, listed, after, split⟩ | plain
          · -- a name is not empty
            obtain ⟨tail, opens⟩ := distinct.opens name listed
            have shorter : after.length < (c :: rest).length := by
              rw [split, opens, List.cons_append, List.length_cons, List.length_append]
              omega
            exact split ▸ placed name listed after (ih _ shorter after rfl)
          · exact kept c rest plain (ih _ (Nat.lt_succ_self _) rest rfl)

theorem source_pieces (distinct : Apart names) (s : List Char) :
    (pieces names 0 s).flatMap Piece.source = s := by
  induction s using pieces_induction distinct with
  | nil => rfl
  | placed name listed rest ih =>
      rw [pieces_placed distinct listed, List.flatMap_cons, ih]
      rfl
  | kept c rest plain ih =>
      rw [pieces_kept plain, List.flatMap_cons, ih]
      rfl

theorem pieces_name (skip : Nat) (s : List Char) {name : List Char}
    (listed : .placed name ∈ pieces names skip s) : name ∈ names := by
  fun_induction pieces names skip s with
  | case1 => cases listed
  | case2 skip c rest ih => exact ih listed
  | case3 c rest other found ih =>
      rcases List.mem_cons.mp listed with same | later
      · exact Piece.placed.inj same ▸ List.mem_of_find?_eq_some found
      · exact ih later
  | case4 c rest missed ih =>
      rcases List.mem_cons.mp listed with same | later
      · cases same
      · exact ih later

theorem pieces_keep_plain (distinct : Apart names) (s : List Char) {front back : List Piece}
    {c : Char} (split : pieces names 0 s = front ++ .kept c :: back) :
    ∀ name ∈ names, ¬ name <+: c :: back.flatMap Piece.source := by
  induction s using pieces_induction distinct generalizing front with
  | nil => exact nomatch List.append_ne_nil_of_right_ne_nil front (List.cons_ne_nil _ _) split.symm
  | placed other listed rest ih =>
      rw [pieces_placed distinct listed] at split
      cases front with
      | nil => exact nomatch (List.cons.inj split).1
      | cons first front => exact ih (List.cons.inj split).2
  | kept d rest plain ih =>
      rw [pieces_kept plain] at split
      cases front with
      | nil =>
          obtain ⟨same, rfl⟩ := List.cons.inj split
          obtain rfl := Piece.kept.inj same
          rw [source_pieces distinct]
          exact plain
      | cons first front => exact ih (List.cons.inj split).2

end

end Template

/-! ## What a text starts with -/

namespace Placeholder

theorem mem_all (p : Placeholder) : p ∈ all := by
  cases p <;> decide

theorem text_eq_cons (p : Placeholder) : p.text = '\x7b' :: p.text.tail := by
  cases p <;> rfl

theorem mem_texts {name : List Char} : name ∈ all.map text ↔ ∃ p : Placeholder, p.text = name := by
  rw [List.mem_map]
  exact ⟨fun ⟨p, _, same⟩ => ⟨p, same⟩, fun ⟨p, same⟩ => ⟨p, p.mem_all, same⟩⟩

/-- The texts of placeholders start alike, but none of them starts another. -/
theorem texts_apart : Template.Apart (all.map text) where
  opens := by
    intro name listed
    obtain ⟨p, rfl⟩ := mem_texts.mp listed
    exact ⟨_, p.text_eq_cons⟩
  apart := by
    have apart : ∀ a ∈ all.map text, ∀ b ∈ all.map text, a.isPrefixOf b = true → a = b := by
      decide
    exact fun a one b other leads => apart a one b other (List.isPrefixOf_iff_prefix.mpr leads)

theorem text_injective {p q : Placeholder} (same : p.text = q.text) : p = q := by
  have apart : ∀ p q : Placeholder, p.text = q.text → p = q := by
    intro p q
    cases p <;> cases q <;> decide
  exact apart p q same

end Placeholder

namespace TemplateValues

open Template (Piece pieces pieces_placed pieces_kept pieces_plain)

theorem after?_eq_some {text s rest : List Char} :
    after? text s = some rest ↔ s = text ++ rest := by
  induction text generalizing s with
  | nil => simp [after?]
  | cons a text ih =>
      cases s with
      | nil => simp [after?]
      | cons b s =>
          by_cases same : a = b
          · simp [after?, same, ih]
          · simp [after?, same, Ne.symm same]

theorem split_of_opening? {p : Placeholder} {s rest : List Char}
    (found : opening? s = some (p, rest)) : s = p.text ++ rest := by
  obtain ⟨q, -, taken⟩ := List.exists_of_findSome?_eq_some found
  obtain ⟨after, split, same⟩ := Option.map_eq_some_iff.mp taken
  obtain ⟨rfl, rfl⟩ := Prod.mk.inj same
  exact after?_eq_some.mp split

theorem opening?_eq_some {p : Placeholder} {s rest : List Char} :
    opening? s = some (p, rest) ↔ s = p.text ++ rest := by
  refine ⟨split_of_opening?, ?_⟩
  rintro rfl
  cases found : opening? (p.text ++ rest) with
  | none =>
      have missed := List.findSome?_eq_none_iff.mp found p p.mem_all
      rw [after?_eq_some.mpr rfl] at missed
      exact nomatch missed
  | some read =>
      obtain ⟨q, after⟩ := read
      have whole := split_of_opening? found
      have same : p.text = q.text :=
        Placeholder.texts_apart.eq_of_starts (Placeholder.mem_texts.mpr ⟨p, rfl⟩)
          (Placeholder.mem_texts.mpr ⟨q, rfl⟩) (List.prefix_append p.text rest)
          ⟨after, whole.symm⟩
      obtain rfl := Placeholder.text_injective same
      rw [List.append_cancel_left whole]

theorem opening?_eq_none {s : List Char} :
    opening? s = none ↔ ∀ name ∈ Placeholder.all.map Placeholder.text, ¬ name <+: s := by
  constructor
  · rintro missed name listed ⟨rest, rfl⟩
    obtain ⟨p, rfl⟩ := Placeholder.mem_texts.mp listed
    rw [opening?_eq_some.mpr rfl] at missed
    exact nomatch missed
  · intro missed
    cases found : opening? s with
    | none => rfl
    | some read =>
        exact absurd ⟨read.2, (opening?_eq_some.mp found).symm⟩
          (missed _ (Placeholder.mem_texts.mpr ⟨read.1, rfl⟩))

/-! ## Going from brace to brace -/

variable (v : TemplateValues)

/-- The placeholders as they stand in a template, each with its value. -/
def entries : List (List Char × List Char) := Placeholder.all.map fun p => (p.text, v.value p)

theorem entries_eq : v.entries = [
    ("\x7bADHOC_ID\x7d".toList, Nat.toDigits 10 v.adhoc.raw.toNat),
    ("\x7bADHOC_DIRECTORY\x7d".toList, v.directory.toList),
    ("\x7bADHOC_NODES\x7d".toList,
      '"' :: List.intercalate [','] (v.nodes.map fun node => node.hostname.toList) ++ ['"'])] := by
  have decimal : (toString v.adhoc).toList = Nat.toDigits 10 v.adhoc.raw.toNat :=
    String.toList_ofList
  rw [← decimal]
  rfl

def output (s : List Char) : List Char :=
  (pieces (Placeholder.all.map Placeholder.text) 0 s).flatMap (Piece.text v.entries)

theorem text_placed (p : Placeholder) : Piece.text v.entries (.placed p.text) = v.value p := by
  cases p <;> rfl

theorem output_placed (p : Placeholder) (rest : List Char) :
    v.output (p.text ++ rest) = v.value p ++ v.output rest := by
  rw [output, pieces_placed Placeholder.texts_apart (Placeholder.mem_texts.mpr ⟨p, rfl⟩),
    List.flatMap_cons, text_placed]
  rfl

theorem output_kept {c : Char} {rest : List Char}
    (plain : ∀ name ∈ Placeholder.all.map Placeholder.text, ¬ name <+: c :: rest) :
    v.output (c :: rest) = c :: v.output rest := by
  rw [output, pieces_kept plain, List.flatMap_cons]
  rfl

theorem output_plain {front : List Char} (plain : '\x7b' ∉ front) (tail : List Char) :
    v.output (front ++ tail) = front ++ v.output tail := by
  have same : (front.map Piece.kept).flatMap (Piece.text v.entries) = front := by
    rw [List.flatMap_map]
    exact List.flatMap_singleton' front
  rw [output, pieces_plain Placeholder.texts_apart plain, List.flatMap_append, same]
  rfl

/-- One turn of going from brace to brace: what it puts out, and the template that it leaves. There
is none where no brace is left. -/
def turn? (s : List Char) : Option (List Char × List Char) :=
  match s.dropWhile (· ≠ '\x7b') with
  | [] => none
  | c :: tail =>
    match opening? (c :: tail) with
    | some (p, rest) => some (s.takeWhile (· ≠ '\x7b') ++ v.value p, rest)
    | none => some (s.takeWhile (· ≠ '\x7b') ++ [c], tail)

theorem expand_eq_turn (s : List Char) : v.expand s =
    match v.turn? s with
    | none => s
    | some (put, rest) => put ++ v.expand rest := by
  rw [expand]
  unfold turn?
  split
  · rename_i bare
    rw [bare]
  · rename_i c tail found
    rw [found]
    split
    · rename_i p rest opened
      simp only [opened, List.append_assoc]
    · rename_i missed
      simp only [missed, List.append_assoc, List.singleton_append]

/-- Either no brace is left and the rest is kept, or a turn puts out the next pieces and passes over
a brace. -/
theorem turn?_cases (s : List Char) :
    (v.turn? s = none ∧ v.output s = s) ∨
      ∃ put rest, v.turn? s = some (put, rest) ∧ v.output s = put ++ v.output rest ∧
        rest.count '\x7b' < s.count '\x7b' := by
  by_cases brace : '\x7b' ∈ s
  · obtain ⟨front, tail, rfl, plain⟩ := List.eq_append_cons_of_mem brace
    -- the turn stops at the first brace, which is at the end of `front`
    have before : ∀ c ∈ front, decide (c ≠ '\x7b') = true := fun c listed =>
      decide_eq_true fun same => plain (same ▸ listed)
    have stop : (front ++ '\x7b' :: tail).dropWhile (· ≠ '\x7b') = '\x7b' :: tail := by
      rw [List.dropWhile_append_of_pos before]
      rfl
    have passed : (front ++ '\x7b' :: tail).takeWhile (· ≠ '\x7b') = front := by
      rw [List.takeWhile_append_of_pos before]
      exact List.append_nil front
    refine .inr ?_
    unfold turn?
    rw [stop, passed, output_plain v plain]
    rcases Template.cons_cases (Placeholder.all.map Placeholder.text) '\x7b' tail with
      ⟨name, listed, after, split⟩ | missed
    · obtain ⟨p, rfl⟩ := Placeholder.mem_texts.mp listed
      have fewer : after.count '\x7b' < ('\x7b' :: tail).count '\x7b' := by
        rw [split, p.text_eq_cons, List.cons_append, List.count_cons_self, List.count_append]
        omega
      refine ⟨front ++ v.value p, after, ?_, ?_, ?_⟩
      · simp only [opening?_eq_some.mpr split]
      · rw [split, output_placed, List.append_assoc]
      · rw [List.count_append]
        omega
    · refine ⟨front ++ ['\x7b'], tail, ?_, ?_, ?_⟩
      · simp only [opening?_eq_none.mpr missed]
      · rw [output_kept v missed, List.append_assoc, List.singleton_append]
      · rw [List.count_append, List.count_cons_self]
        omega
  · have bare : s.dropWhile (· ≠ '\x7b') = [] := by
      refine List.dropWhile_eq_nil_iff.mpr fun c listed => ?_
      exact decide_eq_true fun same => brace (same ▸ listed)
    refine .inl ⟨?_, ?_⟩
    · unfold turn?
      rw [bare]
    · simpa [output, pieces] using v.output_plain brace []

theorem expand_eq_output (s : List Char) : v.expand s = v.output s := by
  induction braces : s.count '\x7b' using Nat.strongRecOn generalizing s with
  | ind n ih =>
      subst braces
      rw [expand_eq_turn]
      rcases v.turn?_cases s with ⟨bare, whole⟩ | ⟨put, rest, taken, split, fewer⟩
      · rw [bare, whole]
      · rw [taken, split]
        exact congrArg (put ++ ·) (ih _ fewer rest rfl)

/-- Takes so many turns, after what was put out already; nothing if more are needed. -/
def jump : Nat → List Char → List Char → Option (List Char)
  | 0, _, _ => none
  | turns + 1, out, s =>
    match v.turn? s with
    | none => some (out ++ s)
    | some (put, rest) => jump turns (out ++ put) rest

/-- There are no more turns than braces, and one that finds no brace. -/
theorem jump_ends {turns : Nat} (out : List Char) {s : List Char}
    (enough : s.count '\x7b' < turns) : v.jump turns out s = some (out ++ v.output s) := by
  induction turns generalizing out s with
  | zero => exact absurd enough (Nat.not_lt_zero _)
  | succ turns ih =>
      rw [jump]
      rcases v.turn?_cases s with ⟨bare, whole⟩ | ⟨put, rest, taken, split, fewer⟩
      · simp only [bare, whole]
      · simp only [taken, split, ← List.append_assoc]
        exact ih (out ++ put) (Nat.lt_of_lt_of_le fewer (Nat.le_of_lt_succ enough))

/-- Expanding a template is walking it once from left to right, one character at a time, with the
names of the placeholders and these values: the id in decimal, the directory, and the host names,
joined by commas, in double quotes. Going from brace to brace comes to its end on every template. The
names alone say which characters are kept, namely those at which no name starts, and they are kept
byte for byte; the values stand in between as they are. -/
theorem expansion_is_one_pass (template : String) (adhoc : AdhocId) (directory : String)
    (nodes : List Node) :
    let values : List (List Char × List Char) := [
      ("\x7bADHOC_ID\x7d".toList, Nat.toDigits 10 adhoc.raw.toNat),
      ("\x7bADHOC_DIRECTORY\x7d".toList, directory.toList),
      ("\x7bADHOC_NODES\x7d".toList,
        '"' :: List.intercalate [','] (nodes.map fun node => node.hostname.toList) ++ ['"'])]
    let names := values.map Prod.fst
    let v : TemplateValues := ⟨adhoc, directory, nodes⟩
    let parts := pieces names 0 template.toList
    let bytes : List Char → List UInt8 := fun text => text.flatMap String.utf8EncodeChar
    expandTemplate template adhoc directory nodes =
      String.ofList (Template.scan values 0 template.toList) ∧
    v.jump (template.toList.count '\x7b' + 1) [] template.toList =
      some (Template.scan values 0 template.toList) ∧
    Wire.textBytes template = parts.flatMap (fun piece => bytes piece.source) ∧
    Wire.textBytes (expandTemplate template adhoc directory nodes) =
      parts.flatMap (fun piece => bytes (piece.text values)) ∧
    (∀ name, .placed name ∈ parts → name ∈ names) ∧
    ∀ front c back, parts = front ++ .kept c :: back →
      ∀ name ∈ names, ¬ name <+: c :: back.flatMap Piece.source := by
  intro values names v parts bytes
  have same : values = v.entries := v.entries_eq.symm
  have apart : Template.Apart names := Placeholder.texts_apart
  have walked : Template.scan values 0 template.toList = v.output template.toList := by
    rw [Template.scan_eq_pieces, same]
    rfl
  have written : ∀ text : List Char, Wire.textBytes (String.ofList text) = bytes text := by
    intro text
    simp [Wire.textBytes, List.utf8Encode, bytes]
  refine ⟨?_, ?_, ?_, ?_, fun name listed => Template.pieces_name 0 _ listed, ?_⟩
  · rw [walked]
    exact congrArg String.ofList (v.expand_eq_output template.toList)
  · rw [v.jump_ends [] (Nat.lt_succ_self _), walked]
    rfl
  · rw [← String.ofList_toList (s := template), written]
    have whole := Template.source_pieces apart template.toList
    rw [← whole]
    exact List.flatMap_assoc
  · change Wire.textBytes (String.ofList (v.expand template.toList)) = _
    rw [written, expand_eq_output, same]
    exact List.flatMap_assoc
  · exact fun front c back split => Template.pieces_keep_plain apart template.toList split

end TemplateValues

end StorageBroker
