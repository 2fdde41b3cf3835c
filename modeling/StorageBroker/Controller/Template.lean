import StorageBroker.Job

/-! # Command templates

A template is a text with placeholders. Expanding it puts the values of a storage instance in their
place, in one pass from left to right that goes from one opening brace to the next. -/

set_option autoImplicit false

namespace StorageBroker

inductive Placeholder
  | adhocId
  | directory
  | nodes
  deriving DecidableEq, Repr

namespace Placeholder

/-- Every placeholder; none of their texts starts another. -/
def all : List Placeholder := [.adhocId, .directory, .nodes]

def text : Placeholder → List Char
  | .adhocId => "\x7bADHOC_ID\x7d".toList
  | .directory => "\x7bADHOC_DIRECTORY\x7d".toList
  | .nodes => "\x7bADHOC_NODES\x7d".toList

end Placeholder

/-- A storage instance, as templates see it. -/
structure TemplateValues where
  adhoc : AdhocId
  directory : String
  nodes : List Node
  deriving DecidableEq, Repr

namespace TemplateValues

def hostnames (v : TemplateValues) : List Char :=
  List.intercalate [','] (v.nodes.map fun node => node.hostname.toList)

/-- The value that takes the place of a placeholder; host names stand in double quotes. -/
def value (v : TemplateValues) : Placeholder → List Char
  | .adhocId => (toString v.adhoc).toList
  | .directory => v.directory.toList
  | .nodes => '"' :: v.hostnames ++ ['"']

/-! ## Expansion -/

def after? : List Char → List Char → Option (List Char)
  | [], s => some s
  | _ :: _, [] => none
  | a :: text, b :: s => if a = b then after? text s else none

theorem length_after? {text s rest : List Char} (h : after? text s = some rest) :
    rest.length + text.length = s.length := by
  induction text generalizing s with
  | nil => simp_all [after?]
  | cons a text ih =>
    cases s with
    | nil => simp [after?] at h
    | cons b s =>
      simp only [after?] at h
      split at h
      · have := ih h
        simp only [List.length_cons]
        omega
      · simp at h

def opening? (s : List Char) : Option (Placeholder × List Char) :=
  Placeholder.all.findSome? fun p => (after? p.text s).map fun rest => (p, rest)

theorem length_opening? {s rest : List Char} {p : Placeholder} (h : opening? s = some (p, rest)) :
    rest.length < s.length := by
  obtain ⟨q, _, hq⟩ := List.exists_of_findSome?_eq_some h
  obtain ⟨r, hr, heq⟩ := Option.map_eq_some_iff.1 hq
  cases heq
  have := length_after? hr
  have positive : 0 < p.text.length := by cases p <;> decide
  omega

theorem length_dropWhile_lt {p : Char → Bool} {s tail : List Char} {c : Char}
    (h : s.dropWhile p = c :: tail) : tail.length < s.length := by
  have := (List.dropWhile_suffix p (l := s)).length_le
  rw [h, List.length_cons] at this
  exact this

/-- Puts the values in the place of the placeholders, going from one opening brace to the next. -/
def expand (v : TemplateValues) (s : List Char) : List Char :=
  match _h : s.dropWhile (· ≠ '\x7b') with
  | [] => s
  | c :: tail =>
    s.takeWhile (· ≠ '\x7b') ++
      match _ho : opening? (c :: tail) with
      | some (p, rest) => v.value p ++ expand v rest
      | none => c :: expand v tail
termination_by s.length
decreasing_by
  · have placed := length_opening? _ho
    have found := length_dropWhile_lt _h
    rw [List.length_cons] at placed
    exact Nat.lt_of_le_of_lt (Nat.le_of_lt_succ placed) found
  · exact length_dropWhile_lt _h

end TemplateValues

/-- The command that a template gives for a storage instance. -/
def expandTemplate (template : String) (adhoc : AdhocId) (directory : String)
    (nodes : List Node) : String :=
  String.ofList (TemplateValues.expand ⟨adhoc, directory, nodes⟩ template.toList)

end StorageBroker
