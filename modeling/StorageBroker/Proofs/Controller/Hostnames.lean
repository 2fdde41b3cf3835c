import StorageBroker.Message.Validity
import StorageBroker.Proofs.Controller.Expansion
import StorageBroker.Proofs.Shell.Argument

/-! # Host names in commands

A template puts the host names, joined by commas, between double quotes, and hides nothing in them.
So the shell reads them as the one word that they are meant to be exactly if each of their characters
stands for itself there. What makes a list of nodes valid does not see to that: a host name may close
the quotes and go on with commands of its own. -/

set_option autoImplicit false

namespace StorageBroker

/-- A text is read, before whatever follows, as one word in double quotes that has this value. -/
def Shell.ReadsAs (inner : (n : Shell.Nested) → Scan n.Result) (text rest value : List Char) :
    Prop :=
  ∃ word, Shell.doubleQuoted inner (text ++ rest) = some (word, rest) ∧
    Shell.literal? word = some value

namespace TemplateValues

/-- The host names take the place of their placeholder, in quotes. -/
theorem expand_nodes (v : TemplateValues) {front : List Char} (plain : '\x7b' ∉ front)
    (tail : List Char) : v.expand (front ++ Placeholder.nodes.text ++ tail) =
      front ++ v.value .nodes ++ v.expand tail := by
  rw [List.append_assoc, expand_eq_output, output_plain v plain, output_placed, ← expand_eq_output,
    List.append_assoc]

theorem mem_hostnames {v : TemplateValues} {c : Char} (listed : c ∈ v.hostnames) :
    c = ',' ∨ ∃ node ∈ v.nodes, c ∈ node.hostname.toList := by
  obtain ⟨adhoc, directory, nodes⟩ := v
  unfold hostnames at listed
  induction nodes with
  | nil => exact nomatch listed
  | cons node nodes ih =>
      cases nodes with
      | nil => exact .inr ⟨node, List.mem_cons_self, by simpa [List.intercalate] using listed⟩
      | cons other nodes =>
          rw [List.map_cons, List.map_cons, List.intercalate_cons_cons, List.mem_append,
            List.mem_append, List.mem_singleton] at listed
          rcases listed with (first | comma) | later
          · exact .inr ⟨node, List.mem_cons_self, first⟩
          · exact .inl comma
          · rcases ih later with comma | ⟨found, among, present⟩
            · exact .inl comma
            · exact .inr ⟨found, List.mem_cons_of_mem node among, present⟩

/-- The host names are read as one word of their own value exactly if each of their characters
stands for itself between double quotes, as all characters do other than dollar signs, back quotes,
double quotes and backslashes. Such a word is one argument, the host names. -/
theorem hostnames_keep_their_quotes_iff (v : TemplateValues)
    (inner : (n : Shell.Nested) → Scan n.Result) (rest : List Char) :
    (∀ front tail, '\x7b' ∉ front → v.expand (front ++ Placeholder.nodes.text ++ tail) =
      front ++ v.value .nodes ++ v.expand tail) ∧
    (Shell.ReadsAs inner (v.value .nodes) rest v.hostnames ↔
      Shell.standsAhead '"' v.hostnames = true) ∧
    ((∀ node ∈ v.nodes, ∀ c ∈ node.hostname.toList, c ∉ ['$', '`', '"', '\\']) →
      Shell.standsAhead '"' v.hostnames = true) ∧
    ∀ word, Shell.doubleQuoted inner (v.value .nodes ++ rest) = some (word, rest) →
      Shell.literal? word = some v.hostnames → ∀ depth s,
        Shell.fieldsOf (depth + 2) [word] s = .ok [String.ofList v.hostnames] s := by
  have shape : v.value .nodes ++ rest = '"' :: v.hostnames ++ '"' :: rest := by
    simp [value]
  refine ⟨fun front tail plain => v.expand_nodes plain tail, ?_, ?_, ?_⟩
  · unfold Shell.ReadsAs
    rw [shape]
    exact Shell.reads_literally_iff inner
  · intro plain
    refine Shell.standsAhead_of_plain (fun c listed => ?_) '"'
    rcases mem_hostnames listed with rfl | ⟨node, among, present⟩
    · decide
    · exact plain node among c present
  · intro word read literal depth s
    rw [shape] at read
    obtain ⟨pieces, -, rfl⟩ := (Shell.doubleQuoted_eq_some inner).mp read
    exact Shell.fieldsOf_literal literal (Shell.quotedWord_ne_nil pieces) depth s

/-- A valid host name that ends its quotes: what follows in it is left to the shell as commands. -/
theorem hostname_ends_its_quotes :
    let v : TemplateValues := ⟨⟨5⟩, "run/5", [⟨"n01\" > n; echo owned > owned; echo \"", .regular⟩]⟩
    let commands := " > n; echo owned > owned; echo \"\"".toList
    let reader := Shell.nestedReader Shell.depthLimit
    Node.complaint? v.nodes = none ∧ v.value .nodes = "\"n01\"".toList ++ commands ∧
    Shell.ReadsAs reader "\"n01\"".toList commands "n01".toList ∧
    ¬ Shell.ReadsAs reader (v.value .nodes) [] v.hostnames := by
  intro v commands reader
  clear_value reader
  have front : "\"n01\"".toList ++ commands = '"' :: "n01".toList ++ '"' :: commands := by decide
  have whole : v.value .nodes ++ [] = '"' :: v.hostnames ++ ['"'] := List.append_nil _
  refine ⟨by decide, by decide, ?_, ?_⟩
  · unfold Shell.ReadsAs
    rw [front]
    exact (Shell.reads_literally_iff reader).mpr (by decide)
  · unfold Shell.ReadsAs
    rw [whole, Shell.reads_literally_iff reader]
    decide

end TemplateValues

end StorageBroker
