import StorageBroker.Text.Quoted

/-! # The text form of structured values

Every value has a one-line form: a bare word, a quoted text, a list in brackets, a name with
arguments in parentheses, or a name with labelled fields in braces. -/

set_option autoImplicit false

namespace StorageBroker

class Form (α : Type) where
  form : α → String

namespace Form

def brackets (items : List String) : String := "[" ++ ", ".intercalate items ++ "]"

def tuple (name : String) (arguments : List String) : String :=
  name ++ "(" ++ ", ".intercalate arguments ++ ")"

def record (name : String) (fields : List (String × String)) : String :=
  name ++ " \x7b " ++ ", ".intercalate (fields.map fun field => field.1 ++ ": " ++ field.2) ++
    " \x7d"

instance : Form String := ⟨Text.quote⟩
instance : Form Bool := ⟨fun b => if b then "true" else "false"⟩
instance : Form UInt32 := ⟨fun n => toString n⟩
instance : Form UInt64 := ⟨fun n => toString n⟩
instance : Form Int64 := ⟨fun n => toString n⟩

instance {α : Type} [Form α] : Form (Option α) :=
  ⟨fun
    | none => "None"
    | some a => tuple "Some" [form a]⟩

instance {α : Type} [Form α] : Form (List α) := ⟨fun as => brackets (as.map form)⟩

end Form

end StorageBroker
