/-! # Scanners

A scanner reads something from the front of a text and gives it together with the text after it, or
gives nothing. An alternative that gives nothing has read nothing. -/

set_option autoImplicit false

namespace StorageBroker

abbrev Scan (α : Type) : Type := StateT (List Char) Option α

namespace Scan

variable {α β : Type}

def char (p : Char → Bool) : Scan Char := fun s =>
  match s with
  | c :: rest => if p c then some (c, rest) else none
  | [] => none

def lit (text : String) : Scan Unit := fun s =>
  if text.toList.isPrefixOf s then some ((), s.drop text.length) else none

def takeWhile (p : Char → Bool) : Scan (List Char) := fun s =>
  let taken := s.takeWhile p
  some (taken, s.drop taken.length)

def peek : Scan (Option Char) := fun s => some (s.head?, s)

def opt (item : Scan α) : Scan (Option α) := (some <$> item) <|> pure none

def upTo (item : Scan α) : Nat → Scan (List α)
  | 0 => pure []
  | n + 1 => do
    match ← opt item with
    | none => return []
    | some a => return a :: (← upTo item n)

/-- Reads items, each of at least one character, as long as there are any. -/
def many (item : Scan α) : Scan (List α) := fun s => upTo item s.length s

def separated (item : Scan α) (separator : Scan β) : Scan (List α) := do
  let first ← item
  return first :: (← many (separator *> item))

def times (p : Char → Bool) : Nat → Scan (List Char)
  | 0 => pure []
  | n + 1 => do
    let c ← char p
    return c :: (← times p n)

def whole (item : Scan α) (s : String) : Option α :=
  match item s.toList with
  | some (a, []) => some a
  | _ => none

end Scan

end StorageBroker
