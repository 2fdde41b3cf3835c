/-! # Decoders

A decoder reads one value from the front of a byte list and gives it together with the bytes after
it, or says what is wrong with the first problem met from left to right. -/

set_option autoImplicit false

namespace StorageBroker

inductive WireError
  | endOfInput
  | overlongNumber
  | badFlag
  | badPresence
  | invalidText
  | unknownVariant
  deriving DecidableEq, Repr

def WireError.text : WireError → String
  | .endOfInput => "Hit the end of buffer, expected more data"
  | .overlongNumber =>
    "Found a varint that didn't terminate. Is the usize too big for this platform?"
  | .badFlag => "Found a bool that wasn't 0 or 1"
  | .badPresence => "Found an Option discriminant that wasn't 0 or 1"
  | .invalidText => "Tried to parse invalid utf-8"
  | .unknownVariant => "Serde Deserialization Error"

abbrev Decoder (α : Type) : Type := StateT (List UInt8) (Except WireError) α

namespace Decoder

def fail {α : Type} (e : WireError) : Decoder α := fun _ => .error e

def byte : Decoder UInt8 := fun input =>
  match input with
  | [] => .error .endOfInput
  | b :: rest => .ok (b, rest)

def bytes (count : Nat) : Decoder (List UInt8) := fun input =>
  let front := input.take count
  if front.length = count then .ok (front, input.drop count) else .error .endOfInput

def times {α : Type} (item : Decoder α) : Nat → Decoder (List α)
  | 0 => pure []
  | n + 1 => do
    let first ← item
    let rest ← times item n
    pure (first :: rest)

end Decoder

/-- Types with a written form: how a value is written, and how one is read back. -/
class Wire (α : Type) where
  encode : α → List UInt8
  decode : Decoder α

end StorageBroker
