/-! # Decimal numbers

Reading a natural number below a bound: an optional plus sign and then digits, nothing else. -/

set_option autoImplicit false

namespace StorageBroker.Text

/-- The value of a digit in a base of at most 36. -/
def digit? (base : Nat) (c : Char) : Option Nat :=
  let value :=
    if '0' ≤ c ∧ c ≤ '9' then c.toNat - '0'.toNat
    else if 'a' ≤ c ∧ c ≤ 'z' then c.toNat - 'a'.toNat + 10
    else if 'A' ≤ c ∧ c ≤ 'Z' then c.toNat - 'A'.toNat + 10
    else base
  if value < base then some value else none

def digitsValue? (base : Nat) : Nat → List Char → Option Nat
  | n, [] => some n
  | n, c :: rest => (digit? base c).bind fun d => digitsValue? base (n * base + d) rest

def digits? (base : Nat) : List Char → Option Nat
  | [] => none
  | cs => digitsValue? base 0 cs

/-- Reads a number below a bound, with an optional plus sign. -/
def natBelow? (bound : Nat) (s : String) : Option Nat :=
  let cs := match s.toList with
    | '+' :: rest => rest
    | cs => cs
  (digits? 10 cs).filter (· < bound)

end StorageBroker.Text
