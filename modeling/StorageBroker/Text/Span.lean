/-! # The text of a time span

Spans are counted in milliseconds and shown in the largest unit that leaves a whole part, with the
rest as a decimal fraction. -/

set_option autoImplicit false

namespace StorageBroker.Text

def dropTrailingZeros (digits : List Char) : List Char :=
  (digits.reverse.dropWhile (· = '0')).reverse

def thousandths (n : Nat) : String :=
  match dropTrailingZeros ([n / 100 % 10, n / 10 % 10, n % 10].flatMap (Nat.toDigits 10)) with
  | [] => ""
  | digits => "." ++ String.ofList digits

def span (ms : Nat) : String :=
  if ms = 0 then "0ns"
  else if ms < 1000 then toString ms ++ "ms"
  else toString (ms / 1000) ++ thousandths (ms % 1000) ++ "s"

end StorageBroker.Text
