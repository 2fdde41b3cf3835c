import StorageBroker.Text.Decimal

/-! # Numbers with so many places

How a fraction is written in decimal with a given number of places or digits. It is rounded to the
nearest number that can be written so; a tie goes to the even one. -/

set_option autoImplicit false

namespace StorageBroker.Text

/-- A number that is not negative, with its sign beside it, so that zero can have one. The
denominator of a fraction is never zero. -/
inductive Quantity
  | fraction (negative : Bool) (numerator denominator : Nat)
  | infinity (negative : Bool)
  | undefined (negative : Bool)
  deriving DecidableEq, Repr

/-- The nearest whole number to a fraction; a tie goes to the even one. -/
def nearest (n d : Nat) : Nat :=
  let q := n / d
  let twice := 2 * (n % d)
  if twice < d then q else if d < twice then q + 1 else if q % 2 = 0 then q else q + 1

def tenTo : Nat → Nat
  | 0 => 1
  | n + 1 => 10 * tenTo n

def withPoint (places : Nat) (n : Nat) : String :=
  let digits := Nat.toDigits 10 n
  let digits := List.replicate (places + 1 - digits.length) '0' ++ digits
  let whole := digits.take (digits.length - places)
  if places = 0 then String.ofList whole
  else String.ofList (whole ++ '.' :: digits.drop whole.length)

def fixed (places n d : Nat) : String := withPoint places (nearest (n * tenTo places) d)

def scaled (n d : Nat) (power : Int) : Nat × Nat :=
  if 0 ≤ power then (n * tenTo power.toNat, d) else (n, d * tenTo (-power).toNat)

/-- The power of ten of the first digit of a fraction that is not zero. -/
def leadingPower (n d : Nat) : Int :=
  let guess : Int := ((Nat.toDigits 10 n).length : Int) - ((Nat.toDigits 10 d).length : Int)
  let reaches (power : Int) : Bool :=
    let (x, y) := scaled n d (-power)
    y ≤ x
  if reaches guess then guess else guess - 1

/-- The digits of a fraction, so many after the first, and the power of ten of the first. -/
def leadingDigits (more n d : Nat) : Nat × Int :=
  if n = 0 then (0, 0)
  else
    let power := leadingPower n d
    let (x, y) := scaled n d (more - power)
    let digits := nearest x y
    if tenTo (more + 1) ≤ digits then (digits / 10, power + 1) else (digits, power)

/-- A power of ten as it is written after a number: a sign and two digits at least. -/
def powerText (power : Int) : String :=
  let digits := Nat.toDigits 10 power.natAbs
  let digits := List.replicate (2 - digits.length) '0' ++ digits
  "e" ++ (if power < 0 then "-" else "+") ++ String.ofList digits

/-- A fraction as one digit, so many places, and a power of ten. -/
def scientific (places n d : Nat) : String :=
  let (digits, power) := leadingDigits places n d
  withPoint places digits ++ powerText power

/-- Drops zeros at the end of a number with a point, and then the point. -/
def withoutZeros (text : String) : String :=
  if !text.contains '.' then text
  else
    let kept := text.toList.reverse.dropWhile (· = '0')
    String.ofList ((if kept.head? = some '.' then kept.drop 1 else kept).reverse)

/-- A fraction with so many digits, in the shorter of both notations; zeros at the end may be
dropped. -/
def general (keepZeros : Bool) (digits n d : Nat) : String :=
  let digits := max digits 1
  let (found, power) := leadingDigits (digits - 1) n d
  let trim (text : String) : String := if keepZeros then text else withoutZeros text
  if power < -4 || (digits : Int) ≤ power then
    trim (withPoint (digits - 1) found) ++ powerText power
  else trim (fixed ((digits : Int) - 1 - power).toNat n d)

def Quantity.ofFloat (x : Float) : Quantity :=
  let bits := x.toBits.toNat
  let negative := bits / 9223372036854775808 = 1
  let exponent := bits / 4503599627370496 % 2048
  let mantissa := bits % 4503599627370496
  if exponent = 2047 then
    if mantissa = 0 then .infinity negative else .undefined negative
  else
    let (m, e) : Nat × Nat := if exponent = 0 then (mantissa, 1)
      else (mantissa + 4503599627370496, exponent)
    if 1075 ≤ e then .fraction negative (m <<< (e - 1075)) 1
    else .fraction negative m (1 <<< (1075 - e))

end StorageBroker.Text
