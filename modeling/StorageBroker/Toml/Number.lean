import StorageBroker.Text.Decimal
import StorageBroker.Text.Scan
import StorageBroker.Toml.Value

/-! # Numbers and dates

Whole numbers of 64 bits, numbers with a fraction or an exponent, and dates and times. -/

set_option autoImplicit false

namespace StorageBroker.Toml

def digits (isDigit : Char → Bool) : Scan (List Char) := do
  let first ← Scan.char isDigit
  let more ← Scan.many (Scan.opt (Scan.lit "_") *> Scan.char isDigit)
  return first :: more

def sign : Scan (Option Char) := Scan.opt (Scan.char fun c => c = '+' || c = '-')

def wholeDigits : Scan (List Char) := do
  match ← Scan.peek with
  | some '0' => return [← Scan.char (· = '0')]
  | _ => digits Char.isDigit

def ofDigits (base : Nat) (ds : List Char) : Nat := (Text.digits? base ds).getD 0

/-! ## Whole numbers -/

/-- A whole number, if it fits into 64 bits. -/
def fitted (i : Int) : Scan Value :=
  if -9223372036854775808 ≤ i ∧ i ≤ 9223372036854775807 then return .integer i else failure

def marked (mark : String) (base : Nat) : Scan Value := do
  Scan.lit mark
  fitted (ofDigits base (← digits fun c => (Text.digit? base c).isSome))

def integer : Scan Value :=
  marked "0x" 16 <|> marked "0o" 8 <|> marked "0b" 2 <|> do
    let negative := (← sign) = some '-'
    let n := ofDigits 10 (← wholeDigits)
    fitted (if negative then -(n : Int) else n)

/-! ## Numbers with a fraction or an exponent -/

def exponent : Scan Int := do
  let _ ← Scan.char fun c => c = 'e' || c = 'E'
  let negative := (← sign) = some '-'
  let n := ofDigits 10 (← digits Char.isDigit)
  return if negative then -(n : Int) else n

/-- The least number that is rounded to infinity: halfway between the greatest finite number of 64
bits and the next power of two. -/
def infinityFrom : Nat := Nat.pow 2 1024 - Nat.pow 2 970

/-- Whether digits, read as a whole number times a power of ten, are rounded to infinity. -/
def overflows (ds : List Char) (power : Int) : Bool :=
  let ds := ds.dropWhile (· = '0')
  let size := ds.length + power
  if ds.isEmpty ∨ size < 309 then false
  else if 309 < size then true
  else infinityFrom * Nat.pow 10 (-power).toNat ≤ ofDigits 10 ds * Nat.pow 10 power.toNat

/-- A number with a fraction or an exponent; a positive one must not be rounded to infinity. -/
def fraction : Scan Value := do
  let negative := (← sign) = some '-'
  let plain : Scan Bool := do
    let front ← wholeDigits
    let back ← Scan.opt (Scan.lit "." *> digits Char.isDigit)
    let power ← Scan.opt exponent
    if back.isNone && power.isNone then failure
    let back := back.getD []
    return overflows (front ++ back) (power.getD 0 - back.length)
  let special : Scan Bool := (Scan.lit "inf" <|> Scan.lit "nan") *> pure false
  if (← plain <|> special) && !negative then failure
  return .fraction

/-! ## Dates and times -/

def numeral (size least most : Nat) : Scan (List Char) := do
  let ds ← Scan.times Char.isDigit size
  let n := ofDigits 10 ds
  if least ≤ n ∧ n ≤ most then return ds else failure

def daysOf (year month : Nat) : Nat :=
  if month = 2 then
    if year % 4 = 0 ∧ (year % 100 ≠ 0 ∨ year % 400 = 0) then 29 else 28
  else if month = 4 ∨ month = 6 ∨ month = 9 ∨ month = 11 then 30
  else 31

def day : Scan (List Char) := do
  let year ← numeral 4 0 9999
  Scan.lit "-"
  let month ← numeral 2 1 12
  Scan.lit "-"
  let day ← numeral 2 1 (daysOf (ofDigits 10 year) (ofDigits 10 month))
  return year ++ '-' :: month ++ '-' :: day

/-- The fraction of a second, to nine places and without zeros at its end. -/
def secondFraction : Scan (List Char) := do
  Scan.lit "."
  let first ← Scan.char Char.isDigit
  let ds := (first :: (← Scan.takeWhile Char.isDigit)).take 9
  let kept := (ds.reverse.dropWhile (· = '0')).reverse
  return if kept.isEmpty then [] else '.' :: kept

def time : Scan (List Char) := do
  let hour ← numeral 2 0 23
  Scan.lit ":"
  let minute ← numeral 2 0 59
  Scan.lit ":"
  let second ← numeral 2 0 60
  let part ← Scan.opt secondFraction
  return hour ++ ':' :: minute ++ ':' :: second ++ part.getD []

/-- The distance from universal time; no distance has a positive sign. -/
def zone : Scan (List Char) :=
  (do let _ ← Scan.char fun c => c = 'Z' || c = 'z'
      return ['Z']) <|> do
    let side ← Scan.char fun c => c = '+' || c = '-'
    let hour ← numeral 2 0 23
    Scan.lit ":"
    let minute ← numeral 2 0 59
    let none := (hour ++ minute).all (· = '0')
    return (if none then '+' else side) :: hour ++ ':' :: minute

def timeOfDay : Scan (List Char) := do
  let _ ← Scan.char fun c => c = 'T' || c = 't' || c = ' '
  let t ← time
  let z ← Scan.opt zone
  return 'T' :: t ++ z.getD []

def date : Scan Value := do
  let text ← (do
    let d ← day
    let t ← Scan.opt timeOfDay
    return d ++ t.getD []) <|> time
  return .date (String.ofList text)

def number : Scan Value := date <|> fraction <|> integer

end StorageBroker.Toml
