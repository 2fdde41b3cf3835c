import StorageBroker.Text.Directive

/-! # Values of programs over records

A value is a number or a text; each can be taken for the other. A text that was read counts as a
number where values are compared if it is written as one. -/

set_option autoImplicit false

namespace StorageBroker.Records

/-- A value: none yet, a number, a text, or a text that was read. -/
inductive Value
  | unset
  | number (x : Float)
  | text (s : String)
  | read (s : String)
  deriving Inhabited

/-! ## Numbers in texts -/

def signOf : List Char → Bool × List Char
  | '-' :: rest => (true, rest)
  | '+' :: rest => (false, rest)
  | cs => (false, cs)

/-- The text after a word, in whatever case, if it is at the front. -/
def afterWord? (word : String) (cs : List Char) : Option (List Char) :=
  if word.toList.isPrefixOf (cs.map Char.toLower) then some (cs.drop word.length) else none

/-- A number without a sign that is not written in decimal digits, and the text after it. -/
def specialNumber? (cs : List Char) : Option (Float × List Char) :=
  match cs with
  | '0' :: x :: rest =>
    let digits := rest.takeWhile fun c => (Text.digits? 16 [c]).isSome
    if (x = 'x' || x = 'X') && !digits.isEmpty then
      some (Float.ofNat ((Text.digits? 16 digits).getD 0), rest.drop digits.length)
    else none
  | _ =>
    let infinity : Float := 1 / 0
    let undefined : Float := 0 / 0
    let words := [("infinity", infinity), ("inf", infinity), ("nan", undefined)]
    words.findSome? fun (word, x) => (afterWord? word cs).map fun rest => (x, rest)

def numberAt? (cs : List Char) : Option (Float × List Char) :=
  let cs := cs.dropWhile Char.isWhitespace
  let (negative, body) := signOf cs
  match specialNumber? body with
  | some (x, rest) => some (if negative then -x else x, rest)
  | none =>
    (Text.numeral? cs).map fun (negative, digits, power, rest) =>
      (Text.floatOf negative digits power, rest)

/-- The number at the front of a text; without one it is 0. -/
def numberIn (s : String) : Float := ((numberAt? s.toList).map Prod.fst).getD 0

/-- Whether a text is written as a number, apart from blanks around it. -/
def isNumeral (s : String) : Bool :=
  match numberAt? s.toList with
  | some (_, rest) => rest.all Char.isWhitespace
  | none => false

/-! ## Values -/

namespace Value

def toNumber : Value → Float
  | unset => 0
  | number x => x
  | text s | read s => numberIn s

def isNumber : Value → Bool
  | unset | number _ => true
  | text _ => false
  | read s => isNumeral s

def holds : Value → Bool
  | unset => false
  | number x => x != 0
  | text s => !s.isEmpty
  | read s => if isNumeral s then numberIn s != 0 else !s.isEmpty

def ofBool (b : Bool) : Value := number (if b then 1 else 0)

def ofNat (n : Nat) : Value := number (Float.ofNat n)

end Value

def truncated (x : Float) : Float := if x < 0 then x.ceil else x.floor

/-- The whole number that a number is cut to; it stays within words of 64 bits. -/
def wholePart (x : Float) : Int :=
  if x < 0 then -(min (-x).toUInt64.toNat 9223372036854775807 : Nat) else x.toUInt64.toNat

/-- The text of a whole number that fits into a word of 64 bits. -/
def wholeText? (x : Float) : Option String :=
  if x == truncated x && -9223372036854775808 ≤ x && x ≤ 18446744073709551616 then
    some (if x < 0 then "-" ++ toString (-x).toUInt64 else toString x.toUInt64)
  else none

/-! ## Formats -/

def charOf : Value → List Char
  | .number x => [Char.ofNat (wholePart x % 256).toNat]
  | .read s => if isNumeral s then [Char.ofNat (wholePart (numberIn s) % 256).toNat] else s.toList.take 1
  | .text s => s.toList.take 1
  | .unset => []

/-- A number where nothing else is known of it: a number that there is not has a sign. -/
def quantityOf (x : Float) : Text.Quantity :=
  match Text.Quantity.ofFloat x with
  | .undefined _ => .undefined true
  | q => q

def sizeOf? (size : Text.DirectiveSize) (values : List Value) :
    Option (Option Int × List Value) :=
  match size, values with
  | .absent, _ => some (none, values)
  | .given n, _ => some (some n, values)
  | .asked, value :: rest => some (some (wholePart value.toNumber), rest)
  | .asked, [] => none

def written? (asText : Value → String) (d : Text.Directive) (value : Value) : Option (List Char) :=
  match d.conversion with
  | 's' => some (d.text (asText value).toList)
  | 'c' => some (d.text (charOf value))
  | 'd' | 'i' | 'u' | 'o' | 'x' | 'X' => some (d.whole (wholePart value.toNumber))
  | 'f' | 'F' | 'e' | 'E' | 'g' | 'G' => some (d.quantity (quantityOf value.toNumber))
  | _ => none

def fillPieces (asText : Value → String) : List Text.FormatPiece → List Value → List Char × Bool
  | [], _ => ([], true)
  | .text cs :: rest, values =>
    let (made, enough) := fillPieces asText rest values
    (cs ++ made, enough)
  | .directive flags width precision conversion :: rest, values =>
    let found? : Option (List Char × List Value) := do
      let (width, values) ← sizeOf? width values
      let (precision, values) ← sizeOf? precision values
      let value ← values.head?
      let d := Text.Directive.ofSizes flags (width.getD 0) precision conversion
      return (← written? asText d value, values.tail)
    match found? with
    | none => ([], false)
    | some (made, left) =>
      let (more, enough) := fillPieces asText rest left
      (made ++ more, enough)

def formatted (asText : Value → String) (format : String) (values : List Value) : String × Bool :=
  let (made, enough) :=
    fillPieces asText (Text.formatPieces ['l', 'h'] (format.length + 1) format.toList) values
  (String.ofList made, enough)

/-- The text of a number; a format tells how places are written. -/
def numberText (format : String) (x : Float) : String :=
  (wholeText? x).getD (formatted (fun _ => "") format [.number x]).1

/-- The text that a value is taken for; a format tells how places of numbers are written. -/
def Value.toText (format : String) : Value → String
  | .unset => ""
  | .number x => numberText format x
  | .text s | .read s => s

/-- How two values are ordered: as numbers if both count as numbers, or else as texts. -/
def isRelated (format : String) (numbers : Float → Float → Bool) (order : Ordering → Bool)
    (a b : Value) : Bool :=
  if a.isNumber && b.isNumber then numbers a.toNumber b.toNumber
  else order (compare (a.toText format) (b.toText format))

end StorageBroker.Records
