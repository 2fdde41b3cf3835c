import StorageBroker.Text.Places

/-! # Formats

Texts with directives, which say how values are written: between them is text, and each directive
has flags, a width, a precision and a letter for the kind of the value. -/

set_option autoImplicit false

namespace StorageBroker.Text

/-- A size in a directive: none, one that is written there, or one that a value tells. -/
inductive DirectiveSize
  | absent
  | given (n : Nat)
  | asked
  deriving DecidableEq, Repr

inductive FormatPiece
  | text (cs : List Char)
  | directive (flags : List Char) (width precision : DirectiveSize) (conversion : Char)
  deriving DecidableEq, Repr

def directiveSize (cs : List Char) : DirectiveSize × List Char :=
  match cs with
  | '*' :: rest => (.asked, rest)
  | _ =>
    let digits := cs.takeWhile Char.isDigit
    if digits.isEmpty then (.absent, cs)
    else (.given ((digits? 10 digits).getD 0), cs.drop digits.length)

/-- The directive after a percent sign, and the text after it; letters that tell the size of a number
are left out. -/
def directive? (sizeLetters : List Char) (cs : List Char) : Option (FormatPiece × List Char) :=
  let flags := cs.takeWhile fun c => c ∈ ['-', '+', ' ', '#', '0']
  let (width, rest) := directiveSize (cs.drop flags.length)
  let (precision, rest) := match rest with
    | '.' :: rest =>
      match directiveSize rest with
      | (.absent, rest) => (DirectiveSize.given 0, rest)
      | found => found
    | _ => (.absent, rest)
  match rest.dropWhile fun c => c ∈ sizeLetters with
  | [] => none
  | c :: after => some (.directive flags width precision c, after)

def pushText (c : Char) : List FormatPiece → List FormatPiece
  | .text cs :: rest => .text (c :: cs) :: rest
  | rest => .text [c] :: rest

/-- The pieces of a format, at most so many. A percent sign that starts no directive, or is written
twice, is text. -/
def formatPieces (sizeLetters : List Char) : (fuel : Nat) → List Char → List FormatPiece
  | 0, _ => []
  | _ + 1, [] => []
  | fuel + 1, '%' :: '%' :: rest => pushText '%' (formatPieces sizeLetters fuel rest)
  | fuel + 1, '%' :: rest =>
    match directive? sizeLetters rest with
    | none => pushText '%' (formatPieces sizeLetters fuel rest)
    | some (piece, after) => piece :: formatPieces sizeLetters fuel after
  | fuel + 1, c :: rest => pushText c (formatPieces sizeLetters fuel rest)

structure Directive where
  flags : List Char
  width : Nat
  precision : Option Nat
  conversion : Char
  deriving DecidableEq, Repr

namespace Directive

def has (d : Directive) (flag : Char) : Bool := flag ∈ d.flags

/-- A directive with the sizes that are asked for; a negative width asks for blanks after the
value, and a negative precision is none. -/
def ofSizes (flags : List Char) (width : Int) (precision : Option Int) (conversion : Char) :
    Directive :=
  { flags := if width < 0 then '-' :: flags else flags
    width := width.natAbs
    precision := (precision.filter (0 ≤ ·)).map Int.toNat
    conversion }

/-- Fills a value up to the width: with blanks before or after it, or with zeros after its sign. -/
def filled (d : Directive) (zeros : Bool) (sign body : List Char) : List Char :=
  let missing := d.width - (sign.length + body.length)
  if d.has '-' then sign ++ body ++ List.replicate missing ' '
  else if zeros && d.has '0' then sign ++ List.replicate missing '0' ++ body
  else List.replicate missing ' ' ++ sign ++ body

def text (d : Directive) (cs : List Char) : List Char :=
  d.filled false [] ((d.precision.map cs.take).getD cs)

def sign (d : Directive) (negative : Bool) : List Char :=
  if negative then ['-'] else if d.has '+' then ['+'] else if d.has ' ' then [' '] else []

/-- The number of words of 64 bits. -/
def words : Nat := 18446744073709551616

/-- Writes a whole number. Where no sign is written, a negative one counts as a word of 64 bits. -/
def whole (d : Directive) (n : Int) : List Char :=
  let word : Nat := (n % (words : Int)).toNat
  let (sign, digits) : List Char × List Char := match d.conversion with
    | 'u' => ([], Nat.toDigits 10 word)
    | 'o' =>
      let digits := Nat.toDigits 8 word
      ([], if d.has '#' && digits.head? ≠ some '0' then '0' :: digits else digits)
    | 'x' => (if d.has '#' && word ≠ 0 then ['0', 'x'] else [], Nat.toDigits 16 word)
    | 'X' => (if d.has '#' && word ≠ 0 then ['0', 'X'] else [],
        (Nat.toDigits 16 word).map Char.toUpper)
    | _ => (d.sign (n < 0), Nat.toDigits 10 n.natAbs)
  let digits := match d.precision with
    | some 0 => if n = 0 then [] else digits
    | some p => List.replicate (p - digits.length) '0' ++ digits
    | none => digits
  d.filled d.precision.isNone sign digits

/-- Writes a number with places, with a power of ten, or in the shorter of both notations. -/
def quantity (d : Directive) (q : Quantity) : List Char :=
  let upper := d.conversion.isUpper
  let cased (s : String) : List Char := if upper then s.toList.map Char.toUpper else s.toList
  match q with
  | .infinity negative => d.filled false (d.sign negative) (cased "inf")
  | .undefined negative => d.filled false (d.sign negative) (cased "nan")
  | .fraction negative n m =>
    let precision := d.precision.getD 6
    let body := match d.conversion.toLower with
      | 'e' => scientific precision n m
      | 'g' => general (d.has '#') precision n m
      | _ => fixed precision n m
    d.filled true (d.sign negative) (cased body)

end Directive

/-! ## Numbers in texts -/

/-- A decimal number at the front of a text: its sign, its digits, the power of ten that they are
multiplied by, and the text after it. -/
def numeral? (cs : List Char) : Option (Bool × Nat × Int × List Char) :=
  let (negative, cs) := match cs with
    | '-' :: rest => (true, rest)
    | '+' :: rest => (false, rest)
    | _ => (false, cs)
  let whole := cs.takeWhile Char.isDigit
  let rest := cs.drop whole.length
  let places := match rest with
    | '.' :: rest => rest.takeWhile Char.isDigit
    | _ => []
  if whole.isEmpty && places.isEmpty then none
  else
    let rest := match rest with
      | '.' :: rest => rest.drop places.length
      | _ => rest
    let (power, rest) : Int × List Char := match rest with
      | c :: after =>
        if c = 'e' || c = 'E' then
          let (down, digits) := match after with
            | '-' :: more => (true, more)
            | '+' :: more => (false, more)
            | _ => (false, after)
          let found := digits.takeWhile Char.isDigit
          if found.isEmpty then (0, rest)
          else
            let n : Nat := (digits? 10 found).getD 0
            (if down then -(n : Int) else n, digits.drop found.length)
        else (0, rest)
      | [] => (0, rest)
    some (negative, (digits? 10 (whole ++ places)).getD 0, power - places.length, rest)

/-- The number of the machine that is nearest to digits times a power of ten. Powers that are too
large or too small for any such number are cut. -/
def floatOf (negative : Bool) (digits : Nat) (power : Int) : Float :=
  let power := if digits = 0 then 0 else power
  let x := if 5000 < power then Float.ofScientific 1 false 400
    else if power < -100000 then 0
    else Float.ofScientific digits (power < 0) power.natAbs
  if negative then -x else x

end StorageBroker.Text
