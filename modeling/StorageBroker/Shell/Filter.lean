import StorageBroker.Regex.Reader
import StorageBroker.Text.Directive

/-! # Text in a shell

What the commands that read and write text make of it: escapes, formats and lines. -/

set_option autoImplicit false

namespace StorageBroker.Shell

/-! ## Escapes -/

def octal : Nat → Nat → List Char → Nat × List Char
  | 0, n, cs => (n, cs)
  | left + 1, n, c :: rest =>
    if '0' ≤ c && c ≤ '7' then octal left (n * 8 + (c.toNat - 48)) rest else (n, c :: rest)
  | _ + 1, n, [] => (n, [])

theorem length_octal (left n : Nat) (cs : List Char) : (octal left n cs).2.length ≤ cs.length := by
  induction left generalizing n cs with
  | zero => exact Nat.le_refl _
  | succ left ih =>
    cases cs with
    | nil => exact Nat.le_refl _
    | cons c rest =>
      simp only [octal]
      split
      · exact Nat.le_trans (ih _ _) (Nat.le_succ _)
      · exact Nat.le_refl _

def escaped? : Char → Option Char
  | 'a' => some '\x07'
  | 'b' => some '\x08'
  | 'e' => some '\x1b'
  | 'f' => some '\x0c'
  | 'n' => some '\n'
  | 'r' => some '\r'
  | 't' => some '\t'
  | 'v' => some '\x0b'
  | '\\' => some '\\'
  | _ => none

/-- Text with its escapes carried out, and whether it went to its end: `\c` cuts it off. -/
def unescape : List Char → List Char × Bool
  | [] => ([], true)
  | '\\' :: 'c' :: _ => ([], false)
  | '\\' :: '0' :: rest =>
    let after := octal 3 0 rest
    let (text, whole) := unescape after.2
    (Char.ofNat (after.1 % 256) :: text, whole)
  | '\\' :: c :: rest =>
    if '1' ≤ c && c ≤ '7' then
      let after := octal 3 0 (c :: rest)
      let (text, whole) := unescape after.2
      (Char.ofNat (after.1 % 256) :: text, whole)
    else
      let (text, whole) := unescape rest
      match escaped? c with
      | some e => (e :: text, whole)
      | none => ('\\' :: c :: text, whole)
  | c :: rest =>
    let (text, whole) := unescape rest
    (c :: text, whole)
termination_by cs => cs.length
decreasing_by
  · have := length_octal 3 0 rest
    simp only [List.length_cons]
    omega
  · have := length_octal 3 0 (c :: rest)
    simp only [List.length_cons] at this ⊢
    omega
  · simp only [List.length_cons]
    omega
  · exact Nat.lt_succ_self _

def echoed (arguments : List String) : String :=
  let (line, words) := match arguments with
    | "-n" :: rest => (false, rest)
    | _ => (true, arguments)
  let (text, whole) := unescape (" ".intercalate words).toList
  String.ofList text ++ if line && whole then "\n" else ""

/-- The escapes of a format carried out: octal digits stand for a character. -/
def unescapeFormat : (fuel : Nat) → List Char → List Char
  | 0, cs => cs
  | _ + 1, [] => []
  | fuel + 1, '\\' :: c :: rest =>
    if '0' ≤ c && c ≤ '7' then
      let (n, after) := octal 3 0 (c :: rest)
      Char.ofNat (n % 256) :: unescapeFormat fuel after
    else
      match escaped? c with
      | some e => e :: unescapeFormat fuel rest
      | none => '\\' :: unescapeFormat fuel (c :: rest)
  | fuel + 1, c :: rest => c :: unescapeFormat fuel rest

/-! ## Formats -/

/-- Why an argument is no number, if it is none: nothing of it is one, or not all of it. -/
def numberFault (argument : String) (found complete : Bool) : List String :=
  if !found then [argument ++ ": expected numeric value"]
  else if !complete then [argument ++ ": not completely converted"]
  else []

/-- The whole number at the front of a text, in one of the notations of a number, or the number of
the character after a quote; and what is wrong with the text. -/
def wholeArgument (argument : String) : Int × List String :=
  let cs := argument.toList.dropWhile fun c => c = ' ' || c = '\t' || c = '\n'
  let (negative, body) := match cs with
    | '-' :: rest => (true, rest)
    | '+' :: rest => (false, rest)
    | _ => (false, cs)
  let leading (base : Nat) (cs : List Char) : Int × List String :=
    let isDigit (c : Char) : Bool := (Text.digits? base [c]).isSome
    let ds := cs.takeWhile isDigit
    let n := min ((Text.digits? base ds).getD 0) 9223372036854775807
    (if negative then -n else n,
      numberFault argument (!ds.isEmpty) (ds.length = cs.length))
  match body with
  | [] => (0, if argument.isEmpty then [] else numberFault argument false false)
  | '\'' :: c :: _ | '"' :: c :: _ => (c.toNat, [])
  | '0' :: 'x' :: ds | '0' :: 'X' :: ds => leading 16 ds
  | '0' :: ds => leading 8 ('0' :: ds)
  | ds => leading 10 ds

/-- The number at the front of a text, and what is wrong with the text. -/
def realArgument (argument : String) : Text.Quantity × List String :=
  match argument.toList with
  | '\'' :: c :: _ | '"' :: c :: _ => (.ofFloat (Float.ofNat c.toNat), [])
  | cs =>
    match Text.numeral? (cs.dropWhile (· = ' ')) with
    | none => (.fraction false 0 1, if argument.isEmpty then [] else numberFault argument false false)
    | some (negative, digits, power, rest) =>
      (.ofFloat (Text.floatOf negative digits power), numberFault argument true rest.isEmpty)

/-- What one pass over a format gives: what is written, the arguments that are left, what was wrong
with arguments, and whether this was the end: a directive is unknown, or an argument says so. -/
structure Pass where
  text : List Char
  left : List String
  faults : List String
  unknown : Option String
  stopped : Bool

def Pass.after (p : Pass) (front : List Char) (faults : List String) : Pass :=
  { p with text := front ++ p.text, faults := faults ++ p.faults }

def sizeFrom (size : Text.DirectiveSize) (arguments : List String) :
    Option Int × List String × List String :=
  match size with
  | .absent => (none, arguments, [])
  | .given n => (some n, arguments, [])
  | .asked =>
    let (n, faults) := wholeArgument (arguments.headD "")
    (some n, arguments.tail, faults)

def pass : List Text.FormatPiece → List String → Pass
  | [], arguments => ⟨[], arguments, [], none, false⟩
  | .text cs :: rest, arguments =>
    (pass rest arguments).after (unescapeFormat (cs.length + 1) cs) []
  | .directive flags width precision conversion :: rest, arguments =>
    let (width, arguments, first) := sizeFrom width arguments
    let (precision, arguments, second) := sizeFrom precision arguments
    let d := Text.Directive.ofSizes flags (width.getD 0) precision conversion
    let argument := arguments.headD ""
    let goOn (made : List Char) (faults : List String) : Pass :=
      (pass rest arguments.tail).after made (first ++ second ++ faults)
    if conversion = 's' then goOn (d.text argument.toList) []
    else if conversion = 'c' then goOn (d.text (argument.toList.take 1)) []
    else if conversion = 'b' then
      let (made, whole) := unescape argument.toList
      if whole then goOn (d.text made) []
      else ⟨d.text made, [], first ++ second, none, true⟩
    else if conversion ∈ ['d', 'i', 'u', 'o', 'x', 'X'] then
      let (n, faults) := wholeArgument argument
      goOn (d.whole n) faults
    else if conversion ∈ ['f', 'F', 'e', 'E', 'g', 'G'] then
      let (q, faults) := realArgument argument
      goOn (d.quantity q) faults
    else ⟨[], [], first ++ second, some ("%" ++ conversion.toString), true⟩

/-- What a format makes of arguments: it is used again as long as it takes up arguments. -/
def passes (pieces : List Text.FormatPiece) : (fuel : Nat) → List String → Pass
  | 0, arguments => ⟨[], arguments, [], none, false⟩
  | fuel + 1, arguments =>
    let first := pass pieces arguments
    if first.left.isEmpty || first.stopped || first.left.length = arguments.length then first
    else (passes pieces fuel first.left).after first.text first.faults

/-- What `printf` writes. -/
def printed (format : String) (arguments : List String) : Pass :=
  passes (Text.formatPieces [] (format.length + 1) format.toList) (arguments.length + 1) arguments

/-! ## Lines -/

/-- The lines of a text; a text without an end of line has one too. -/
def linesOf (text : String) : List String :=
  match text.splitOn "\n" with
  | [] => []
  | parts => if parts.getLastD "" = "" then parts.dropLast else parts

def ofLines (lines : List String) : String := String.join (lines.map (· ++ "\n"))

def wholeLines (text : String) : List String :=
  match (text.splitOn "\n").reverse with
  | [] => []
  | last :: before =>
    (before.reverse.map (· ++ "\n")) ++ if last.isEmpty then [] else [last]

def takeBytes : Nat → List Char → List Char
  | _, [] => []
  | n, c :: rest => if c.utf8Size ≤ n then c :: takeBytes (n - c.utf8Size) rest else []

def dropBytes : Nat → List Char → List Char
  | 0, cs => cs
  | _, [] => []
  | n, c :: rest => dropBytes (n - c.utf8Size) rest

def rightAligned (width : Nat) (text : String) : String := "".pushn ' ' (width - text.length) ++ text

end StorageBroker.Shell
