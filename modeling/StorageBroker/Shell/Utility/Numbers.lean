import StorageBroker.Shell.Condition
import StorageBroker.Shell.Filter
import StorageBroker.Shell.Utility.Basic

/-! # Utilities for numbers

Commands that write sequences of numbers and the values of expressions. -/

set_option autoImplicit false

namespace StorageBroker.Shell

open Act

/-! ## Sequences -/

/-- A number as a whole number of parts of ten, with the places that it was written with. -/
structure Placed where
  value : Int
  places : Nat
  deriving DecidableEq, Repr

def Placed.ofText? (text : String) : Option Placed :=
  match Text.numeral? text.toList with
  | some (negative, digits, power, []) =>
    let n : Int := if 0 ≤ power then digits * Text.tenTo power.toNat else digits
    some ⟨if negative then -n else n, (-power).toNat⟩
  | _ => none

def Placed.scaledTo (p : Placed) (places : Nat) : Int := p.value * Text.tenTo (places - p.places)

/-- A whole number of parts of ten, written with its places. -/
def placedText (places : Nat) (n : Int) : String :=
  (if n < 0 then "-" else "") ++ Text.withPoint places n.natAbs

def seq : Utility := fun arguments =>
  let isNumber (a : String) : Bool := (Placed.ofText? a).isSome
  let before := arguments.takeWhile fun a => !(a.startsWith "-" && isNumber a)
  (OptionTable.mk "w" "sf" "" [("separator", 's'), ("equal-width", 'w'), ("format", 'f')] false).command
    "seq" 1 (fun given => do
      let operands := given.operands ++ arguments.drop before.length
      match operands.find? fun a => !isNumber a, operands.filterMap Placed.ofText? with
      | some a, _ => misused "seq" 1 ("invalid floating point argument: '" ++ a ++ "'")
      | none, [last] => list given ⟨1, 0⟩ ⟨1, 0⟩ last
      | none, [first, last] => list given first ⟨1, 0⟩ last
      | none, [first, step, last] =>
        if step.value = 0 then
          misused "seq" 1 ("invalid Zero increment value: '" ++ (operands[1]?).getD "" ++ "'")
        else list given first step last
      | none, [] => misused "seq" 1 "missing operand"
      | none, _ => misused "seq" 1 ("extra operand '" ++ (operands[3]?).getD "" ++ "'")) before
where
  /-- The numbers from one to another. -/
  list (given : Given) (first step last : Placed) : Act Nat := do
    let places := max first.places step.places
    let all := max places last.places
    let (a, d, z) := (first.scaledTo all, step.scaledTo all, last.scaledTo all)
    let span := if 0 < d then z - a else a - z
    let size := if span < 0 then 0 else (span / (d.natAbs : Int)).toNat + 1
    let down := Text.tenTo (all - places)
    let values := (List.range size).map fun (n : Nat) => (a + d * (n : Int)) / (down : Int)
    let texts := match given.value? 'f' with
      | none => values.map (placedText places)
      | some format => values.map fun v =>
        String.ofList (Text.formatPieces ['L'] (format.length + 1) format.toList |>.flatMap fun
          | .text cs => cs
          | .directive flags width precision conversion =>
            let size : Text.DirectiveSize → Option Int
              | .given n => some n
              | _ => none
            (Text.Directive.ofSizes flags ((size width).getD 0) (size precision) conversion).quantity
              (.fraction (v < 0) v.natAbs (Text.tenTo places)))
    let width := (texts.map String.length).foldl max 0
    let texts := if !given.has 'w' then texts
      else texts.map fun text =>
        let zeros := "".pushn '0' (width - text.length)
        if text.startsWith "-" then "-" ++ zeros ++ (text.drop 1).toString else zeros ++ text
    if !texts.isEmpty then print (((given.value? 's').getD "\n").intercalate texts ++ "\n")
    return 0

/-! ## Expressions -/

inductive ExprError
  | missingAfter (word : String)
  | unexpected (word : String)
  | expectedClosing (word : String)
  | notWhole
  | divisionByZero
  | badPattern (e : RegexError)
  deriving DecidableEq, Repr

def ExprError.message : ExprError → String
  | .missingAfter word => "syntax error: missing argument after '" ++ word ++ "'"
  | .unexpected word => "syntax error: unexpected argument '" ++ word ++ "'"
  | .expectedClosing word => "syntax error: expecting ')' after '" ++ word ++ "'"
  | .notWhole => "non-integer argument"
  | .divisionByZero => "division by zero"
  | .badPattern e => e.message

/-- A whole number with perhaps a minus sign, and nothing else. -/
def plainNumber? (text : String) : Option Int :=
  let digits := match text.toList with
    | '-' :: rest => rest
    | cs => cs
  if digits.isEmpty || !digits.all Char.isDigit then none
  else
    let n : Int := ((Text.digits? 10 digits).getD 0 : Nat)
    some (if text.startsWith "-" then -n else n)

def isNothing (value : String) : Bool := value.isEmpty || plainNumber? value = some 0

/-- The operators of expressions, those that bind loosest first. -/
def exprOperators : List (List String) :=
  [["|"], ["&"], ["<", "<=", "=", "==", "!=", ">=", ">"], ["+", "-"], ["*", "/", "%"], [":"]]

/-- What a pattern takes from the front of a text: what its first group matches, or else how much it
matches. -/
def takenBy (text pattern : String) : Except ExprError String :=
  match Regex.read .basic pattern.toList with
  | .error e => .error (.badPattern e)
  | .ok r =>
    let start := Cursor.ofText none text.toList
    let grouped := (pattern.splitOn "\\(").length ≠ 1
    match r.matchAt? ⟨false, false⟩ anyMatch start with
    | some ending =>
      .ok (if grouped then String.ofList (ending.group 1)
        else toString (start.textTo ending).length)
    | none => .ok (if grouped then "" else "0")

def operate (op a b : String) : Except ExprError String := do
  let truth (b : Bool) : String := if b then "1" else "0"
  let order (p : Ordering → Bool) : Except ExprError String :=
    match plainNumber? a, plainNumber? b with
    | some x, some y => .ok (truth (p (compare x y)))
    | _, _ => .ok (truth (p (compare a b)))
  let numbers : Except ExprError (Int × Int) :=
    match plainNumber? a, plainNumber? b with
    | some x, some y => .ok (x, y)
    | _, _ => .error .notWhole
  match op with
  | "|" => return if !isNothing a then a else if !isNothing b then b else "0"
  | "&" => return if isNothing a || isNothing b then "0" else a
  | "<" => order (· = .lt)
  | "<=" => order (· ≠ .gt)
  | "=" | "==" => order (· = .eq)
  | "!=" => order (· ≠ .eq)
  | ">=" => order (· ≠ .lt)
  | ">" => order (· = .gt)
  | "+" => do
    let (x, y) ← numbers
    return toString (x + y)
  | "-" => do
    let (x, y) ← numbers
    return toString (x - y)
  | "*" => do
    let (x, y) ← numbers
    return toString (x * y)
  | ":" => takenBy a b
  | _ => do
    let (x, y) ← numbers
    if y = 0 then throw .divisionByZero
    return toString (if op = "/" then Int.tdiv x y else Int.tmod x y)

/-- What stands between operators: a text, a function of texts, or an expression in parentheses. -/
def exprOperand (inner : String → List String → Except ExprError (String × List String))
    (last : String) : List String → Except ExprError (String × List String)
  | [] => .error (.missingAfter last)
  | "(" :: rest => do
    let (value, rest) ← inner "(" rest
    match rest with
    | ")" :: after => return (value, after)
    | word :: _ => throw (.expectedClosing word)
    | [] => throw (.expectedClosing value)
  | "+" :: word :: rest => .ok (word, rest)
  | "length" :: text :: rest => .ok (toString text.length, rest)
  | "index" :: text :: set :: rest =>
    let size := (text.toList.takeWhile fun c => c ∉ set.toList).length
    .ok (toString (if size < text.length then size + 1 else 0), rest)
  | "match" :: text :: pattern :: rest => do return (← takenBy text pattern, rest)
  | "substr" :: text :: start :: size :: rest =>
    match plainNumber? start, plainNumber? size with
    | some n, some k =>
      let cs := if n ≤ 0 || k ≤ 0 then []
        else (text.toList.drop (n.toNat - 1)).take k.toNat
      .ok (String.ofList cs, rest)
    | _, _ => .ok ("", rest)
  | word :: rest => .ok (word, rest)

/-- Operands with operators of some kinds between them, joined from the left. -/
def exprLevels (inner : String → List String → Except ExprError (String × List String)) :
    (levels : List (List String)) → (fuel : Nat) → String → List String →
    Except ExprError (String × List String)
  | [], _, last, words => exprOperand inner last words
  | operators :: tighter, fuel, last, words => do
    let (first, rest) ← exprLevels inner tighter fuel last words
    let rec more : (fuel : Nat) → String → List String → Except ExprError (String × List String)
      | 0, value, rest => .ok (value, rest)
      | n + 1, value, op :: rest =>
        if op ∈ operators then do
          let (next, rest) ← exprLevels inner tighter fuel op rest
          more n (← operate op value next) rest
        else .ok (value, op :: rest)
      | _, value, [] => .ok (value, [])
    more fuel first rest

def expressionFrom : (depth : Nat) → String → List String → Except ExprError (String × List String)
  | 0, last, _ => .error (.missingAfter last)
  | depth + 1, last, words =>
    exprLevels (expressionFrom depth) exprOperators (words.length + 1) last words

def expr : Utility := fun arguments => do
  let words := if arguments.head? = some "--" then arguments.drop 1 else arguments
  if words.isEmpty then return ← misused "expr" 2 "missing operand"
  match expressionFrom (words.length + 1) "" words with
  | .error e => failing 2 ("expr: " ++ e.message)
  | .ok (_, word :: _) => failing 2 ("expr: " ++ (ExprError.unexpected word).message)
  | .ok (value, []) =>
    print (value ++ "\n")
    return if isNothing value then 1 else 0

end StorageBroker.Shell
