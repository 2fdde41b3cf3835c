import StorageBroker.Shell.State

/-! # Conditions

The conditions that a shell can test: of texts, of whole numbers, and of files. -/

set_option autoImplicit false

namespace StorageBroker.Shell

def wholeNumber? (s : String) : Option Int :=
  let isBlank (c : Char) : Bool := c = ' ' || c = '\t' || c = '\n'
  let cs := ((s.toList.dropWhile isBlank).reverse.dropWhile isBlank).reverse
  let (negative, digits) := match cs with
    | '-' :: rest => (true, rest)
    | '+' :: rest => (false, rest)
    | _ => (false, cs)
  if digits.isEmpty || !digits.all Char.isDigit then none
  else
    let n : Int := digits.foldl (fun n c => n * 10 + (c.toNat - 48)) 0
    some (if negative then -n else n)

/-- The tests of one operand: of a text, or of the file that a path leads to, which may be a link. -/
def unaryTest? (files : FileTree) (here : Location) (test : String) : Option (String → Bool) :=
  let onFile (keepLast : Bool) (p : Location → FileEntry → Bool) : Option (String → Bool) :=
    some fun path =>
      match files.lookupWith keepLast here path with
      | .ok (place, entry) => p place entry
      | .error _ => false
  let isLink (entry : FileEntry) : Bool := (entry matches .link _)
  match test with
  | "-n" => some fun s => !s.isEmpty
  | "-z" => some fun s => s.isEmpty
  | "-e" | "-r" | "-w" | "-O" | "-G" => onFile false fun _ _ => true
  | "-d" => onFile false fun _ entry => entry = .directory
  | "-x" => onFile false fun place _ => files.isExecutable place
  | "-f" => onFile false fun _ entry => (entry matches .file _)
  | "-c" => onFile false fun _ entry => entry = .sink || entry = .zeros
  | "-s" => onFile false fun _ entry =>
    match entry with
    | .file content => !content.isEmpty
    | .directory => true
    | _ => false
  | "-h" | "-L" => onFile true fun _ entry => isLink entry
  | "-u" => onFile false fun place _ => 0 < files.mode place / 2048 % 2
  | "-g" => onFile false fun place _ => 0 < files.mode place / 1024 % 2
  | "-k" => onFile false fun place _ => 0 < files.mode place / 512 % 2
  | "-b" | "-p" | "-S" | "-t" => some fun _ => false
  | _ => none

def comparison? : String → Option (Int → Int → Bool)
  | "-eq" => some fun a b => a = b
  | "-ne" => some fun a b => a ≠ b
  | "-lt" => some fun a b => a < b
  | "-le" => some fun a b => a ≤ b
  | "-gt" => some fun a b => b < a
  | "-ge" => some fun a b => b ≤ a
  | _ => none

/-- The tests of two operands; an error is an operand that is no number. -/
def binaryTest? (files : FileTree) (here : Location) (test : String) :
    Option (String → String → Except String Bool) :=
  match test with
  | "=" => some fun a b => .ok (a = b)
  | "!=" => some fun a b => .ok (a ≠ b)
  | "<" => some fun a b => .ok (a < b)
  | ">" => some fun a b => .ok (b < a)
  | "-nt" => some fun a b => .ok ((files.lookup here a).isOk && !(files.lookup here b).isOk)
  | "-ot" => some fun a b => .ok (!(files.lookup here a).isOk && (files.lookup here b).isOk)
  | "-ef" => some fun a b =>
    match files.lookup here a, files.lookup here b with
    | .ok (x, _), .ok (y, _) => .ok (x = y)
    | _, _ => .ok false
  | _ => (comparison? test).map fun compare a b =>
    match wholeNumber? a, wholeNumber? b with
    | some x, some y => .ok (compare x y)
    | none, _ => .error ("Illegal number: " ++ a)
    | _, none => .error ("Illegal number: " ++ b)

inductive ConditionToken
  | ending
  | operand
  | unary (f : String → Bool)
  | binary (f : String → String → Except String Bool)
  | negation
  | conjunction
  | disjunction
  | opening
  | closing

section

variable (files : FileTree) (here : Location)

/-- Whether the first of some words is an operand although it looks like a test: nothing follows, or
a test of two operands does. -/
def isOperand : List String → Bool
  | _ :: next :: _ :: _ => (binaryTest? files here next).isSome
  | [_, _] => false
  | _ => true

def conditionToken (words : List String) : ConditionToken :=
  match words with
  | [] => .ending
  | word :: rest =>
    match word with
    | "!" => .negation
    | "-a" => .conjunction
    | "-o" => .disjunction
    | "(" => if rest.isEmpty then .operand else .opening
    | ")" => .closing
    | _ =>
      match binaryTest? files here word, unaryTest? files here word with
      | some f, _ => .binary f
      | none, some f => if isOperand files here words then .operand else .unary f
      | none, none => .operand

mutual

/-- A condition at the front of some words, of which the first is taken for the given token, and the
words from its last one on. -/
def disjunction : Nat → ConditionToken → List String → Except String (Bool × List String)
  | 0, _, _ => .error "too deep"
  | fuel + 1, token, words => do
    let (b, rest) ← conjunction fuel token words
    match conditionToken files here rest.tail with
    | .disjunction =>
      let more := rest.drop 2
      let (c, rest) ← disjunction fuel (conditionToken files here more) more
      return (b || c, rest)
    | _ => return (b, rest)

def conjunction : Nat → ConditionToken → List String → Except String (Bool × List String)
  | 0, _, _ => .error "too deep"
  | fuel + 1, token, words => do
    let (b, rest) ← negation fuel token words
    match conditionToken files here rest.tail with
    | .conjunction =>
      let more := rest.drop 2
      let (c, rest) ← conjunction fuel (conditionToken files here more) more
      return (b && c, rest)
    | _ => return (b, rest)

def negation : Nat → ConditionToken → List String → Except String (Bool × List String)
  | 0, _, _ => .error "too deep"
  | fuel + 1, .negation, words => do
    let next := conditionToken files here words.tail
    let (b, rest) ← negation fuel next (if next matches .ending then words else words.tail)
    return (!b, rest)
  | fuel + 1, token, words => single fuel token words

def single : Nat → ConditionToken → List String → Except String (Bool × List String)
  | 0, _, _ => .error "too deep"
  | fuel + 1, token, words => do
    match token with
    | .ending => return (false, words)
    | .opening =>
      match conditionToken files here words.tail with
      | .closing => return (false, words.tail)
      | next =>
        let (b, rest) ← disjunction fuel next words.tail
        match conditionToken files here rest.tail with
        | .closing => return (b, rest.tail)
        | _ => throw "closing paren expected"
    | .unary f =>
      match words with
      | _ :: operand :: rest => return (f operand, operand :: rest)
      | _ => throw (words.headD "" ++ ": argument expected")
    | _ =>
      match words with
      | a :: test :: rest =>
        match conditionToken files here (test :: rest) with
        | .binary f =>
          match rest with
          | b :: _ => return (← f a b, rest)
          | [] => throw (test ++ ": argument expected")
        | _ => return (!a.isEmpty, words)
      | _ => return (!(words.headD "").isEmpty, words)

end

/-- Whether a condition holds; how its first words are read depends on how many there are. -/
def holdsWithin : Nat → List String → Except String Bool
  | 0, _ => .error "too deep"
  | fuel + 1, words => do
    let whole (token : ConditionToken) (words : List String) : Except String Bool := do
      let (b, rest) ← disjunction files here (4 * words.length + 8) token words
      match rest with
      | word :: _ :: _ => throw (word ++ ": unexpected operator")
      | _ => return b
    let plain (words : List String) : Except String Bool :=
      whole (conditionToken files here words) words
    if words.isEmpty then return false
    let isBinary := match words with
      | [_, test, _] => (binaryTest? files here test).isSome
      | _ => false
    if isBinary then return ← whole .operand words
    if words.length = 3 || words.length = 4 then
      if words.head? = some "(" && words.getLast? = some ")" then
        return ← plain (words.drop 1).dropLast
      if words.head? = some "!" then return !(← holdsWithin fuel (words.drop 1))
    plain words

def holds (words : List String) : Except String Bool :=
  holdsWithin files here (words.length + 1) words

end

end StorageBroker.Shell
