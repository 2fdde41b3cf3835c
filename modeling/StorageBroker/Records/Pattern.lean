import StorageBroker.Records.Token
import StorageBroker.Regex.Reader

/-! # Patterns

Regular expressions of programs over records, what they cut a text into, and what is put in the place
of their matches. -/

set_option autoImplicit false

namespace StorageBroker.Records

inductive PatternFault
  | missingOperand
  | repeatedStart
  | unfit (e : RegexError)
  deriving DecidableEq, Repr

def PatternFault.message : PatternFault → String
  | .missingOperand => "missing operand"
  | .repeatedStart => "syntax error ^* or ^+"
  | .unfit .openGroup => "missing ')'"
  | .unfit .openBracket => "bad class -- [], [^] or ["
  | .unfit e => e.message

def plainMatching : Matching := ⟨false, false⟩

def patternForm : RegexForm := ⟨true, true, true, false, false, true⟩

/-- A pattern in which characters are no longer written by their numbers. -/
def withoutNumbers : (fuel : Nat) → List Char → List Char
  | 0, cs => cs
  | _ + 1, [] => []
  | fuel + 1, '\\' :: c :: rest =>
    let found? := if c = 'x' then byDigits? 16 2 rest else byDigits? 8 3 (c :: rest)
    match found? with
    | some (made, after) =>
      (if made.isAlphanum then [made] else ['\\', made]) ++ withoutNumbers fuel after
    | none => '\\' :: c :: withoutNumbers fuel rest
  | fuel + 1, c :: rest => c :: withoutNumbers fuel rest

/-- What is wrong with the operands of the operators in a pattern: whether one has to come next,
whether there is only a start to repeat, and how many groups are open. -/
def operandFault? : (fuel : Nat) → (needed start : Bool) → (depth : Nat) → List Char →
    Option PatternFault
  | 0, _, _, _, _ => none
  | _ + 1, needed, _, _, [] => if needed then some .missingOperand else none
  | fuel + 1, needed, start, depth, c :: rest =>
    match c with
    | '\\' => operandFault? fuel false false depth (rest.drop 1)
    | '[' =>
      let inside := match rest with
        | '^' :: ']' :: more | ']' :: more => more
        | more => more
      operandFault? fuel false false depth ((inside.dropWhile (· ≠ ']')).drop 1)
    | '(' => operandFault? fuel true false (depth + 1) rest
    | ')' =>
      if needed && 0 < depth then some .missingOperand
      else operandFault? fuel false false (depth - 1) rest
    | '|' => if needed then some .missingOperand else operandFault? fuel true false depth rest
    | '*' | '+' | '?' =>
      if needed then some .missingOperand
      else if start then some .repeatedStart
      else operandFault? fuel false false depth rest
    | '^' => operandFault? fuel false needed depth rest
    | _ => operandFault? fuel false false depth rest

def readPattern (text : String) : Except PatternFault Regex :=
  let cs := text.toList
  let fault? := if cs.isEmpty then none else operandFault? (cs.length + 1) true false 0 cs
  match fault?, Regex.read patternForm (withoutNumbers (cs.length + 1) cs) with
  | some fault, _ => .error fault
  | none, .error e => .error (.unfit e)
  | none, .ok r => .ok r

/-! ## Cutting texts -/

/-- What is between the pieces of a text: blanks, nothing, a character, or a match. -/
inductive Separator
  | blanks
  | nothing
  | char (c : Char)
  | regex (r : Regex)

def Separator.ofText (text : String) : Except PatternFault Separator :=
  match text.toList with
  | [] => .ok .nothing
  | [' '] => .ok .blanks
  | [c] => .ok (.char c)
  | _ => (readPattern text).map .regex

def wordsOf : (word : List Char) → List Char → List (List Char)
  | word, [] => if word.isEmpty then [] else [word.reverse]
  | word, c :: rest =>
    if c = ' ' || c = '\t' || c = '\n' then
      if word.isEmpty then wordsOf [] rest else word.reverse :: wordsOf [] rest
    else wordsOf (c :: word) rest

def piecesAt (sign : Char) : (piece : List Char) → List Char → List (List Char)
  | piece, [] => [piece.reverse]
  | piece, c :: rest =>
    if c = sign then piece.reverse :: piecesAt sign [] rest else piecesAt sign (c :: piece) rest

def piecesBetween (ending : List Char) : (piece : List Char) → List Match → List (List Char)
  | piece, [] => [piece ++ ending]
  | piece, found :: rest =>
    let piece := piece ++ found.skipped
    if found.text.isEmpty then piecesBetween ending piece rest
    else piece :: piecesBetween ending [] rest

/-- The pieces of a text; one without characters has none. -/
def Separator.cut (s : Separator) (text : List Char) : List (List Char) :=
  if text.isEmpty then []
  else
    match s with
    | .blanks => wordsOf [] text
    | .nothing => text.map fun c => [c]
    | .char c => piecesAt c [] text
    | .regex r =>
      let (found, ending) := r.allMatches plainMatching anyMatch text
      piecesBetween ending [] found

/-- The text before the first empty line, and the text from its end on. -/
def paragraph : List Char → List Char × List Char
  | [] => ([], [])
  | '\n' :: '\n' :: rest => ([], rest)
  | ['\n'] => ([], [])
  | c :: rest =>
    let (text, after) := paragraph rest
    (c :: text, after)

def firstMatch? (r : Regex) : (fuel : Nat) → (before : Option Char) → List Char → Option Match
  | 0, _, _ => none
  | fuel + 1, before, text => do
    let found ← r.searchFrom plainMatching anyMatch before text
    if !found.text.isEmpty then return found
    match found.start.rest with
    | [] => none
    | c :: rest =>
      let later ← firstMatch? r fuel (some c) rest
      return { later with skipped := found.skipped ++ c :: later.skipped }

/-- The first record of a text, and the text after what ends it. Empty lines end records if nothing
else is said. -/
def takeRecord? (ending : String) (text : List Char) :
    Except PatternFault (Option (List Char × List Char)) :=
  match ending.toList with
  | [] =>
    let text := text.dropWhile (· = '\n')
    if text.isEmpty then .ok none else .ok (some (paragraph text))
  | [c] =>
    if text.isEmpty then .ok none
    else
      let record := text.takeWhile (· ≠ c)
      .ok (some (record, text.drop (record.length + 1)))
  | _ => do
    let r ← readPattern ending
    if text.isEmpty then return none
    match firstMatch? r (text.length + 1) none text with
    | some found => return some (found.skipped, found.ending.rest)
    | none => return some (text, [])

/-! ## Replacing matches -/

/-- What takes the place of a match: an ampersand stands for the match unless a backslash hides
it. -/
def replacement (found : List Char) : (slashes : Nat) → List Char → List Char
  | slashes, [] => List.replicate slashes '\\'
  | slashes, '\\' :: rest => replacement found (slashes + 1) rest
  | slashes, '&' :: rest =>
    List.replicate (slashes / 2) '\\' ++ (if slashes % 2 = 1 then ['&'] else found) ++
      replacement found 0 rest
  | slashes, c :: rest => List.replicate slashes '\\' ++ c :: replacement found 0 rest

def replaceMatches (r : Regex) (all : Bool) (made text : List Char) : List Char × Nat :=
  if all then
    let (found, ending) := r.allMatches plainMatching anyMatch text
    ((found.flatMap fun m => m.skipped ++ replacement m.text 0 made) ++ ending, found.length)
  else
    match r.search plainMatching text with
    | none => (text, 0)
    | some m => (m.skipped ++ replacement m.text 0 made ++ m.ending.rest, 1)

end StorageBroker.Records
