import StorageBroker.Regex.Basic

/-! # Scripts that edit texts

A script is done for one line of a text after the other. Each of its steps tells the lines for which
it is done, and what it does with the line that is being edited, with a text that is kept beside it,
and with what is written. -/

set_option autoImplicit false

namespace StorageBroker.Edit

/-! ## Lines -/

/-- What is looked for in a line: an expression and how it is used, or else what was looked for
last. -/
abbrev Sought : Type := Option (Regex × Matching)

/-- Tells a line: by its number, as the last one, as one of those that follow a first one at a
distance, or by what is found in it. -/
inductive Address
  | line (number : Nat)
  | last
  | every (first distance : Nat)
  | finding (what : Sought)
  deriving Repr

/-- Where lines that belong together end: with one that is told, after so many further ones, or with
the next one whose number is a multiple. -/
inductive Ending
  | address (a : Address)
  | further (lines : Nat)
  | multiple (number : Nat)
  deriving Repr

/-- The lines for which a step is done: all, a single one, or those from one to another; or all lines
but these. -/
structure Selection where
  first : Option Address
  ending : Option Ending
  negated : Bool
  deriving Repr

/-- How far the lines from one to another have come: they have started and may be known to end with
a number, or they are over and cannot start again. -/
inductive Progress
  | started (last : Option Nat)
  | over
  deriving DecidableEq, Repr

/-! ## Replacements -/

inductive LetterCase
  | kept
  | lower
  | upper
  deriving DecidableEq, Repr

def LetterCase.apply : LetterCase → Char → Char
  | .kept, c => c
  | .lower, c => c.toLower
  | .upper, c => c.toUpper

/-- A piece of a replacement: a text, what a group has matched, or a case for all that follows or for
the next character. The whole match is group 0. -/
inductive Piece
  | text (cs : List Char)
  | group (number : Nat)
  | onward (letters : LetterCase)
  | once (letters : LetterCase)
  deriving DecidableEq, Repr

/-- A text in one case, but with another for its first character. -/
def inCases (all : LetterCase) (first : Option LetterCase) : List Char → List Char
  | [] => []
  | c :: rest => (first.getD all).apply c :: rest.map all.apply

def fill (found : Match) : (all : LetterCase) → (first : Option LetterCase) → List Piece → List Char
  | _, _, [] => []
  | _, first, .onward letters :: rest => fill found letters first rest
  | all, _, .once letters :: rest => fill found all (some letters) rest
  | all, first, .text cs :: rest =>
    inCases all first cs ++ fill found all (if cs.isEmpty then first else none) rest
  | all, first, .group number :: rest =>
    let cs := if number = 0 then found.text else found.ending.group number
    inCases all first cs ++ fill found all (if cs.isEmpty then first else none) rest

/-- A place that texts are written to: that of the edited lines, a descriptor, or a file. -/
inductive Output
  | lines
  | descriptor (number : Nat)
  | file (path : String)
  deriving DecidableEq, Repr

/-- A replacement of matches by others: from which match on, only that or all, and what happens
afterwards: the line is written, it is run as a command, or it is copied. -/
structure Substitution where
  what : Sought
  pieces : List Piece
  nth : Nat
  all : Bool
  shown : Bool
  run : Bool
  copied : Option Output
  deriving Repr

/-- A text in which those of its matches are replaced that have reached their turn. -/
def replaceFrom (s : Substitution) (ending : List Char) : (turn : Nat) → List Match → List Char
  | _, [] => ending
  | turn, found :: rest =>
    let due := turn = s.nth || (s.all && s.nth < turn)
    let made := if due then fill found .kept none s.pieces else found.text
    found.skipped ++ made ++ replaceFrom s ending (turn + 1) rest

def Substitution.replace? (s : Substitution) (r : Regex) (m : Matching) (text : List Char) :
    Option (List Char) :=
  let (found, ending) := r.allMatches m anyMatch text
  if found.length < s.nth then none else some (replaceFrom s ending 1 found)

/-! ## Steps -/

/-- What a step does. A block is skipped as a whole. -/
inductive Action
  | openBlock
  | closeBlock
  | label (name : String)
  | jump (name : String)
  | jumpIfReplaced (name : String)
  | jumpUnlessReplaced (name : String)
  | substitute (s : Substitution)
  | exchange (these those : List Char)
  | append (text : String)
  | insert (text : String)
  | change (text : String)
  | delete
  | deleteFirst
  | clear
  | print
  | printFirst
  | printPlainly (width : Option Nat)
  | printNumber
  | printName
  | next
  | nextAppended
  | keep
  | keepAppended
  | recall
  | recallAppended
  | swap
  | quit (status : Nat)
  | stop (status : Nat)
  | readFile (path : String)
  | readLine (path : String)
  | write (output : Output)
  | writeFirst (output : Output)
  | run (command : String)
  deriving Repr

structure Step where
  number : Nat
  selection : Selection
  action : Action
  deriving Repr

/-- The outputs that a step writes to, apart from that of the edited lines. -/
def Action.output? : Action → Option Output
  | .write output | .writeFirst output => some output
  | .substitute s => s.copied
  | _ => none

/-- The steps after the end of the block in which the first of some steps are. -/
def afterBlock : (depth : Nat) → List Step → List Step
  | _, [] => []
  | depth, step :: rest =>
    match step.action, depth with
    | .openBlock, _ => afterBlock (depth + 1) rest
    | .closeBlock, 0 => rest
    | .closeBlock, depth + 1 => afterBlock depth rest
    | _, _ => afterBlock depth rest

/-- The steps after a label; without a name it is the end. -/
def afterLabel (name : String) : List Step → List Step
  | [] => []
  | step :: rest =>
    match step.action with
    | .label other => if name = other then rest else afterLabel name rest
    | _ => afterLabel name rest

/-! ## Texts -/

def firstLine (edge : Char) (text : List Char) : List Char := text.takeWhile (· ≠ edge)

def exchanged (these those text : List Char) : List Char :=
  text.map fun c => ((these.zip those).lookup c).getD c

/-- A character that can be seen, or a sign for it. -/
def plainly (c : Char) : List Char :=
  match c with
  | '\\' => ['\\', '\\']
  | '\x07' => ['\\', 'a']
  | '\x08' => ['\\', 'b']
  | '\x0c' => ['\\', 'f']
  | '\n' => ['\\', 'n']
  | '\r' => ['\\', 'r']
  | '\t' => ['\\', 't']
  | '\x0b' => ['\\', 'v']
  | _ =>
    if ' ' ≤ c && c ≤ '~' then [c]
    else c.toString.toUTF8.toList.flatMap fun byte =>
      let digit (n : Nat) : Char := Char.ofNat (48 + n % 8)
      ['\\', digit (byte.toNat / 64), digit (byte.toNat / 8), digit byte.toNat]

/-- Signs in lines of at most so many characters, of which the last goes on in the next line. -/
def inWidth (width : Nat) : (used : Nat) → List (List Char) → List Char
  | _, [] => ['$']
  | used, sign :: rest =>
    if 0 < width && width - 1 < used + sign.length then
      '\\' :: '\n' :: sign ++ inWidth width sign.length rest
    else sign ++ inWidth width (used + sign.length) rest

end StorageBroker.Edit
