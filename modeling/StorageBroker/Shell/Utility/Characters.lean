import StorageBroker.Shell.Filter
import StorageBroker.Shell.Utility.Basic

/-! # Utilities for characters

Commands that replace, drop and count characters. -/

set_option autoImplicit false

namespace StorageBroker.Shell

open Act

/-! ## Sets of characters -/

def characterRange (a b : Char) : List Char :=
  (List.range (b.toNat + 1 - a.toNat)).map fun n => Char.ofNat (a.toNat + n)

/-- A part of a set: a character, a range or class, or a character that is repeated; so often, or as
often as needed if that is 0. -/
inductive SetPart
  | char (c : Char)
  | range (a b : Char)
  | named (name : String)
  | repeated (c : Char) (times : Nat)
  deriving DecidableEq, Repr

/-- A character at the front of a set, and the text after it; a backslash may hide it, or make it
another one. -/
def setCharacter : List Char → Option (Char × List Char)
  | [] => none
  | '\\' :: c :: rest =>
    if '0' ≤ c && c ≤ '7' then
      let (n, after) := octal 3 0 (c :: rest)
      some (Char.ofNat (n % 256), after)
    else some ((escaped? c).getD c, rest)
  | c :: rest => some (c, rest)

def bracketPart (cs : List Char) : Option (SetPart × List Char) :=
  match cs with
  | '[' :: ':' :: rest =>
    (Regex.bracketName? ':' rest).map fun (name, after) => (.named (String.ofList name), after)
  | '[' :: '=' :: c :: '=' :: ']' :: rest => some (.char c, rest)
  | '[' :: rest =>
    match setCharacter rest with
    | some (c, '*' :: more) =>
      let digits := more.takeWhile Char.isDigit
      match more.drop digits.length with
      | ']' :: after =>
        let base := if digits.head? = some '0' then 8 else 10
        some (.repeated c ((Text.digits? base digits).getD 0), after)
      | _ => none
    | _ => none
  | _ => none

def setParts : Nat → List Char → List SetPart
  | 0, _ => []
  | fuel + 1, cs =>
    match bracketPart cs, setCharacter cs with
    | some (part, rest), _ => part :: setParts fuel rest
    | none, none => []
    | none, some (a, '-' :: rest) =>
      match setCharacter rest with
      | some (b, after) => .range a b :: setParts fuel after
      | none => [.char a, .char '-']
    | none, some (c, rest) => .char c :: setParts fuel rest

/-- The characters of a part; one that is repeated as often as needed fills a set up to a size. -/
def SetPart.characters (missing : Nat) : SetPart → List Char
  | .char c => [c]
  | .range a b => characterRange a b
  | .named name =>
    ((Regex.classes.lookup name).getD []).flatMap fun (a, b) => characterRange a b
  | .repeated c 0 => List.replicate missing c
  | .repeated c times => List.replicate times c

def characterSet (size : Nat) (parts : List SetPart) : List Char :=
  let known := (parts.flatMap (SetPart.characters 0)).length
  parts.flatMap (SetPart.characters (size - known))

def setFault? (parts : List SetPart) : Option String :=
  parts.findSome? fun
    | .range a b =>
      if b < a then
        some ("range-endpoints of '" ++ a.toString ++ "-" ++ b.toString ++
          "' are in reverse collating sequence order")
      else none
    | .named name =>
      if (Regex.classes.lookup name).isSome then none
      else some ("invalid character class '" ++ name ++ "'")
    | _ => none

/-- Drops a character that passes and is the same as the one before it. -/
def squeeze (p : Char → Bool) : List Char → List Char
  | a :: b :: rest =>
    if a = b && p a then squeeze p (b :: rest) else a :: squeeze p (b :: rest)
  | cs => cs

/-- Replaces a character of one set by that of another at the same place, whose last one stands for
all that are missing. -/
def substituted (source into : List Char) (c : Char) : Char :=
  match source.reverse.idxOf? c with
  | none => c
  | some n => (into[source.length - 1 - n]?).getD (into.getLastD c)

def tr : Utility :=
  (OptionTable.mk "cCdst" "" "" [("complement", 'c'), ("delete", 'd'), ("squeeze-repeats", 's'),
    ("truncate-set1", 't')] false).command "tr" 1 fun given => do
  let parts := given.operands.map fun set => setParts (set.length + 1) set.toList
  match parts.findSome? setFault?, parts, given.operands with
  | some fault, _, _ => failing 1 ("tr: " ++ fault)
  | none, first :: more, name :: _ =>
    let complemented := given.hasAny "cC"
    let source := characterSet 0 first
    let chosen (c : Char) : Bool := (c ∈ source) != complemented
    let second := more.head?.map (characterSet source.length)
    let text := (← readAll).toList
    let translating := !given.has 'd' && second.isSome
    if 2 < parts.length || (given.has 'd' && !given.has 's' && 1 < parts.length) then
      return ← misused "tr" 1 ("extra operand '" ++
        (given.operands[if given.has 'd' && !given.has 's' then 1 else 2]?).getD "" ++ "'")
    if second.isNone && !given.hasAny "ds" then
      return ← misused "tr" 1 ("missing operand after '" ++ name ++
        "'\nTwo strings must be given when translating.")
    if translating && second = some [] then
      return ← failing 1 "tr: when not truncating set1, string2 must be non-empty"
    let into := second.getD []
    let text :=
      if given.has 'd' then text.filter fun c => !chosen c
      else if !translating then text
      else if complemented then text.map fun c => if chosen c then into.getLastD c else c
      else
        let source := if given.has 't' then source.take into.length else source
        text.map (substituted source into)
    let isSqueezed : Char → Bool := match second with
      | some set => fun c => c ∈ set
      | none => chosen
    print (String.ofList (if given.has 's' then squeeze isSqueezed text else text))
    return 0
  | none, _, _ => misused "tr" 1 "missing operand"

/-! ## Counts -/

def isBlank (c : Char) : Bool := c = ' ' || c = '\t'

def isSpace (c : Char) : Bool := c = ' ' || ('\t' ≤ c && c ≤ '\r')

def wordCount (text : List Char) : Nat :=
  (text.foldl (fun (count, inside) c =>
    if isSpace c then (count, false) else (if inside then count else count + 1, true))
    ((0, false) : Nat × Bool)).1

/-- The counts that are asked for: of lines, words, characters or bytes, and the length of the
longest line. -/
def counts (letters : List Char) (text : String) : List Nat :=
  let all : List (Char × Nat) :=
    [('l', text.toList.count '\n'), ('w', wordCount text.toList), ('m', text.length),
     ('c', text.utf8ByteSize), ('L', ((linesOf text).map String.length).foldl max 0)]
  let chosen := if letters.isEmpty then ['l', 'w', 'c'] else letters
  all.filterMap fun count => if count.1 ∈ chosen then some count.2 else none

/-- The width of columns of counts: that of the size of everything, at least 7 if some of it is no
file. A count alone needs no column. -/
def countWidth (letters : List Char) (found : List (Except IoError String)) (onlyFiles : Bool) :
    Nat :=
  if (counts letters "").length = 1 && found.length ≤ 1 then 1
  else
    let size := found.foldl (fun size content =>
      size + ((content.toOption.map String.utf8ByteSize).getD 0)) 0
    max (if onlyFiles then 1 else 7) (toString size).length

def wc : Utility :=
  (OptionTable.mk "lwcmL" "" "" [("lines", 'l'), ("words", 'w'), ("bytes", 'c'), ("chars", 'm'),
    ("max-line-length", 'L')] true).command "wc" 1 fun given => do
  let letters := given.options.map Prod.fst
  let inputIsFile := (← get).channel 0 matches .text _ true
  let names := if given.operands.isEmpty then ["-"] else given.operands
  let found ← names.mapM readOperand
  let onlyFiles := (names.zip found).all fun (name, content) =>
    (name ≠ "-" || inputIsFile) && !(content matches .error .isADirectory)
  let width := countWidth letters found onlyFiles
  let row (numbers : List Nat) (name : String) : String :=
    " ".intercalate (numbers.map fun n => rightAligned width (toString n)) ++
      (if given.operands.isEmpty then "" else " " ++ name) ++ "\n"
  let status ← (names.zip found).foldlM (fun status (name, content) => do
    match content with
    | .ok text =>
      print (row (counts letters text) name)
      return status
    | .error e =>
      complain ("wc: " ++ name ++ ": " ++ reason e)
      if e = .isADirectory then print (row (counts letters "") name)
      return 1) 0
  if 1 < names.length then
    let rows := found.map fun content => counts letters (content.toOption.getD "")
    print (row (rows.foldl (List.zipWith (· + ·)) ((counts letters "").map fun _ => 0)) "total")
  return status

end StorageBroker.Shell
