import StorageBroker.Shell.Pattern
import StorageBroker.Shell.Utility.Lines

/-! # Searching files

The command that writes the lines in which an expression matches. -/

set_option autoImplicit false

namespace StorageBroker.Shell

open Act

structure Search where
  regex : Option Regex
  matching : Matching
  choice : Choice
  given : Given
  before : Nat
  after : Nat
  most : Option Nat
  withNames : Bool

namespace Search

def selects (q : Search) (line : String) : Bool :=
  let found := q.regex.any fun r =>
    (r.searchFrom q.matching q.choice none line.toList).isSome
  found != q.given.has 'v'

def matchesIn (q : Search) (line : String) : List (Nat × String) :=
  match q.regex with
  | none => []
  | some r =>
    let found := (r.allMatches q.matching q.choice line.toList).1.map fun found =>
      (line.length - found.start.left, String.ofList found.text)
    found.filter fun (_, text) => !text.isEmpty

/-- The lines up to the last one that is looked for, if there can be too many, and how many follow
it. -/
def limited (q : Search) (lines : List (Nat × String × Bool)) : List (Nat × String × Bool) :=
  match q.most with
  | none => lines
  | some n => upTo n lines
where
  /-- Lines with at most so many that are looked for, and those after the last of them. -/
  upTo : Nat → List (Nat × String × Bool) → List (Nat × String × Bool)
    | 0, lines => lines.takeWhile fun (_, _, selected) => !selected
    | _, [] => []
    | n + 1, (k, line, selected) :: rest =>
      (k, line, selected) :: upTo (if selected then n else n + 1) rest

/-- Whether a line is near one that is looked for: so many before or after it. -/
def isNear (q : Search) (selected : List Nat) (n : Nat) : Bool :=
  selected.any fun k => (k ≤ n && n ≤ k + q.after) || (n < k && k ≤ n + q.before)

/-- What is in front of a line: the name of its file, its number and its place. -/
def label (q : Search) (name : String) (number place : Nat) (sign : String) : String :=
  (if q.withNames then name ++ sign else "") ++
    (if q.given.has 'n' then toString number ++ sign else "") ++
    (if q.given.has 'b' then toString place ++ sign else "")

/-- What is written of the lines of a file; where lines are left out between others, a mark tells
so. -/
def shown (q : Search) (name : String) (places : List Nat) (selected : List Nat) :
    (last : Option Nat) → List (Nat × String × Bool) → List String
  | _, [] => []
  | last, (n, line, isSelected) :: rest =>
    if !q.isNear selected n then q.shown name places selected last rest
    else
      let gap := 0 < q.before + q.after && last.any fun k => k + 1 < n
      let mark := if gap then ["--"] else []
      let place := (places[n - 1]?).getD 0
      let own :=
        if !q.given.has 'o' then
          [q.label name n place (if isSelected then ":" else "-") ++ line]
        else if isSelected && !q.given.has 'v' then
          (q.matchesIn line).map fun (offset, text) =>
            q.label name n (place + offset) ":" ++ text
        else []
      mark ++ own ++ q.shown name places selected (some n) rest

def run (q : Search) (name content : String) : Act Bool := do
  let lines := linesOf content
  let rows := lines.zipIdx.map fun (line, n) => (n + 1, line, q.selects line)
  let rows := if q.most = some 0 then [] else q.limited rows
  let selected := (rows.filter fun (_, _, isSelected) => isSelected).map Prod.fst
  let found := !selected.isEmpty
  if q.given.has 'q' then return found
  if q.given.has 'l' then
    if found then print (name ++ "\n")
  else if q.given.has 'L' then
    if !found then print (name ++ "\n")
  else if q.given.has 'c' then
    print ((if q.withNames then name ++ ":" else "") ++ toString selected.length ++ "\n")
  else if content.contains '\x00' && !q.given.hasAny "az" then
    if found then print ("grep: " ++ name ++ ": binary file matches\n")
  else
    let places := lines.foldl (fun (places, at_) line =>
      (places ++ [at_], at_ + line.utf8ByteSize + 1)) (([], 0) : List Nat × Nat)
    let needed := if q.given.has 'b' then places.1 else []
    print (ofLines (q.shown name needed selected none rows))
  return found

end Search

def namedLike (patterns : List String) (name : String) : Bool :=
  patterns.any fun pattern =>
    matchesText (textPattern pattern) name.toList

/-- The files below a path, by their paths from there, as far as their names and those of
directories are asked for. -/
def filesBelow (given : Given) (files : FileTree) : (depth : Nat) → String → Location → List String
  | 0, _, _ => []
  | depth + 1, path, place =>
    (files.children place).flatMap fun name =>
      let inner := if path.isEmpty then name else joinPath path name
      match files.entry? (place ++ [name]) with
      | some .directory =>
        if namedLike (given.values '#') name then []
        else filesBelow given files depth inner (place ++ [name])
      | some (.file _) =>
        let asked := given.values '@'
        if (asked.isEmpty || namedLike asked name) && !namedLike (given.values '!') name then
          [inner]
        else []
      | _ => []

def oneOf : List Regex → Option Regex
  | [] => none
  | first :: rest => some (rest.foldl .either first)

/-- The form that expressions are written in, if they are none that stand for themselves. -/
def searchForm (given : Given) : Option RegexForm :=
  match given.lastOf "EFGP" with
  | some 'E' => some .extendedForm
  | some 'F' => none
  | some 'P' => some { RegexForm.extendedForm with letters := true, digits := true,
                                                     hidesInBrackets := true }
  | _ => some .basic

/-- The options of `grep`. -/
def searchOptions : OptionTable :=
  ⟨"EFGPivywxclLnhHoqsrRabUzT", "efmABC@!#", "K",
   [("extended-regexp", 'E'), ("fixed-strings", 'F'), ("basic-regexp", 'G'), ("perl-regexp", 'P'),
    ("ignore-case", 'i'), ("invert-match", 'v'), ("word-regexp", 'w'), ("line-regexp", 'x'),
    ("count", 'c'), ("files-with-matches", 'l'), ("files-without-match", 'L'),
    ("line-number", 'n'), ("no-filename", 'h'), ("with-filename", 'H'), ("only-matching", 'o'),
    ("quiet", 'q'), ("silent", 'q'), ("no-messages", 's'), ("recursive", 'r'), ("regexp", 'e'),
    ("file", 'f'), ("max-count", 'm'), ("after-context", 'A'), ("before-context", 'B'),
    ("context", 'C'), ("color", 'K'), ("colour", 'K'), ("text", 'a'), ("byte-offset", 'b'),
    ("include", '@'), ("exclude", '!'), ("exclude-dir", '#')], true⟩

/-- The options of `grep` with a lone number as the size of what is shown around a line. -/
def withContext (arguments : List String) : List String :=
  arguments.map fun a =>
    let digits := a.toList.drop 1
    if a.startsWith "-" && !digits.isEmpty && digits.all Char.isDigit then
      "-C" ++ String.ofList digits else a

def grep : Utility := fun arguments =>
  match searchOptions.read (withContext arguments) with
  | .error fault => do
    complain ("grep: " ++ fault.message)
    complain "Usage: grep [OPTION]... PATTERNS [FILE]..."
    failing 2 "Try 'grep --help' for more information."
  | .ok given => do
    let s ← get
    let fromFiles := (given.values 'f').map fun path => (path, s.files.read s.here path)
    match fromFiles.find? fun (_, content) => !content.isOk with
    | some (path, .error e) => failing 2 ("grep: " ++ path ++ ": " ++ reason e)
    | _ =>
      let listed := (given.values 'e').flatMap fun text => text.splitOn "\n"
      let fileLines := fromFiles.flatMap fun (_, content) =>
        linesOf (content.toOption.getD "")
      let needsOperand := !given.hasAny "ef"
      if needsOperand && given.operands.isEmpty then
        complain "Usage: grep [OPTION]... PATTERNS [FILE]..."
        return ← failing 2 "Try 'grep --help' for more information."
      let texts := if needsOperand then (given.operands.headD "").splitOn "\n"
        else listed ++ fileLines
      let names := if needsOperand then given.operands.drop 1 else given.operands
      let deep := given.hasAny "rR"
      let read (text : String) : Except RegexError Regex :=
        match searchForm given with
        | none => .ok (Regex.ofText text.toList)
        | some form => Regex.read form text.toList
      match texts.mapM read with
      | .error e => failing 2 ("grep: " ++ e.message)
      | .ok regexes =>
        let number (letter : Char) : Option Nat := (given.value? letter).bind String.toNat?
        let around := (number 'C').getD 0
        let most := number 'm'
        let withNames := !given.has 'h' && (given.has 'H' || deep || 1 < names.length)
        let q : Search :=
          { regex := oneOf regexes
            matching := ⟨given.hasAny "iy", false⟩
            choice := if given.has 'x' then toTheEnd else if given.has 'w' then wholeWords
              else anyMatch
            given
            before := (number 'B').getD around
            after := (number 'A').getD around
            most
            withNames }
        let names := if !names.isEmpty then names else if deep then [""] else ["-"]
        let targets := names.flatMap fun name =>
          match deep, s.files.lookup s.here (if name.isEmpty then "." else name) with
          | true, .ok (place, .directory) =>
            filesBelow given s.files (s.files.entries.size + 1) name place
          | _, _ => [name]
        let (found, failed) ← targets.foldlM (fun (found, failed) name => do
          if found && given.has 'q' then return (found, failed)
          match ← readOperand name with
          | .ok content =>
            if !given.hasAny "qlLc" && most ≠ some 1 && (← writesTo name) then
              complain ("grep: " ++ name ++ ": input file is also the output")
              return (found, true)
            let shownName := if name = "-" then "(standard input)" else name
            let own ← q.run shownName content
            return (found || own, failed)
          | .error e =>
            if !given.has 's' then complain ("grep: " ++ name ++ ": " ++ reason e)
            return (found, true)) ((false, false) : Bool × Bool)
        return if failed && !(found && given.has 'q') then 2 else if found then 0 else 1

end StorageBroker.Shell
