import StorageBroker.Shell.Pattern
import StorageBroker.Shell.Utility.Launching

/-! # Finding files

The command that goes through directories and tests, shows and changes what it finds. -/

set_option autoImplicit false

namespace StorageBroker.Shell

open Act

/-! ## Expressions -/

/-- What is compared with a number: whether it is that number, less, or more. -/
structure Measure where
  order : Ordering
  number : Nat
  deriving DecidableEq, Repr

def Measure.holds (m : Measure) (n : Nat) : Bool := compare n m.number = m.order

/-- A test of what is found, or something that is done with it. -/
inductive FindStep
  | always (b : Bool)
  | name (foldCase : Bool) (items : List PatternItem)
  | path (foldCase : Bool) (items : List PatternItem)
  | regex (foldCase : Bool) (r : Regex)
  | kind (letters : List Char)
  | size (m : Measure) (unit : Nat)
  | links (m : Measure)
  | age (m : Measure)
  | empty
  | permissions (sign : Option Char) (mode : Nat)
  | executable
  | newer (than : String)
  | print
  | printZero
  | printf (format : List Char)
  | exec (words : List String) (inDirectory : Bool)
  | execMany (words : List String)
  | delete
  | prune
  | quit
  deriving Repr

/-- An expression: what is done for each file. -/
inductive FindExpr
  | step (s : FindStep)
  | negated (e : FindExpr)
  | both (a b : FindExpr)
  | either (a b : FindExpr)
  | listed (a b : FindExpr)
  deriving Repr

/-- Options that hold for the whole expression. -/
structure FindLimits where
  least : Nat
  most : Option Nat
  insideFirst : Bool
  deriving DecidableEq, Repr

def measure? (text : String) : Option Measure :=
  let order : Ordering := if text.startsWith "+" then .gt else if text.startsWith "-" then .lt else .eq
  let digits := if order = .eq then text else (text.drop 1).toString
  digits.toNat?.map fun n => ⟨order, n⟩

def sizeMeasure? (text : String) : Option (Measure × Nat) :=
  let units : List (Char × Nat) :=
    [('c', 1), ('w', 2), ('b', 512), ('k', 1024), ('M', 1048576), ('G', 1073741824)]
  match text.toList.getLast?.bind fun c => units.lookup c with
  | some unit => (measure? (text.dropEnd 1).toString).map fun m => (m, unit)
  | none => (measure? text).map fun m => (m, 512)

abbrev FindFault : Type := String

/-- The words of a command up to its end, whether it takes many files, and the words after it. -/
def execWords : List String → Option (List String × Bool × List String)
  | [] => none
  | ";" :: rest => some ([], false, rest)
  | "\x7b\x7d" :: "+" :: rest => some ([], true, rest)
  | word :: rest => (execWords rest).map fun (words, many, after) => (word :: words, many, after)

def valuedStep (option value : String) : Except FindFault (Option FindStep) :=
  let numbered (f : Measure → FindStep) : Except FindFault (Option FindStep) :=
    match measure? value with
    | some m => .ok (some (f m))
    | none => .error ("find: invalid argument `" ++ value ++ "' to `" ++ option ++ "'")
  match option with
  | "-name" => .ok (some (.name false (textPattern value)))
  | "-iname" => .ok (some (.name true (textPattern value)))
  | "-path" | "-wholename" => .ok (some (.path false (textPattern value)))
  | "-ipath" | "-iwholename" => .ok (some (.path true (textPattern value)))
  | "-regex" | "-iregex" =>
    match Regex.read .basic value.toList with
    | .ok r => .ok (some (.regex (option = "-iregex") r))
    | .error e => .error ("find: failed to compile regular expression '" ++ value ++ "': " ++ e.message)
  | "-type" | "-xtype" =>
    let letters := (value.splitOn ",").flatMap String.toList
    match letters.find? fun c => c ∉ "bcdpflsD".toList with
    | some c => .error ("find: Unknown argument to -type: " ++ c.toString)
    | none => .ok (some (.kind letters))
  | "-size" =>
    match sizeMeasure? value with
    | some (m, unit) => .ok (some (.size m unit))
    | none => .error ("find: Invalid argument `" ++ value ++ "' to -size")
  | "-links" => numbered .links
  | "-mtime" | "-mmin" | "-atime" | "-amin" | "-ctime" | "-cmin" => numbered .age
  | "-perm" =>
    let sign := value.toList.head?.filter fun c => c = '-' || c = '/'
    match newMode? false 0 (if sign.isSome then (value.drop 1).toString else value) with
    | some mode => .ok (some (.permissions sign mode))
    | none => .error ("find: invalid mode '" ++ value ++ "'")
  | "-newer" => .ok (some (.newer value))
  | "-printf" => .ok (some (.printf value.toList))
  | "-user" | "-group" | "-uid" | "-gid" =>
    .ok (some (.always (value = "root" || value = "0")))
  | _ => .ok none

def plainStep? : String → Option FindStep
  | "-true" => some (.always true)
  | "-false" | "-nouser" | "-nogroup" => some (.always false)
  | "-empty" => some .empty
  | "-readable" | "-writable" => some (.always true)
  | "-executable" => some .executable
  | "-print" => some .print
  | "-print0" => some .printZero
  | "-ls" => some .print
  | "-delete" => some .delete
  | "-prune" => some .prune
  | "-quit" => some .quit
  | _ => none

abbrev FindRead (α : Type) : Type := StateT (FindLimits × List String) (Except FindFault) α

/-- Reads an operand: a test, something to do, an expression in parentheses or one that is negated.
Limits of the whole expression hold always. -/
def findOperand (inner : FindRead FindExpr) : (fuel : Nat) → FindRead FindExpr
  | 0 => throw "find: too deep"
  | fuel + 1 => do
    let (limits, words) ← get
    match words with
    | [] => throw "find: expected an expression"
    | "(" :: rest =>
      set (limits, rest)
      let e ← inner
      match ← get with
      | (limits, ")" :: rest) =>
        set (limits, rest)
        return e
      | _ => throw "find: invalid expression; I was expecting to find a ')' somewhere but did not see one."
    | word :: rest =>
      if word = "!" || word = "-not" then
        set (limits, rest)
        return .negated (← findOperand inner fuel)
      if word = "-depth" || word = "-d" then
        set ({ limits with insideFirst := true }, rest)
        return .step (.always true)
      if word ∈ ["-mount", "-xdev", "-noleaf", "-follow", "-daystart", "-warn", "-nowarn"] then
        set (limits, rest)
        return .step (.always true)
      match plainStep? word with
      | some step =>
        let limits := if word = "-delete" then { limits with insideFirst := true } else limits
        set (limits, rest)
        return .step step
      | none =>
        if word ∈ ["-exec", "-execdir", "-ok"] then
          match execWords rest with
          | some (words, many, after) =>
            if words.isEmpty then throw ("find: missing argument to `" ++ word ++ "'")
            set (limits, after)
            return .step (if many then .execMany words else .exec words (word = "-execdir"))
          | none => throw ("find: missing argument to `" ++ word ++ "'")
        let values := ["-maxdepth", "-mindepth", "-regextype"]
        let unknown : FindFault := "find: unknown predicate `" ++ word ++ "'"
        match rest with
        | [] =>
          match valuedStep word "" with
          | .ok none => throw (if word ∈ values then "find: missing argument to `" ++ word ++ "'"
              else unknown)
          | _ => throw ("find: missing argument to `" ++ word ++ "'")
        | value :: after =>
          if word ∈ values then
            let limits := match word, value.toNat? with
              | "-maxdepth", some n => { limits with most := some n }
              | "-mindepth", some n => { limits with least := n }
              | _, _ => limits
            set (limits, after)
            return .step (.always true)
          match ← (valuedStep word value : Except FindFault (Option FindStep)) with
          | some step =>
            set (limits, after)
            return .step step
          | none =>
            throw (if word.startsWith "-" then unknown
              else "find: paths must precede expression: `" ++ word ++ "'")

/-- Reads operands with an operator between them, which may be left out between those that must
hold together. -/
def findJoined (operand : FindRead FindExpr) (signs : List String) (optional : Bool)
    (join : FindExpr → FindExpr → FindExpr) : (fuel : Nat) → FindRead FindExpr
  | 0 => throw "find: too deep"
  | fuel + 1 => do
    let first ← operand
    let (limits, words) ← get
    match words with
    | word :: rest =>
      if word ∈ signs then
        set (limits, rest)
        return join first (← findJoined operand signs optional join fuel)
      else if optional && word ∉ [")", "-o", "-or", ","] then
        return join first (← findJoined operand signs optional join fuel)
      else return first
    | [] => return first

def findExpression : (depth : Nat) → FindRead FindExpr
  | 0 => throw "find: too deep"
  | depth + 1 => do
    let fuel := (← get).2.length + 1
    let operand := findOperand (findExpression depth) fuel
    let all := findJoined operand ["-a", "-and"] true .both fuel
    let any := findJoined all ["-o", "-or"] false .either fuel
    findJoined any [","] false .listed fuel

/-- Whether an expression does something that replaces the writing of paths. -/
def FindExpr.acts : FindExpr → Bool
  | .step s =>
    match s with
    | .print | .printZero | .printf _ | .exec _ _ | .execMany _ | .delete => true
    | _ => false
  | .negated e => e.acts
  | .both a b | .either a b | .listed a b => a.acts || b.acts

/-! ## Files -/

/-- A file that is found: its path, the starting path, its location and what is there. -/
structure Found where
  path : String
  start : String
  depth : Nat
  place : Location
  entry : FileEntry

def kindLetter : FileEntry → Char
  | .directory => 'd'
  | .file _ => 'f'
  | .link _ => 'l'
  | .sink | .zeros => 'c'

/-- What has come up on the way: whether the search goes no deeper, or ends; the commands that wait
for more files; and whether something has failed. -/
structure FindProgress where
  pruned : Bool
  ended : Bool
  waiting : List (List String × List String)
  failed : Bool

def findText (files : FileTree) (f : Found) : List Char → String
  | '%' :: c :: rest =>
    let name := lastName f.path
    let made := match c with
      | 'p' => f.path
      | 'f' => name
      | 'h' =>
        let above := String.ofList (splitPath f.path).2
        if above.isEmpty then (if f.path.startsWith "/" then "" else ".") else above
      | 'P' => (f.path.drop (min f.path.length (f.start.length + if f.start.endsWith "/" then 0 else 1))).toString
      | 'H' => f.start
      | 's' => toString f.entry.size
      | 'd' => toString f.depth
      | 'y' => (kindLetter f.entry).toString
      | 'm' => String.ofList (Nat.toDigits 8 (files.mode f.place))
      | 'M' => modeText f.entry (files.mode f.place)
      | 'l' => match f.entry with
        | .link target => target
        | _ => ""
      | 'u' | 'g' => "root"
      | 'U' | 'G' => "0"
      | '%' => "%"
      | c => "%" ++ c.toString
    made ++ findText files f rest
  | '\\' :: '0' :: rest => "\x00" ++ findText files f rest
  | '\\' :: c :: rest =>
    (match escaped? c with
      | some e => e.toString
      | none => "\\" ++ c.toString) ++ findText files f rest
  | c :: rest => c.toString ++ findText files f rest
  | [] => ""

def findMatches (foldCase : Bool) (items : List PatternItem) (text : String) : Bool :=
  matchesText items text.toList ||
    (foldCase && (matchesText items (text.toList.map Char.toLower) ||
      matchesText items (text.toList.map Char.toUpper)))

/-- Says why a command cannot be run for what is found. -/
def findRefusal : Refusal := saying fun name why => "find: '" ++ name ++ "': " ++ why

def FindStep.run (run : Runner) (f : Found) (p : FindProgress) :
    FindStep → Act (Bool × FindProgress)
  | .always b => return (b, p)
  | .name foldCase items => return (findMatches foldCase items (lastName f.path), p)
  | .path foldCase items => return (findMatches foldCase items f.path, p)
  | .regex foldCase r =>
    return ((r.searchFrom ⟨foldCase, false⟩ toTheEnd none f.path.toList).any fun found =>
      found.skipped.isEmpty, p)
  | .kind letters => return (kindLetter f.entry ∈ letters, p)
  | .size m unit => return (m.holds ((f.entry.size + (unit - 1)) / unit), p)
  | .links m => return (m.holds (if f.entry = .directory then 2 else 1), p)
  | .age m => return (m.holds 0, p)
  | .empty => do
    let files := (← get).files
    return (match f.entry with
      | .file content => content.isEmpty
      | .directory => (files.children f.place).isEmpty
      | _ => false, p)
  | .permissions sign mode => do
    let own := (← get).files.mode f.place
    return (match sign with
      | some '-' => own &&& mode = mode
      | some _ => mode = 0 || own &&& mode ≠ 0
      | none => own = mode, p)
  | .executable => do return ((← get).files.isExecutable f.place, p)
  | .newer _ => return (false, p)
  | .print => do
    Act.print (f.path ++ "\n")
    return (true, p)
  | .printZero => do
    Act.print (f.path ++ "\x00")
    return (true, p)
  | .printf format => do
    Act.print (findText (← get).files f format)
    return (true, p)
  | .exec words inDirectory => do
    let name := if inDirectory then "./" ++ lastName f.path else f.path
    let filled := words.map fun word => word.replace "\x7b\x7d" name
    let status ← spawned (fun refusal words => do
      if inDirectory then modify fun s => { s with here := f.place.dropLast }
      run refusal words) findRefusal filled
    return (status = 0, p)
  | .execMany words =>
    let waiting := if p.waiting.any fun row => row.1 = words then
        p.waiting.map fun row => if row.1 = words then (row.1, row.2 ++ [f.path]) else row
      else p.waiting ++ [(words, [f.path])]
    return (true, { p with waiting })
  | .delete => do
    let s ← get
    if f.entry = .directory && !(s.files.children f.place).isEmpty then
      complain ("find: cannot delete '" ++ f.path ++ "': Directory not empty")
      return (false, { p with failed := true })
    if f.path = "." then return (true, p)
    set { s with files := s.files.drop f.place }
    return (true, p)
  | .prune => return (true, { p with pruned := true })
  | .quit => return (true, { p with ended := true })

/-- Carries an expression out for a file, and tells whether it holds. -/
def FindExpr.run (run : Runner) (f : Found) :
    FindExpr → FindProgress → Act (Bool × FindProgress)
  | .step s, p => s.run run f p
  | .negated e, p => do
    let (b, p) ← e.run run f p
    return (!b, p)
  | .both a b, p => do
    let (first, p) ← a.run run f p
    if !first || p.ended then return (first, p)
    b.run run f p
  | .either a b, p => do
    let (first, p) ← a.run run f p
    if first || p.ended then return (first, p)
    b.run run f p
  | .listed a b, p => do
    let (_, p) ← a.run run f p
    if p.ended then return (true, p)
    b.run run f p

/-- Carries an expression out for what is at a path and everything below. -/
def visit (run : Runner) (e : FindExpr) (limits : FindLimits) :
    (fuel : Nat) → Found → FindProgress → Act FindProgress
  | 0, _, p => return p
  | fuel + 1, f, p => do
    if p.ended then return p
    let own (p : FindProgress) : Act FindProgress := do
      if f.depth < limits.least then return { p with pruned := false }
      return (← e.run run f { p with pruned := false }).2
    let p ← if limits.insideFirst then pure { p with pruned := false } else own p
    let isClosed := p.pruned || p.ended || limits.most.any (· ≤ f.depth)
    let s ← get
    let names := if isClosed || f.entry ≠ .directory then [] else s.files.children f.place
    let p ← names.foldlM (fun p name => do
      let s ← get
      let place := f.place ++ [name]
      match s.files.entry? place with
      | none => return p
      | some entry =>
        visit run e limits fuel ⟨joinPath f.path name, f.start, f.depth + 1, place, entry⟩ p) p
    if limits.insideFirst && !p.ended then own p else return p

/-- Goes through directories and does what an expression says for each file. -/
def find : Launcher := fun run arguments => do
  let arguments := arguments.dropWhile fun a => a ∈ ["-H", "-L", "-P"]
  let isPath (a : String) : Bool := !(a.startsWith "-" && a ≠ "-") && a ∉ ["(", ")", "!", ","]
  let starts := arguments.takeWhile isPath
  let words := arguments.drop starts.length
  let starts := if starts.isEmpty then ["."] else starts
  let start : FindLimits × List String := (⟨0, none, false⟩, words)
  let read : Except FindFault (FindExpr × FindLimits × List String) :=
    if words.isEmpty then .ok (.step .print, start)
    else findExpression (words.length + 1) start
  match read with
  | .error message => failing 1 message
  | .ok (_, _, word :: _) =>
    failing 1 (if word = ")" then "find: invalid expression; you have too many ')'"
      else "find: paths must precede expression: `" ++ word ++ "'")
  | .ok (e, limits, []) =>
    let e := if e.acts then e else .both e (.step .print)
    let p ← starts.foldlM (fun p path => do
      let s ← get
      match s.files.lookupWith true s.here path with
      | .error error =>
        complain ("find: '" ++ path ++ "': " ++ reason error)
        return { p with failed := true }
      | .ok (place, entry) =>
        visit run e limits (s.files.entries.size + 2) ⟨path, path, 0, place, entry⟩ p)
      (⟨false, false, [], false⟩ : FindProgress)
    let failed ← p.waiting.foldlM (fun failed (words, paths) => do
      return (← spawned run findRefusal (words ++ paths)) ≠ 0 || failed) false
    return if failed || p.failed then 1 else 0

end StorageBroker.Shell
