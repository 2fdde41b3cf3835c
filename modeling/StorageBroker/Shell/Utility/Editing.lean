import StorageBroker.Edit.Reader
import StorageBroker.Shell.Utility.Launching

/-! # Editing files

The command that carries out a script for each line of its input. A line of the input that lacks its
end lacks it also where it is written, unless more is written after it. -/

set_option autoImplicit false

namespace StorageBroker.Shell

open Act Edit

/-- How files are edited: whether lines are written only if a script says so, whether each file is
one of its own, what ends a line, how wide lines are that are written plainly, and whether files get
the edited lines, with what is added to the names under which their old contents are kept. -/
structure EditStyle where
  quiet : Bool
  separate : Bool
  edge : Char
  width : Nat
  inPlace : Option String

/-- Something that is written when the next line is read, or at the end. -/
inductive Pending
  | text (text : String)
  | file (path : String)

/-- What an editor knows: how it works and with which steps; the files that are still to be read, the
one that is being read and what is left of it; the line with its number and the text that is kept
beside it, both with whether they have an end; how far the lines have come for which a step is done;
what was looked for last, and whether something was replaced in the line; what is still to be
written, and on which outputs a line lacks its end; what the file becomes that is edited in its
place; what is left of files that are read line by line; and the status. -/
structure Editor where
  style : EditStyle
  steps : List Step
  run : Runner
  names : List String
  name : String
  lines : List (List Char × Bool)
  fromInput : Bool
  text : List Char
  hasEnd : Bool
  kept : List Char
  keptHasEnd : Bool
  number : Nat
  progress : Table Nat Progress
  lastSought : Sought
  replaced : Bool
  pending : List Pending
  owing : List Output
  edited : Option String
  readers : Table String (List (List Char × Bool))
  status : Nat

abbrev Editing (α : Type) : Type := StateT Editor (ExceptT Nat Act) α

def cutLines (edge : Char) (text : String) : List (List Char × Bool) :=
  match (text.splitOn edge.toString).reverse with
  | [] => []
  | last :: before =>
    (before.reverse.map fun line => (line.toList, true)) ++
      if last.isEmpty then [] else [(last.toList, false)]

namespace Editing

def failWith {α : Type} (status : Nat) (text : String) : Editing α := do
  complain ("sed: " ++ text)
  throw status

/-! ## Writing -/

/-- Writes a text to an output, after the end that the line before it lacks. -/
def write (output : Output) (text : String) : Editing Unit := do
  let e ← get
  let text := if output ∈ e.owing then e.style.edge.toString ++ text else text
  set { e with owing := e.owing.filter (· ≠ output) }
  match output, e.edited with
  | .lines, some before => modify fun e => { e with edited := some (before ++ text) }
  | .lines, none => print text
  | .descriptor n, _ => emit n text
  | .file path, _ => discard (writePath path true text)

/-- Writes a text as a line that has an end if the line that is edited has one. -/
def writeLine (output : Output) (text : List Char) : Editing Unit := do
  let e ← get
  if e.hasEnd then write output (String.ofList text ++ e.style.edge.toString)
  else
    write output (String.ofList text)
    modify fun e => { e with owing := output :: e.owing }

def writePending : Editing Unit := do
  let e ← get
  set { e with pending := [] }
  for item in e.pending do
    match item with
    | .text text => write .lines text
    | .file path =>
      match ← (readPath path : Act _) with
      | .ok content => if !content.isEmpty then write .lines content
      | .error _ => pure ()

/-- Gives the file that is edited in its place its new content, which takes the place of a link. -/
def finishFile : Editing Unit := do
  let e ← get
  match e.edited, e.style.inPlace with
  | some text, some suffix =>
    set { e with edited := none, owing := e.owing.filter (· ≠ Output.lines) }
    let s ← (get : Act State)
    match s.files.lookupWith true s.here e.name, s.files.lookup s.here e.name with
    | .ok (place, _), .ok (target, old) =>
      let mode := s.files.mode target
      let copy := (place.getLast?.getD "")
      let kept := if suffix.contains '*' then suffix.replace "*" copy else copy ++ suffix
      let keptPath := if kept.contains '/' then kept
        else pathOf (place.dropLast ++ [kept])
      let files := match suffix, s.files.locate s.here keptPath with
        | "", _ | _, .error _ => s.files
        | _, .ok keptPlace => (s.files.put keptPlace old).setMode keptPlace mode
      (set { s with files := (files.put place (.file text)).setMode place mode } : Act Unit)
    | _, _ => pure ()
  | _, _ => pure ()

/-! ## Reading -/

def openFrom : List String → Editing Bool
  | [] => do
    modify fun e => { e with names := [] }
    return false
  | name :: rest => do
    finishFile
    let fromInput := name = "-" && (← get).style.inPlace.isNone
    match ← (if fromInput then readOperand name else readPath name : Act _) with
    | .error .isADirectory =>
      if (← get).style.inPlace.isSome then
        failWith 4 ("couldn't edit " ++ name ++ ": not a regular file")
      else failWith 4 ("read error on " ++ name ++ ": Is a directory")
    | .error e =>
      complain ("sed: can't read " ++ name ++ ": " ++ reason e)
      modify fun e => { e with status := 2 }
      openFrom rest
    | .ok content =>
      modify fun e =>
        { e with
          names := rest, name, fromInput
          lines := cutLines e.style.edge content
          edited := if e.style.inPlace.isSome then some "" else none }
      if (← get).style.separate then
        modify fun e =>
          { e with number := 0, kept := [], progress := .empty, readers := .empty }
      if (← get).lines.isEmpty then openFrom rest else return true

def isLast : Editing Bool := do
  let e ← get
  if !e.lines.isEmpty then return false
  if e.style.separate then return true
  return !(← openFrom e.names)

def takeLine? : Editing (Option (List Char)) := do
  writePending
  let e ← get
  let found ← if e.lines.isEmpty then openFrom e.names else pure true
  if !found then return none
  let e ← get
  match e.lines with
  | [] => return none
  | (text, hasEnd) :: rest =>
    set { e with lines := rest, hasEnd, number := e.number + 1 }
    return some text

def takeFrom? (path : String) : Editing (Option (List Char × Bool)) := do
  let e ← get
  let lines ← match e.readers.get? path with
    | some lines => pure lines
    | none =>
      match ← (readPath path : Act _) with
      | .ok content => pure (cutLines e.style.edge content)
      | .error _ => pure []
  modify fun e => { e with readers := e.readers.insert path (lines.drop 1) }
  return lines.head?

/-! ## Choosing lines -/

/-- What is looked for, which is what was looked for last if nothing else is said. -/
def resolve (what : Sought) : Editing (Regex × Matching) := do
  match what, (← get).lastSought with
  | some found, _ | none, some found =>
    modify fun e => { e with lastSought := some found }
    return found
  | none, none => failWith 1 "-e expression #1, char 0: no previous regular expression"

def isAt : Address → Editing Bool
  | .line n => do return (← get).number = n
  | .last => isLast
  | .every first distance => do
    let n := (← get).number
    return first ≤ n && (n - first) % distance = 0
  | .finding what => do
    let (r, m) ← resolve what
    return r.occursIn m (← get).text

def note (step : Step) (progress : Progress) : Editing Unit :=
  modify fun e => { e with progress := e.progress.insert step.number progress }

/-- Whether the line is one of those that started before; they may end with it. -/
def goesOn (step : Step) (ending : Ending) (last : Option Nat) : Editing Bool := do
  let n := (← get).number
  match ending, last with
  | .address (.line k), _ =>
    if k ≤ n then note step .over
    return n ≤ k
  | .address a, _ =>
    if ← isAt a then note step .over
    return true
  | _, some k =>
    if k ≤ n then note step .over
    return true
  | _, none => return true

/-- Whether lines start with this one; they may also end with it. -/
def starts (step : Step) (first : Address) (ending : Ending) : Editing Bool := do
  let n := (← get).number
  let isStart ← match first with
    | .line k => pure (decide (k ≤ n))
    | _ => isAt first
  if !isStart then return false
  match ending with
  | .address (.line k) =>
    note step (if k ≤ n then .over else .started none)
    return n ≤ k || (match first with | .line k => n = k | _ => true)
  | .address (.every first distance) =>
    note step (if ← isAt (.every first distance) then .over else .started none)
  | .address _ => note step (.started none)
  | .further k => note step (if k = 0 then .over else .started (some (n + k)))
  | .multiple k => note step (if k = 0 then .over else .started (some ((n / k + 1) * k)))
  return true

def isChosen (step : Step) : Editing Bool := do
  let inside ← match step.selection.first, step.selection.ending with
    | none, _ => pure true
    | some a, none => isAt a
    | some first, some ending => do
      let before := (← get).progress.get? step.number
      match first, before with
      | .line 0, none => goesOn step ending none
      | _, some (.started last) => goesOn step ending last
      | .line _, some .over => pure false
      | _, _ => starts step first ending
  return inside != step.selection.negated

/-! ## Steps -/

/-- What follows a step: the next one, those after a label, the next line, which may follow the
writing of this one, or the same line once more. -/
inductive Next
  | onward
  | to (label : String)
  | line (shown : Bool)
  | again

/-- Ends the editing with a status. What is left of an input that is a file can still be read. -/
def finish {α : Type} (status : Nat) : Editing α := do
  writePending
  finishFile
  let e ← get
  let s ← (get : Act State)
  if e.fromInput && s.channel 0 matches .text _ true then
    let edge := e.style.edge.toString
    let left := e.lines.map fun (line, hasEnd) =>
      String.ofList line ++ if hasEnd then edge else ""
    (set (s.withInputLeft (String.join left)) : Act Unit)
  throw status

def outputOf (command : String) : Editing String := do
  let run := (← get).run
  (capturing do discard (spawned run (fun _ status => return status) ["sh", "-c", command]) : Act _)

def setText (text : List Char) : Editing Unit := modify fun e => { e with text }

def showLine : Editing Unit := do
  let e ← get
  if !e.style.quiet then writeLine .lines e.text

def substitute (s : Substitution) : Editing Unit := do
  let (r, m) ← resolve s.what
  match s.replace? r m (← get).text with
  | none => return ()
  | some made =>
    modify fun e => { e with text := made, replaced := true }
    if s.run then
      let written ← outputOf (String.ofList made)
      setText (if written.endsWith "\n" then written.toList.dropLast else written.toList)
    let text := (← get).text
    if s.shown then writeLine .lines text
    match s.copied with
    | none => return ()
    | some output => writeLine output text

def perform (step : Step) : Editing Next := do
  let e ← get
  let edge := e.style.edge
  match step.action with
  | .openBlock | .closeBlock | .label _ => return .onward
  | .jump name => return .to name
  | .jumpIfReplaced name =>
    if !e.replaced then return .onward
    set { e with replaced := false }
    return .to name
  | .jumpUnlessReplaced name =>
    if !e.replaced then return .to name
    set { e with replaced := false }
    return .onward
  | .substitute s =>
    substitute s
    return .onward
  | .exchange these those =>
    setText (exchanged these those e.text)
    return .onward
  | .append text =>
    set { e with pending := e.pending ++ [Pending.text text] }
    return .onward
  | .insert text =>
    write .lines text
    return .onward
  | .change text =>
    if !(e.progress.get? step.number matches some (.started _)) then write .lines text
    return .line false
  | .delete => return .line false
  | .deleteFirst =>
    if edge ∉ e.text then return .line false
    setText (e.text.drop ((firstLine edge e.text).length + 1))
    return .again
  | .clear =>
    setText []
    return .onward
  | .print =>
    writeLine .lines e.text
    return .onward
  | .printFirst =>
    write .lines (String.ofList (firstLine edge e.text) ++ edge.toString)
    return .onward
  | .printPlainly width =>
    write .lines (String.ofList (inWidth (width.getD e.style.width) 0 (e.text.map Edit.plainly)) ++ "\n")
    return .onward
  | .printNumber =>
    write .lines (toString e.number ++ "\n")
    return .onward
  | .printName =>
    write .lines (e.name ++ "\n")
    return .onward
  | .next =>
    if ← isLast then return .line true
    showLine
    match ← takeLine? with
    | none => return .line false
    | some text =>
      setText text
      return .onward
  | .nextAppended =>
    if ← isLast then return .line true
    match ← takeLine? with
    | none => return .line true
    | some text =>
      setText (e.text ++ edge :: text)
      return .onward
  | .keep =>
    set { e with kept := e.text, keptHasEnd := e.hasEnd }
    return .onward
  | .keepAppended =>
    set { e with kept := e.kept ++ edge :: e.text, keptHasEnd := e.hasEnd }
    return .onward
  | .recall =>
    set { e with text := e.kept, hasEnd := e.keptHasEnd }
    return .onward
  | .recallAppended =>
    set { e with text := e.text ++ edge :: e.kept, hasEnd := e.keptHasEnd }
    return .onward
  | .swap =>
    set { e with
      text := e.kept, hasEnd := e.keptHasEnd, kept := e.text, keptHasEnd := e.hasEnd }
    return .onward
  | .quit status =>
    showLine
    finish status
  | .stop status =>
    set { e with pending := [] }
    finish status
  | .readFile path =>
    set { e with pending := e.pending ++ [Pending.file path] }
    return .onward
  | .readLine path =>
    match ← takeFrom? path with
    | none => return .onward
    | some (line, hasEnd) =>
      let text := String.ofList line ++ if hasEnd then edge.toString else ""
      modify fun e => { e with pending := e.pending ++ [Pending.text text] }
      return .onward
  | .write output =>
    writeLine output e.text
    return .onward
  | .writeFirst output =>
    write output (String.ofList (firstLine edge e.text) ++ edge.toString)
    return .onward
  | .run command =>
    if command.isEmpty then
      let written ← outputOf (String.ofList e.text)
      setText (if written.endsWith "\n" then written.toList.dropLast else written.toList)
    else write .lines (← outputOf command)
    return .onward

def nextLine : Editing Bool := do
  match ← takeLine? with
  | none => return false
  | some text =>
    modify fun e => { e with text, replaced := false }
    return true

def carryOut : (fuel : Nat) → List Step → Editing Unit
  | 0, _ => return ()
  | fuel + 1, [] => do
    showLine
    if ← nextLine then carryOut fuel (← get).steps
  | fuel + 1, step :: rest => do
    if !(← isChosen step) then
      carryOut fuel (if step.action matches .openBlock then afterBlock 0 rest else rest)
    else
      match ← perform step with
      | .onward => carryOut fuel rest
      | .to label => carryOut fuel (afterLabel label (← get).steps)
      | .again => carryOut fuel (← get).steps
      | .line shown => do
        if shown then showLine
        if ← nextLine then carryOut fuel (← get).steps

def editAll : Editing Unit := do
  for step in (← get).steps do
    match step.action.output? with
    | some (.file path) =>
      match ← (writePath path false "" : Act _) with
      | none => pure ()
      | some e => failWith 4 ("couldn't open file " ++ path ++ ": " ++ reason e)
    | _ => pure ()
  if ← nextLine then carryOut 50000000 (← get).steps
  finish (← get).status

end Editing

/-! ## Scripts -/

/-- A part of a script: where it comes from if that is a file, and its text. -/
structure ScriptPart where
  file : Option String
  text : List Char

/-- Where a problem is: after so many characters of the script. -/
def problemPlace (parts : List ScriptPart) : (expression read : Nat) → String
  | expression, read =>
    match parts with
    | [] => "-e expression #" ++ toString expression ++ ", char " ++ toString read
    | part :: rest =>
      let here := read ≤ part.text.length || rest.isEmpty
      match part.file with
      | some file =>
        if here then
          let line := (part.text.take (read - 1)).count '\n' + 1
          "file " ++ file ++ " line " ++ toString line
        else problemPlace rest expression (read - part.text.length - 1)
      | none =>
        if here then "-e expression #" ++ toString expression ++ ", char " ++ toString read
        else problemPlace rest (expression + 1) (read - part.text.length - 1)

def scriptParts : List (Char × String) → Act (Except String (List ScriptPart))
  | [] => return .ok []
  | (letter, value) :: rest => do
    let part : Except String ScriptPart ← match letter with
      | 'f' => do
        match ← readOperand value with
        | .error e => pure (.error ("couldn't open file " ++ value ++ ": " ++ reason e))
        | .ok content =>
          let text := if content.endsWith "\n" then content.toList.dropLast else content.toList
          pure (.ok ⟨some value, text⟩)
      | _ => pure (.ok ⟨none, value.toList⟩)
    match part, ← scriptParts rest with
    | .error e, _ | _, .error e => return .error e
    | .ok part, .ok more => return .ok (part :: more)

/-- The options of `sed`. -/
def editOptions : OptionTable :=
  { plain := "nrEsuzbDPSL"
    valued := "efl"
    optional := "i"
    names := [("quiet", 'n'), ("silent", 'n'), ("expression", 'e'), ("file", 'f'),
      ("regexp-extended", 'E'), ("in-place", 'i'), ("line-length", 'l'), ("separate", 's'),
      ("unbuffered", 'u'), ("null-data", 'z'), ("zero-terminated", 'z'), ("binary", 'b'),
      ("debug", 'D'), ("posix", 'P'), ("sandbox", 'S'), ("follow-symlinks", 'L')]
    anywhere := true }

def editUsage : String := "Usage: sed [OPTION]... \x7bscript-only-if-no-other-script\x7d [input-file]..."

def sed : Launcher := fun run => editOptions.command "sed" 1 fun given => do
  let sources := given.options.filter fun (letter, _) => letter = 'e' || letter = 'f'
  let (sources, names) := match sources, given.operands with
    | [], script :: names => ([('e', script)], names)
    | _, names => (sources, names)
  if sources.isEmpty then return ← failing 1 editUsage
  match ← scriptParts sources with
  | .error e => failing 4 ("sed: " ++ e)
  | .ok parts =>
    let text := ['\n'].intercalate (parts.map ScriptPart.text)
    let extended := given.hasAny "rE"
    match readScript extended text with
    | .error (problem, left) =>
      let read := if problem = .openBlock then 0 else text.length - left
      failing 1 ("sed: " ++ problemPlace parts 1 read ++ ": " ++ problem.message)
    | .ok steps =>
      match missingLabel? steps with
      | some name => failing 1 ("sed: can't find label for jump to `" ++ name ++ "'")
      | none =>
        let silent := match text with
          | ['#', 'n'] | '#' :: 'n' :: '\n' :: _ => true
          | _ => false
        let inPlace := given.value? 'i'
        if inPlace.isSome && names.isEmpty then return ← failing 4 "sed: no input files"
        let style : EditStyle :=
          { quiet := silent || given.has 'n'
            separate := given.has 's' || inPlace.isSome
            edge := if given.has 'z' then '\x00' else '\n'
            width := ((given.value? 'l').bind String.toNat?).getD 70
            inPlace }
        let editor : Editor :=
          { style, steps, run, names := if names.isEmpty then ["-"] else names
            name := "-", lines := [], fromInput := false, text := [], hasEnd := true, kept := []
            keptHasEnd := true, number := 0, progress := .empty, lastSought := none, replaced := false
            pending := [], owing := [], edited := none, readers := .empty, status := 0 }
        match ← (Editing.editAll.run editor).run with
        | .error status => return status
        | .ok (_, editor) => return editor.status

end StorageBroker.Shell
