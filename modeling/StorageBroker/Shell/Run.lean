import StorageBroker.Shell.Arithmetic
import StorageBroker.Shell.Flow
import StorageBroker.Shell.Reader
import StorageBroker.Shell.Redirect
import StorageBroker.Shell.Utility

/-! # Running scripts

How commands are carried out. The number that runs along bounds how deep commands and the scripts
within their words are nested. -/

set_option autoImplicit false

namespace StorageBroker.Shell

open Act

/-! ## Parameters -/

def parameter? (s : State) (name : String) : Option String :=
  match name with
  | "?" => some (toString s.status)
  | "$" => some shellId
  | "#" => some (toString s.arguments.length)
  | "!" => s.backgroundStatus.map fun _ => backgroundId
  | "-" => some (String.ofList s.options)
  | "0" => some s.name
  | "@" | "*" => some ((String.ofList (s.separators.take 1)).intercalate s.arguments)
  | _ =>
    match name.toNat? with
    | some n => s.arguments[n - 1]?
    | none => s.bindings.get? name

/-- What the value of a parameter puts into a word. Arguments stay fields of their own. -/
def atomsOf (separators : List Char) (name : String) (quoted : Bool) : Act (List Atom) := do
  let s ← get
  if quoted && name = "@" then return Atom.ofArguments s.arguments
  if !quoted && (name = "@" || name = "*") then
    let each := s.arguments.map fun a => Atom.ofValue separators a false
    return (each.intersperse [.split]).flatten
  match parameter? s name with
  | some value => return Atom.ofValue separators value quoted
  | none =>
    if s.hasOption 'u' then abort (name ++ ": parameter not set")
    return Atom.ofValue separators "" quoted

/-! ## Programs -/

/-- The commands of the shell that run others, or tell what names stand for. -/
def runningBuiltins : List String := [".", "command", "eval", "exec", "type"]

def isBuiltin (name : String) : Bool :=
  name ∈ runningBuiltins || (builtins.lookup name).isSome

def notRun : Refusal := fun name status => do
  warn (name ++ if status = 126 then ": Permission denied" else ": not found")
  return status

/-- Tells what the names of commands stand for; `brief` leaves out what is not there. -/
def describe (brief : Bool) (names : List String) : Act Nat := do
  let s ← get
  names.foldlM (fun status name => do
    let say (kind : String) : Act Nat := do
      print ((if brief then name else name ++ " is " ++ kind) ++ "\n")
      return status
    if name ∈ reserved then say "a shell keyword"
    else if s.commands.contains name then say "a shell function"
    else if name ∈ specialBuiltins then say "a special shell builtin"
    else if isBuiltin name then say "a shell builtin"
    else
      match findProgram s name with
      | .ok (path, _) =>
        print ((if brief then path else name ++ " is " ++ path) ++ "\n")
        return status
      | .error _ =>
        if !brief then print (name ++ ": not found\n")
        return 127) 0

/-- Variables with those that every shell has: it sets some itself, and others that are not set. -/
def withOwnVariables (bindings : Table String String) : Table String String :=
  let kept := [("PS1", "# "), ("PS2", "> "), ("PS4", "+ ")].foldl (fun table (name, value) =>
    if table.contains name then table else table.insert name value) bindings
  [("IFS", String.ofList standardSeparators), ("OPTIND", "1"), ("PPID", parentId)].foldl
    (fun table (name, value) => table.insert name value) kept

/-- Starts another shell: it knows the variables that are exported, and has arguments and options of
its own. -/
def startChild (letters : List Char) (name : String) (arguments : List String) : Act Unit :=
    modify fun s =>
  { s with
    name
    line := 1
    bindings := withOwnVariables (s.bindings.filter fun name _ => name ∈ s.exported)
    fixed := []
    shadowed := none
    arguments
    commands := .empty
    traps := .empty
    arrived := []
    status := 0
    outputStatus := 0
    calls := 0
    backgroundStatus := none
    killer := none
    loops := 0
    options := letters
    optionIndex := 1
    optionOffset := none }

inductive ShellTask
  | text (text name : String) (arguments : List String)
  | file (path : String) (arguments : List String)
  | input (arguments : List String)
  | misused (message : String)

def shellTask : (letters : List Char) → List String → List Char × ShellTask
  | letters, "-o" :: name :: rest =>
    let own := (shellOptions.find? fun row => row.2 = name).map Prod.fst
    shellTask (letters ++ own.toList) rest
  | letters, a :: rest =>
    if a.startsWith "-" && 1 < a.length && a ≠ "--" then
      shellTask (letters ++ a.toList.drop 1) rest
    else
      let operands := if a = "--" || a = "-" then rest else a :: rest
      (letters, chosen letters operands)
  | letters, [] => (letters, chosen letters [])
where
  /-- What a shell with some options is asked to run by its operands. -/
  chosen (letters : List Char) (operands : List String) : ShellTask :=
    if 'c' ∈ letters then
      match operands with
      | text :: more => .text text (more.headD "sh") (more.drop 1)
      | [] => .misused "-c requires an argument"
    else if 's' ∈ letters then .input operands
    else
      match operands with
      | path :: more => .file path more
      | [] => .input []

/-- What runs a script: the words after the mark on its first line, or a shell. -/
def interpreter (content : String) : List String :=
  let line := content.toList.takeWhile (· ≠ '\n')
  match line with
  | '#' :: '!' :: rest =>
    let rest := rest.dropWhile isBlank
    let path := rest.takeWhile fun c => !isBlank c
    let argument := ((rest.drop path.length).dropWhile isBlank).reverse.dropWhile isBlank
    String.ofList path :: if argument.isEmpty then [] else [String.ofList argument.reverse]
  | _ => ["/bin/sh"]

/-! ## Commands -/

/-- Commands that set variables by what looks like assignments. -/
def settingBuiltins : List String := ["export", "readonly", "local"]

def assignmentLike? (word : Word) : Option Word :=
  match word with
  | .text text false :: rest =>
    let name := text.takeWhile (· ≠ '=')
    if text.contains '=' && isName (String.ofList name) then
      some (.text (name ++ ['=']) false :: withHomes (.text (text.drop (name.length + 1)) false :: rest))
    else none
  | _ => none

mutual

/-- Carries a command out; a failure that is tested never ends the shell. -/
def run : Nat → Bool → Command → Act Unit
  | 0, _, _ => throw (.exit 2)
  | depth + 1, tested, c => do
    if (← get).hasOption 'n' then return
    match c with
    | .simple assignments words redirections => do
      let before ← get
      modify fun s => { s with outputStatus := 0 }
      let arguments ← argumentsOf depth words
      let special := specialBuiltins.contains (arguments.headD "")
      let refused (message : String) : Act Nat := do
        complain message
        if special then throw (.exit 2)
        return 2
      let act : Act Nat := do
        let old ← get
        let values ← assignments.mapM fun (name, word) => do
          let value ← asText (← expand depth [] word)
          assign name value
          return name ++ "=" ++ value
        if old.hasOption 'x' then
          send (before.channel 2) ("+ " ++ " ".intercalate (values ++ arguments) ++ "\n")
        if arguments.isEmpty then return (← get).outputStatus
        if assignments.isEmpty || special then return ← runWords depth tested arguments
        modify fun s => { s with exported := s.exported ++ assignments.map Prod.fst }
        let result ← attempt (runWords depth tested arguments)
        restore (assignments.map fun (name, _) => (name, old.bindings.get? name))
        modify fun s => { s with exported := old.exported }
        resume result
      let status ←
        if arguments = ["exec"] then
          match ← turn depth redirections with
          | some message => refused message
          | none => act
        else redirected redirections (turn depth redirections) refused act
      modify fun s => { s with status }
      heed (runText depth true)
      conclude tested status
    | .pipeline stages => do
      runStages (fun stage => inSubshell (runText depth true) (run depth tested stage))
        (← get).status stages
      conclude tested (← get).status
    | .negated c => do
      run depth true c
      modify fun s => { s with status := if s.status = 0 then 1 else 0 }
    | .both first second => do
      run depth true first
      if (← get).status = 0 then run depth tested second
    | .either first second => do
      run depth true first
      if (← get).status ≠ 0 then run depth tested second
    | .background c => do
      withInput "" (inSubshell (runText depth true) (run depth false c))
      modify fun s => { s with backgroundStatus := some s.status, status := 0 }
    | .sequence [] => modify fun s => { s with status := 0 }
    | .sequence commands => do
      for c in commands do run depth tested c
    | .subshell body => do
      inSubshell (runText depth true) (run depth tested body)
      conclude tested (← get).status
    | .branch cases otherwise =>
      let holds (condition : Command) : Act Bool := do
        run depth true condition
        return (← get).status = 0
      runFirst holds (run depth tested) otherwise cases
    | .choice subject cases => do
      let text ← asText (← expand depth [] subject)
      let fits (pattern : Word) : Act Bool := do
        return matchesText (← asField (← expand depth [] pattern)).pattern text.toList
      match ← firstFitting fits cases with
      | none => modify fun s => { s with status := 0 }
      | some body => run depth tested body
    | .each name words body => do
      let values ← match words with
        | none => pure (← get).arguments
        | some words => fieldsOf depth words
      if values.isEmpty then modify fun s => { s with status := 0 }
      goThrough (fun value => do
        assign name value
        run depth tested body) values
    | .repeated negated condition body => do
      let holds : Act Bool := do
        run depth true condition
        return ((← get).status = 0) != negated
      goRound holds (run depth tested body) roundLimit 0
    | .definition name body => modify fun s =>
      { s with commands := s.commands.insert name body, status := 0 }
    | .redirected c redirections => do
      let refused (message : String) : Act Unit := do
        complain message
        conclude tested 2
      redirected redirections (turn depth redirections) refused (run depth tested c)

/-- The words that the words of a command stand for. What looks like an assignment is not split where
it is one. -/
def argumentsOf : Nat → List Word → Act (List String)
  | 0, _ => throw (.exit 2)
  | _ + 1, [] => return []
  | depth + 1, first :: rest => do
    let front ← fieldsOf depth [first]
    match front with
    | [] => argumentsOf depth rest
    | command :: _ =>
      let others ← if command = "command" then argumentsOf depth rest
        else if command ∈ settingBuiltins then
          let lists ← rest.mapM fun word => do
            match assignmentLike? word with
            | some assignment => return [← asText (← expand depth [] assignment)]
            | none => fieldsOf depth [word]
          pure lists.flatten
        else fieldsOf depth rest
      return front ++ others

def fieldsOf : Nat → List Word → Act (List String)
  | 0, _ => throw (.exit 2)
  | depth + 1, words => do
    let separators := (← get).separators
    let fieldLists ← words.mapM fun word => do return fields (← expand depth separators word)
    let s ← get
    return fieldLists.flatten.flatMap fun f =>
      if s.hasOption 'f' then [f.text] else f.words s.files s.here

/-- Expands the pieces of a word; unquoted values are split at separators. -/
def expand : Nat → List Char → List Piece → Act (List Atom)
  | 0, _, _ => throw (.exit 2)
  | depth + 1, separators, word => do
    let parts ← word.mapM fun piece => do
      match piece with
      | .text s quoted => return Atom.ofText s quoted
      | .parameter name use quoted =>
        match use with
        | .value => atomsOf separators name quoted
        | .impossible => abort "Bad substitution"
        | .size =>
          let value ← asText (← atomsOf [] name true)
          return Atom.ofValue separators (toString value.utf8ByteSize) quoted
        | .substitute kind emptyToo other =>
          let value := parameter? (← get) name
          let isAbsent := value.isNone || (emptyToo && value = some "")
          let substituted : Act (List Atom) := do
            return (← expand depth separators other).map (Atom.resplit separators)
          match kind with
          | .default => if isAbsent then substituted else atomsOf separators name quoted
          | .alternative => if isAbsent then return [] else substituted
          | .assignment =>
            if isAbsent then
              let value ← asText (← expand depth [] other)
              assign name value
            atomsOf separators name quoted
          | .refusal =>
            if isAbsent then
              let message ← asText (← expand depth [] other)
              abort (name ++ ": " ++ if message.isEmpty then "parameter not set" else message)
            else atomsOf separators name quoted
        | .without front longest pattern =>
          let value := (← asText (← atomsOf [] name true)).toList
          let items := (← asField (← expand depth [] pattern)).pattern
          let left := if front then withoutFront longest items value
            else withoutEnd longest items value
          return Atom.ofValue separators (String.ofList left) quoted
      | .arithmetic expression quoted =>
        let text ← asText (← expand depth [] expression)
        let s ← get
        match evaluate (fun name => (parameter? s name).getD "") text.toList with
        | .ok (value, assigned) =>
          for (name, n) in assigned.reverse do assign name (toString n)
          return Atom.ofValue separators (toString value) quoted
        | .error fault => abort (fault.message text)
      | .output script quoted =>
        let before := (← get).status
        let written ← capturing (inSubshell (runText depth true) (run depth false script))
        modify fun s => { s with status := before, outputStatus := s.status }
        let kept := (written.toList.reverse.dropWhile (· = '\n')).reverse
        return Atom.ofValue separators (String.ofList kept) quoted
    return parts.flatten

def turn : Nat → List Redirection → Act (Option String)
  | 0, _ => throw (.exit 2)
  | depth + 1, redirections =>
    redirections.foldlM (fun refusal redirection => do
      match refusal, redirection with
      | some message, _ => return some message
      | none, .mk descriptor kind target =>
        redirect descriptor kind (← asText (← expand depth [] target))) none

def runWords : Nat → Bool → List String → Act Nat
  | 0, _, _ => throw (.exit 2)
  | depth + 1, tested, words => do
    match words with
    | [] => return 0
    | name :: arguments =>
      match (← get).commands.get? name with
      | none => runKnown depth tested words
      | some body =>
        called arguments (run depth tested body)
        return (← get).status

def runKnown : Nat → Bool → List String → Act Nat
  | 0, _, _ => throw (.exit 2)
  | depth + 1, tested, words => do
    match words with
    | [] => return 0
    | "eval" :: texts =>
      runText depth tested (" ".intercalate texts)
      return (← get).status
    | "." :: name :: _ =>
      let s ← get
      let directories := if name.contains '/' then [""]
        else ((s.bindings.get? "PATH").getD "").splitOn ":"
      let paths := directories.map fun directory =>
        if directory.isEmpty then name else joinPath directory name
      match paths.findSome? fun path => (s.files.read s.here path).toOption with
      | some text =>
        called s.arguments (runText depth tested text)
        return (← get).status
      | none =>
        abort (".: " ++ if name.contains '/' then "cannot open " ++ name ++ ": No such file"
          else name ++ ": not found")
    | ["."] => return 0
    | ["exec"] => return 0
    | "exec" :: program =>
      modify fun s => { s with killer := none }
      let status ← runProgram depth notRun program
      match (← get).killer with
      | some signal => if status = 128 + signal then throw (.killed signal)
      | none => pure ()
      modify fun s => { s with traps := .empty }
      throw (.exit status)
    | "command" :: "-v" :: names => describe true (names.take 1)
    | "command" :: "-V" :: names => describe false (names.take 1)
    | "command" :: "-p" :: words => runKnown depth tested words
    | "command" :: words =>
      match (words.headD "").toList with
      | '-' :: c :: _ =>
        warn ("command: Illegal option -" ++ c.toString)
        return 2
      | _ => runKnown depth tested words
    | "type" :: names => describe false names
    | name :: arguments =>
      match builtins.lookup name with
      | some utility =>
        if name ∈ specialBuiltins then utility arguments else contained (utility arguments)
      | none => runProgram depth notRun words

def runProgram : Nat → Refusal → List String → Act Nat
  | 0, _, _ => throw (.exit 2)
  | depth + 1, refusal, words => do
    match words with
    | [] => return 0
    | path :: arguments =>
      let s ← get
      match findProgram s path with
      | .error status => refusal path status
      | .ok (found, .script _ place) =>
        let content := match s.files.entry? place with
          | some (.file content) => content
          | _ => ""
        match interpreter content with
        | [] => return 0
        | first :: more =>
          match programOfPath s first with
          | .error _ => refusal path 127
          | .ok _ => runProgram depth refusal (first :: more ++ found :: arguments)
      | .ok (_, .known name) =>
        if name ∈ shellNames then
          let (letters, task) := shellTask [] arguments
          match task with
          | .misused message => failing 2 (name ++ ": 0: " ++ message)
          | .text text name more => process (runChild depth letters name more text)
          | .input more =>
            let text ← readAll
            process (runChild depth letters name more text)
          | .file file more =>
            match ← readPath file with
            | .ok text => process (runChild depth letters file more text)
            | .error .isADirectory => return 0
            | .error _ => failing 2 (name ++ ": 0: cannot open " ++ file ++ ": No such file")
        else if name = "which" then
          which (fun name => (findProgram s name).isOk) arguments
        else
          match allLaunchers.lookup name, utilities.lookup name with
          | some launcher, _ => launcher (runProgram depth) arguments
          | none, some utility => utility arguments
          | none, none => refusal path 127

def runChild : Nat → List Char → String → List String → String → Act Unit
  | 0, _, _, _, _ => throw (.exit 2)
  | depth + 1, letters, name, arguments, text => do
    startChild letters name arguments
    wholly (runText depth true) (runText depth false text)

/-- Carries the text of a script out line by line; a line that cannot be read ends the shell. -/
def runText : Nat → Bool → String → Act Unit
  | 0, _, _ => throw (.exit 2)
  | depth + 1, tested, text => do
    let before := (← get).line
    match lines depth (text.length + 1) 1 text.toList with
    | [] => modify fun s => { s with status := 0 }
    | all =>
      for (number, line) in all do
        modify fun s => { s with line := number }
        match line with
        | some c => run depth tested c
        | none => abort "Syntax error"
    modify fun s => { s with line := before }

end

def depthLimit : Nat := 10000

def surroundings : List (String × String) :=
  [("PATH", "/usr/local/sbin:/usr/local/bin:/usr/sbin:/usr/bin:/sbin:/bin"), ("HOME", "/root")]

/-- Runs a script in a directory, with variables and nothing to read; what it writes outside files
is not seen. -/
def execute (files : FileTree) (here : Location) (environment : List (String × String))
    (script : String) : ExitStatus × FileTree :=
  let exported := surroundings ++ environment ++ [("PWD", pathOf here)]
  let start : State := {
    files, here
    programs := programDirectories.flatMap fun directory =>
      programNames.map fun name => joinPath directory name
    bindings := withOwnVariables
      (exported.foldl (fun table (name, value) => table.insert name value) .empty)
    exported := exported.map Prod.fst
    fixed := [], shadowed := none, name := "sh", line := 1, arguments := [], commands := .empty
    traps := .empty, arrived := [], status := 0, outputStatus := 0, calls := 0
    backgroundStatus := none, killer := none, loops := 0
    options := [], optionIndex := 1, optionOffset := none, clock := 0, deadline := none
    channels := [0, 1, 2].foldl (fun table n => table.insert n .unseen) .empty
    texts := .empty, read := "" }
  match wholly (runText depthLimit true) (runText depthLimit false script) start with
  | .ok _ s => (.exited s.status, s.files)
  | .error (.killed signal) s => (.signalled signal, s.files)
  | .error _ s => (.exited s.status, s.files)

end StorageBroker.Shell
