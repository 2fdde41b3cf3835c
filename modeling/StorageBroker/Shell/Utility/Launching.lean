import StorageBroker.Shell.Builtin
import StorageBroker.Shell.Utility.Files
import StorageBroker.Shell.Utility.Lines

/-! # Utilities that run others

Commands whose arguments are commands: with other variables, for a limited time, or with operands
that are read. -/

set_option autoImplicit false

namespace StorageBroker.Shell

open Act

/-- What is done if a command cannot be run: from its name, and the status that tells whether there
is none or it may not be run, to the status. -/
abbrev Refusal : Type := String → Nat → Act Nat

abbrev Runner : Type := Refusal → List String → Act Nat

/-- A command that can run others, given how that is done. -/
abbrev Launcher : Type := Runner → Utility

/-- Says why a command cannot be run, in the words of another command. -/
def saying (text : String → String → String) : Refusal := fun name status => do
  complain (text name (if status = 126 then "Permission denied" else "No such file or directory"))
  return status

/-- What is told of a process that was ended by a signal; some signals are passed over. -/
def signalReport? (signal : Nat) : Option String :=
  match signal with
  | 1 => some "Hangup"
  | 3 => some "Quit"
  | 4 => some "Illegal instruction"
  | 5 => some "Trace/breakpoint trap"
  | 6 => some "Aborted"
  | 7 => some "Bus error"
  | 8 => some "Floating point exception"
  | 9 => some "Killed"
  | 10 => some "User defined signal 1"
  | 11 => some "Segmentation fault"
  | 12 => some "User defined signal 2"
  | 14 => some "Alarm clock"
  | 15 => some "Terminated"
  | 16 => some "Stack fault"
  | 24 => some "CPU time limit exceeded"
  | 25 => some "File size limit exceeded"
  | 26 => some "Virtual timer expired"
  | 27 => some "Profiling timer expired"
  | 29 => some "I/O possible"
  | 30 => some "Power failure"
  | 31 => some "Bad system call"
  | _ => if 34 ≤ signal then some ("Real-time signal " ++ toString (signal - 34)) else none

def noteEnd (signal : Nat) : Act Nat := do
  for report in signalReport? signal do complain report
  modify fun s => { s with killer := some signal }
  return 128 + signal

/-- Does what another process does; a signal that ends that gives a status. -/
def process (act : Act Unit) : Act Nat := do
  match ← attempt (apart act) with
  | .error (.killed signal) => noteEnd signal
  | .error .expired => throw .expired
  | _ => return (← get).status

def spawned (run : Runner) (refusal : Refusal) (words : List String) : Act Nat := process do
  let status ← run refusal words
  modify fun s => { s with status }

/-! ## Surroundings -/

/-- Runs a command with other variables, or writes the variables that it would know. -/
def env : Launcher := fun run =>
  (OptionTable.mk "i0v" "uCS" "" [("ignore-environment", 'i'), ("unset", 'u'), ("chdir", 'C'),
    ("null", '0')] false).command "env" 125 fun given => do
  let operands := if given.operands.head? = some "-" then given.operands.drop 1
    else given.operands
  let isAssignment (a : String) : Bool := (cutAtEquals a).2.isSome
  process do
    if given.has 'i' || given.operands.head? = some "-" then modify fun s => { s with exported := [] }
    for name in given.values 'u' do
      modify fun s => { s with
        exported := s.exported.filter (· ≠ name), bindings := s.bindings.erase name }
    for assignment in operands.takeWhile isAssignment do
      let (name, value) := cutAtEquals assignment
      modify fun s => { s with
        bindings := s.bindings.insert name (value.getD ""), exported := s.exported ++ [name] }
    match given.value? 'C' with
    | none => pure ()
    | some path =>
      let s ← get
      match s.files.lookup s.here path with
      | .ok (place, .directory) => set { s with here := place }
      | _ =>
        complain ("env: cannot change directory to '" ++ path ++ "': No such file or directory")
        throw (.exit 125)
    let status ← match operands.dropWhile isAssignment with
      | [] => printenv []
      | program => run (saying fun name why => "env: '" ++ name ++ "': " ++ why) program
    modify fun s => { s with status }

def plainly (name said : String) (table : OptionTable) (failure : Nat) : Launcher := fun run =>
  table.command name failure fun given =>
    if given.operands.isEmpty then misused name failure "missing operand"
    else spawned run (saying fun program why => name ++ said ++ program ++ "': " ++ why) given.operands

/-- Runs a command with a lower rank, which makes no difference. -/
def nice : Launcher := fun run arguments => do
  let arguments := arguments.filter fun a => !(a.startsWith "-" && (a.toList.drop 1).all Char.isDigit)
  if arguments.isEmpty then
    print "0\n"
    return 0
  plainly "nice" ": '" (.mk "" "n" "" [("adjustment", 'n')] false) 125 run arguments

/-! ## Time -/

def milliseconds? (text : String) : Option Nat :=
  match Text.numeral? text.toList with
  | some (false, digits, power, rest) =>
    let unit? : Option Nat := match rest with
      | [] | ['s'] => some 1000
      | ['m'] => some 60000
      | ['h'] => some 3600000
      | ['d'] => some 86400000
      | _ => none
    unit?.map fun unit =>
      if 0 ≤ power then digits * unit * Text.tenTo power.toNat
      else digits * unit / Text.tenTo (-power).toNat
  | _ => if text = "infinity" || text = "inf" then some 1000000000000 else none

/-- Waits, unless what runs has less time. -/
def sleep : Utility := fun arguments => do
  match arguments.find? fun a => (milliseconds? a).isNone with
  | some a => misused "sleep" 1 ("invalid time interval '" ++ a ++ "'")
  | none =>
    if arguments.isEmpty then return ← misused "sleep" 1 "missing operand"
    let time := (arguments.filterMap milliseconds?).foldl (· + ·) 0
    let s ← get
    let moment := s.clock + time
    match s.deadline with
    | some limit =>
      if limit < moment then
        set { s with clock := limit }
        throw .expired
      set { s with clock := moment }
      return 0
    | none =>
      set { s with clock := moment }
      return 0

def timeout : Launcher := fun run =>
  (OptionTable.mk "vfp" "ks" "" [("signal", 's'), ("kill-after", 'k'), ("foreground", 'f'),
    ("preserve-status", 'p')] false).command "timeout" 125 fun given => do
  match given.operands with
  | [] | [_] => failing 125 "Try 'timeout --help' for more information."
  | duration :: words =>
    match milliseconds? duration with
    | none => misused "timeout" 125 ("invalid time interval '" ++ duration ++ "'")
    | some time =>
      let before ← get
      let limit := if time = 0 then before.deadline
        else some (min (before.clock + time) (before.deadline.getD (before.clock + time)))
      set { before with deadline := limit }
      let refusal := saying fun name why =>
        "timeout: failed to run command '" ++ name ++ "': " ++ why
      let result ← attempt (spawned run refusal words)
      modify fun s => { s with deadline := before.deadline }
      match result with
      | .error .expired =>
        let now := (← get).clock
        let outer := before.deadline.any fun d => d ≤ now
        if outer then throw .expired
        let chosen := given.value? 's'
        let signal := (chosen.bind fun name =>
          signalNumber? 0 (if name.startsWith "SIG" then (name.drop 3).toString else name)).getD 15
        if signal = 9 then return ← noteEnd signal
        return if given.has 'p' then 128 + signal else 124
      | _ => resume result

/-! ## Operands that are read -/

inductive OperandFault
  | openSingle
  | openDouble
  deriving DecidableEq, Repr

/-- The operands on the lines of a text, where quotes and backslashes hide blanks. Each line gives a
list; a line that ends with a blank goes on with the next one. -/
def quotedOperands : (fuel : Nat) → (word : Option (List Char)) → (line : List String) →
    List Char → Except OperandFault (List (List String))
  | 0, word, line, _ => .ok [line ++ (word.map String.ofList).toList]
  | _ + 1, word, line, [] => .ok [line ++ (word.map String.ofList).toList]
  | fuel + 1, word, line, c :: rest =>
    let sofar := word.getD []
    if c = '\n' then do
      return (line ++ (word.map String.ofList).toList) :: (← quotedOperands fuel none [] rest)
    else if isBlank c then
      let line := line ++ (word.map String.ofList).toList
      let goesOn := rest.head? = some '\n' && !line.isEmpty
      quotedOperands fuel none line (if goesOn then rest.drop 1 else rest)
    else if c = '\\' then
      match rest with
      | d :: after => quotedOperands fuel (some (sofar ++ [d])) line after
      | [] => quotedOperands fuel (some sofar) line []
    else if c = '\'' || c = '"' then
      let inside := rest.takeWhile fun d => d ≠ c && d ≠ '\n'
      match rest.drop inside.length with
      | d :: after =>
        if d = c then quotedOperands fuel (some (sofar ++ inside)) line after
        else .error (if c = '\'' then .openSingle else .openDouble)
      | [] => .error (if c = '\'' then .openSingle else .openDouble)
    else quotedOperands fuel (some (sofar ++ [c])) line rest

def chunks {α : Type} (size : Nat) : (fuel : Nat) → List α → List (List α)
  | 0, _ => []
  | _ + 1, [] => []
  | fuel + 1, items => items.take size :: chunks size fuel (items.drop size)

/-- Runs commands one after the other; one that ends with 255 ends that. Any other failure counts as
123 in the end. -/
def runEach (run : Runner) (trace : Bool) : Nat → List (List String) → Act Nat
  | status, [] => return status
  | status, words :: rest => do
    if trace then complain (" ".intercalate words)
    let own ← withInput "" (spawned run (saying fun name why => "xargs: " ++ name ++ ": " ++ why) words)
    if own = 255 then
      failing 124 ("xargs: " ++ words.headD "" ++ ": exited with status 255; aborting")
    else if own = 126 || own = 127 then return own
    else if 128 < own then
      failing 125 ("xargs: " ++ words.headD "" ++ ": terminated by signal " ++ toString (own - 128))
    else runEach run trace (if own = 0 then status else 123) rest

/-- The options of `xargs`. -/
def readerOptions : OptionTable :=
  ⟨"0rtpxo", "nILdPsaE", "ilel",
   [("null", '0'), ("no-run-if-empty", 'r'), ("verbose", 't'), ("max-args", 'n'),
    ("replace", 'i'), ("max-lines", 'L'), ("delimiter", 'd'), ("max-procs", 'P'),
    ("arg-file", 'a'), ("exit", 'x')], false⟩

def readOperands (given : Given) (text : String) : Except OperandFault (List (List String)) :=
  let separated (c : Char) : List (List String) :=
    let parts := text.splitOn c.toString
    (if parts.getLastD "" = "" then parts.dropLast else parts).map fun part => [part]
  match given.value? 'd' with
  | some delimiter =>
    let (delimiter, _) := unescape delimiter.toList
    .ok (separated (delimiter.headD '\n'))
  | none =>
    if given.has '0' then .ok (separated '\x00')
    else if given.hasAny "Ii" then
      .ok ((linesOf text).filterMap fun line =>
        let trimmed := line.toList.dropWhile isBlank
        if trimmed.isEmpty then none
        else (quotedLine trimmed).map fun cs => [String.ofList cs])
    else quotedOperands (2 * text.length + 2) none [] text.toList
where
  /-- A line with its quotes taken away. -/
  quotedLine (cs : List Char) : Option (List Char) :=
    match quotedOperands (2 * cs.length + 2) none []
        (cs.flatMap fun c => if isBlank c then ['\\', c] else [c]) with
    | .ok [[word]] => some word.toList
    | _ => some cs

def xargs : Launcher := fun run =>
  readerOptions.command "xargs" 1 fun given => do
  let command := if given.operands.isEmpty then ["echo"] else given.operands
  let source ← match given.value? 'a' with
    | some path => readPath path
    | none => do pure (Except.ok (← readAll))
  match source with
  | .error e =>
    failing 1 ("xargs: Cannot open input file '" ++ (given.value? 'a').getD "" ++ "': " ++ reason e)
  | .ok text =>
    match readOperands given text with
    | .error fault =>
      let kind := match fault with
        | .openSingle => "single"
        | .openDouble => "double"
      failing 1 ("xargs: unmatched " ++ kind ++
        " quote; by default quotes are special to xargs unless you use the -0 option")
    | .ok rows =>
      let number (letter : Char) : Option Nat := (given.value? letter).bind String.toNat?
      let mark? : Option String :=
        match given.lastOf "InLi" with
        | some 'I' => given.value? 'I'
        | some 'i' => some (match given.value? 'i' with
          | some "" | none => "\x7b\x7d"
          | some mark => mark)
        | _ => if given.hasAny "Ii" && !given.hasAny "nL" then some "\x7b\x7d" else none
      let commands := match mark? with
        | some mark => rows.flatMap fun row => row.map fun text =>
          (command.headD "") :: (command.drop 1).map fun word => word.replace mark text
        | none =>
          let rows := rows.filter fun row => !row.isEmpty
          let groups := match given.lastOf "nLl" with
            | some 'n' => chunks (max 1 ((number 'n').getD 1)) (rows.flatten.length + 1) rows.flatten
            | some _ => (chunks (max 1 ((number 'L').getD 1)) (rows.length + 1) rows).map List.flatten
            | none => if rows.isEmpty then [] else [rows.flatten]
          let groups := if groups.isEmpty && !given.has 'r' then [[]] else groups
          groups.map fun group => command ++ group
      runEach run (given.has 't') 0 commands

def launchers : List (String × Launcher) :=
  [("env", env), ("xargs", xargs), ("timeout", timeout), ("nice", nice),
   ("nohup", plainly "nohup" ": failed to run command '" (.mk "" "" "" [] false) 125),
   ("setsid", plainly "setsid" ": failed to execute '" (.mk "cfw" "" "" [] false) 1),
   ("stdbuf", plainly "stdbuf" ": failed to run command '" (.mk "" "ioe" "" [] false) 125)]

end StorageBroker.Shell
