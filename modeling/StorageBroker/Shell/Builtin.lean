import StorageBroker.Shell.Condition
import StorageBroker.Shell.Expansion
import StorageBroker.Shell.Filter
import StorageBroker.Shell.Utility.Permissions

/-! # Commands of the shell itself

Commands that change what the shell knows: its variables, arguments, options, directory and traps;
and those that are part of it although they only write or test something. -/

set_option autoImplicit false

namespace StorageBroker.Shell

open Act

/-! ## Output and conditions -/

def echo : Utility := fun arguments => do
  print (echoed arguments)
  return 0

def printf : Utility := fun arguments => do
  let arguments := if arguments.head? = some "--" then arguments.drop 1 else arguments
  match arguments with
  | [] =>
    warn "printf: usage: printf format [arg ...]"
    return 2
  | format :: rest =>
    let made := printed format rest
    for fault in made.faults do warn ("printf: " ++ fault)
    for directive in made.unknown do warn ("printf: " ++ directive ++ ": invalid directive")
    print (String.ofList made.text)
    return if made.unknown.isSome then 2 else if made.faults.isEmpty then 0 else 1

def testAs (name : String) (words : List String) : Act Nat := do
  let s ← get
  match holds (s.filesWith words) s.here words with
  | .ok b => return if b then 0 else 1
  | .error message =>
    warn (name ++ ": " ++ message)
    return 2

def test : Utility := testAs "test"

def bracket : Utility := fun arguments => do
  if arguments.getLast? = some "]" then testAs "[" arguments.dropLast
  else
    warn "[: missing ]"
    return 2

def succeed : Utility := fun _ => return 0

def fail : Utility := fun _ => return 1

/-! ## The end of the shell, and of loops -/

def naturalNumber (command argument : String) : Act Nat := do
  if !argument.isEmpty && argument.toList.all Char.isDigit then return argument.toNat?.getD 0
  abort (command ++ ": Illegal number: " ++ argument)

def exit : Utility := fun arguments => do
  match arguments with
  | [] => throw (.exit (← get).status)
  | a :: _ => throw (.exit ((← naturalNumber "exit" a) % 256))

/-- Leaves loops, or goes on with their next round; outside of loops nothing is done. -/
def leaveLoops (command : String) (stop : Nat → Stop) : Utility := fun arguments => do
  let n ← match arguments with
    | [] => pure 1
    | a :: _ => naturalNumber command a
  if n = 0 then abort (command ++ ": Illegal number: 0")
  let s ← get
  if s.loops = 0 then return 0
  set { s with status := 0 }
  throw (stop (min n s.loops))

/-- Goes back from a command that was defined in the script. -/
def goBack : Utility := fun arguments => do
  match arguments with
  | [] => throw (.back (← get).status)
  | a :: _ => throw (.back ((← naturalNumber "return" a) % 256))

/-! ## Signals -/

def parentId : String := "99"

def shellId : String := "100"

def backgroundId : String := "101"

def harmlessSignals : List (Nat × String) :=
  [(0, "EXIT"), (17, "CHLD"), (18, "CONT"), (19, "STOP"), (20, "TSTP"), (21, "TTIN"), (22, "TTOU"),
   (23, "URG"), (28, "WINCH")]

def lastSignal : Nat := 64

/-- The name of a signal, or its number if it is used for nothing; the last ones are counted from two
that have names. -/
def signalName (signal : Nat) : String :=
  match (harmlessSignals ++ ExitStatus.signals.filter fun row => row.1 ≠ 16).lookup signal with
  | some name => name
  | none =>
    if signal = 34 then "RTMIN"
    else if signal = lastSignal then "RTMAX"
    else if 34 < signal && signal < 50 then "RTMIN+" ++ toString (signal - 34)
    else if 50 ≤ signal then "RTMAX-" ++ toString (lastSignal - signal)
    else toString signal

/-- The number of a signal that is given by number, or by name as one of the signals from `first`
on. -/
def signalNumber? (first : Nat) (written : String) : Option Nat :=
  if !written.isEmpty && written.toList.all Char.isDigit then
    written.toNat?.filter (· ≤ lastSignal)
  else (List.range (lastSignal + 1)).find? fun n =>
    first ≤ n && signalName n = written.map Char.toUpper

/-- Sends a signal to a process; only the shell itself and what it runs in the background are there
to be found. -/
def sendSignal (signal : Nat) (targets : List String) : Act Nat :=
  targets.foldlM (fun status target => do
    let s ← get
    if target.startsWith "%" then abort ("kill: No such job: " ++ target)
    let number := if target.startsWith "-" then (target.drop 1).toString else target
    let _ ← naturalNumber "kill" number
    let harmless := (harmlessSignals.lookup signal).isSome
    if number = backgroundId && s.backgroundStatus.isSome then
      if !harmless then set { s with backgroundStatus := some (128 + signal) }
      return status
    if number ≠ shellId && number ≠ "0" then
      warn "kill: No such process\n"
      return 1
    match if signal = 9 then none else s.traps.get? signal with
    | some action =>
      if !action.isEmpty then modify fun s => { s with arrived := s.arrived ++ [signal] }
      return status
    | none => if harmless then return status else throw (.killed signal)) 0

/-- A value within single quotes, or within double ones that hold only single ones, up to its end. -/
def quotedUpToEnd : (single : Bool) → List Char → List Char
  | true, [] => ['\'']
  | true, '\'' :: rest => '\'' :: '"' :: '\'' :: quotedUpToEnd false rest
  | true, c :: rest => c :: quotedUpToEnd true rest
  | false, [] => ['"']
  | false, '\'' :: rest => '\'' :: quotedUpToEnd false rest
  | false, c :: rest => '"' :: '\'' :: c :: quotedUpToEnd true rest

def inQuotes (value : String) : String := String.ofList ('\'' :: quotedUpToEnd true value.toList)

def listTraps : Act Nat := do
  let s ← get
  for signal in List.range (lastSignal + 1) do
    for action in s.traps.get? signal do
      print ("trap -- " ++ inQuotes action ++ " " ++ signalName signal ++ "\n")
  return 0

/-- Says what is done when signals come, or that nothing of the kind is done. -/
def setTraps (action : Option String) : List String → Act Nat
  | [] => return 0
  | written :: rest => do
    match signalNumber? 0 written with
    | none => failing 1 ("trap: " ++ written ++ ": bad trap")
    | some signal =>
      modify fun s =>
        { s with
          traps := match action with
            | none => s.traps.erase signal
            | some action => s.traps.insert signal action }
      setTraps action rest

/-- Says what is done when signals come, or tells what that is. A lone argument, or a number in
front, is a signal that is left to itself again. -/
def trap : Utility := fun arguments => do
  match arguments.head?.map String.toList with
  | some ('-' :: c :: _) => if c ≠ '-' then abort ("trap: Illegal option -" ++ c.toString)
  | _ => pure ()
  match if arguments.head? = some "--" then arguments.drop 1 else arguments with
  | [] => listTraps
  | [written] => setTraps none [written]
  | first :: rest =>
    if !first.isEmpty && first.toList.all Char.isDigit then setTraps none (first :: rest)
    else setTraps (if first = "-" then none else some first) rest

def killUsage : String :=
  "kill: Usage: kill [-s sigspec | -signum | -sigspec] [pid | job]... or\nkill -l [exitstatus]"

def listSignals (statuses : List String) : Act Nat := do
  match statuses with
  | [] =>
    print (ofLines ("0" :: (List.range lastSignal).map fun n => signalName (n + 1)))
    return 0
  | status :: _ =>
    let n ← naturalNumber "kill" status
    let signal := if 128 < n then n - 128 else n
    if signal = 0 || lastSignal < signal then
      abort ("kill: invalid signal number or exit status: " ++ status)
    print (signalName signal ++ "\n")
    return 0

def kill : Utility := fun arguments => do
  let sending (signal : Nat) (targets : List String) : Act Nat :=
    if targets.isEmpty then abort killUsage else sendSignal signal targets
  let first := arguments.headD ""
  match if first.startsWith "-" then signalNumber? 1 (first.drop 1).toString else none with
  | some signal => sending signal (arguments.drop 1)
  | none =>
    match (OptionTable.mk "l" "s" "" [] false).read arguments with
    | .error (.unknown c) => abort ("kill: Illegal option -" ++ c.toString)
    | .error _ => abort "kill: No arg for -s option"
    | .ok given =>
      if given.has 'l' then return ← listSignals given.operands
      match given.value? 's' with
      | none => sending 15 given.operands
      | some name =>
        match signalNumber? 1 name with
        | none => abort ("kill: invalid signal number or name: " ++ name)
        | some signal => sending signal given.operands

/-- Waits for what runs in the background; that has ended by then. -/
def wait : Utility := fun arguments => do
  let s ← get
  return if arguments.isEmpty then 0 else s.backgroundStatus.getD 127

/-! ## Directories -/

def State.path (s : State) : String := pathOf s.here

def cd : Utility := fun arguments => do
  let s ← get
  let arguments := arguments.dropWhile fun a => a = "-L" || a = "-P" || a = "--"
  let back := arguments.head? = some "-"
  let path := if back then (s.bindings.get? "OLDPWD").getD ""
    else (arguments.head? <|> s.bindings.get? "HOME").getD ""
  if path.isEmpty then return 0
  match s.files.lookup s.here path with
  | .ok (place, .directory) =>
    set { s with here := place }
    assign "OLDPWD" s.path
    assign "PWD" (pathOf place)
    if back then print (pathOf place ++ "\n")
    return 0
  | _ =>
    warn ("cd: can't cd to " ++ path)
    return 2

def pwd : Utility := fun _ => do
  print ((← get).path ++ "\n")
  return 0

/-! ## Variables -/

def isName (s : String) : Bool :=
  match s.toList with
  | [] => false
  | first :: rest => (first.isAlpha || first = '_') && rest.all fun c => c.isAlphanum || c = '_'

def setVariables (command : String) : Utility := fun arguments => do
  for argument in arguments do
    let (name, value) := cutAtEquals argument
    if !isName name then abort (command ++ ": " ++ name ++ ": bad variable name")
    match value with
    | some value => assignBy (some command) name value
    | none => pure ()
  return 0

/-- Makes variables local to a command that the script defines: they become what they were when that
ends. -/
def setLocal : Utility := fun arguments => do
  let s ← get
  match s.shadowed with
  | none => abort "local: not in a function"
  | some rows =>
    let shadowed := arguments.map fun a => ((cutAtEquals a).1, s.bindings.get? (cutAtEquals a).1)
    set { s with shadowed := some (shadowed.reverse ++ rows) }
    setVariables "local" arguments

def listVariables (front : String) (names : List String) : Act Nat := do
  let s ← get
  for name in names.mergeSort.eraseReps do
    let value := match s.bindings.get? name with
      | some value => "=" ++ inQuotes value
      | none => ""
    print (front ++ name ++ value ++ "\n")
  return 0

def exportVariables : Utility := fun arguments => do
  if arguments.isEmpty || arguments = ["-p"] then
    return ← listVariables "export " (← get).exported
  let status ← setVariables "export" arguments
  modify fun s =>
    { s with exported := s.exported ++ arguments.map fun a => (cutAtEquals a).1 }
  return status

def fixVariables : Utility := fun arguments => do
  if arguments.isEmpty || arguments = ["-p"] then
    return ← listVariables "readonly " (← get).fixed
  let status ← setVariables "readonly" arguments
  modify fun s => { s with fixed := s.fixed ++ arguments.map fun a => (cutAtEquals a).1 }
  return status

/-- Forgets variables, or commands that the script has defined. -/
def unset : Utility := fun arguments => do
  let letters := (arguments.takeWhile fun a => a.startsWith "-").flatMap String.toList
  for name in arguments.dropWhile fun a => a.startsWith "-" do
    if 'f' ∈ letters then modify fun s => { s with commands := s.commands.erase name }
    else
      if !isName name then abort ("unset: " ++ name ++ ": bad variable name")
      if name ∈ (← get).fixed then abort ("unset: " ++ name ++ ": is read only")
      modify fun s =>
        { s with bindings := s.bindings.erase name, exported := s.exported.filter (· ≠ name) }
  return 0

/-! ## Options and arguments -/

def shellOptions : List (Char × String) :=
  [('e', "errexit"), ('f', "noglob"), ('I', "ignoreeof"), ('i', "interactive"), ('m', "monitor"),
   ('n', "noexec"), ('s', "stdin"), ('x', "xtrace"), ('v', "verbose"), ('V', "vi"), ('E', "emacs"),
   ('C', "noclobber"), ('a', "allexport"), ('b', "notify"), ('u', "nounset")]

def turnOptions (on : Bool) (letters : List Char) : Act Unit := modify fun s =>
  let others := s.options.filter fun c => c ∉ letters
  { s with options := if on then others ++ letters else others }

def setOptions : Utility
  | "--" :: arguments => do
    modify fun s => { s with arguments }
    return 0
  | "-" :: arguments => do
    turnOptions false ['x', 'v']
    if !arguments.isEmpty then modify fun s => { s with arguments }
    return 0
  | ["-o"] => do
    let s ← get
    print "Current option settings\n"
    for (letter, name) in shellOptions do
      print (name ++ "".pushn ' ' (16 - name.length) ++
        (if s.hasOption letter then "on" else "off") ++ "\n")
    return 0
  | first :: rest => do
    let on := first.startsWith "-"
    let letters := first.toList.drop 1
    if (on || first.startsWith "+") && !letters.isEmpty then
      match letters.find? fun c => c ∉ shellOptions.map Prod.fst && c ≠ 'o' with
      | some c => abort ("set: Illegal option " ++ (first.take 1).toString ++ c.toString)
      | none => pure ()
      turnOptions on (letters.filter (· ≠ 'o'))
      if 'o' ∈ letters then
        match rest with
        | [] => return 0
        | name :: rest =>
          match shellOptions.find? fun row => row.2 = name with
          | some (letter, _) =>
            turnOptions on [letter]
            setOptions rest
          | none => abort ("set: Illegal option " ++ (first.take 1).toString ++ "o " ++ name)
      else setOptions rest
    else
      modify fun s => { s with arguments := first :: rest }
      return 0
  | [] => return 0

/-- Turns options on and off and sets the arguments, or writes what sets all variables. -/
def setOrList : Utility := fun arguments => do
  if arguments.isEmpty then listVariables "" (← get).bindings.keys else setOptions arguments

def shift : Utility := fun arguments => do
  let n ← match arguments with
    | [] => pure 1
    | a :: _ => naturalNumber "shift" a
  if (← get).arguments.length < n then abort "shift: can't shift that many"
  modify fun s => { s with arguments := s.arguments.drop n }
  return 0

/-- Whether an option is one of those that a text lists, and whether it takes a value: then a colon
follows it there. -/
def listedOption? (c : Char) : List Char → Option Bool
  | d :: ':' :: rest => if d = c && c ≠ ':' then some true else listedOption? c rest
  | d :: rest => if d = c && c ≠ ':' then some false else listedOption? c rest
  | [] => none

def nextOption (options name : String) (arguments : List String) : Act Nat := do
  let s ← get
  let index := max 1 s.optionIndex
  let current := if index ≤ 1 then "" else (arguments[index - 2]?).getD ""
  let left := match s.optionOffset with
    | some n => current.toList.drop n
    | none => []
  let finish (c : Char) (index : Nat) (offset : Option Nat) (status : Nat) : Act Nat := do
    assign "OPTIND" (toString index)
    modify fun s => { s with optionIndex := index, optionOffset := offset }
    assign name c.toString
    return status
  let quiet := options.startsWith ":"
  let forget : Act Unit := modify fun s => { s with bindings := s.bindings.erase "OPTARG" }
  let take (c : Char) (rest : List Char) (index : Nat) : Act Nat := do
    let word := (arguments[index - 2]?).getD ""
    let offset := some (word.length - rest.length)
    match listedOption? c (if quiet then options.toList.drop 1 else options.toList) with
    | none =>
      if quiet then assign "OPTARG" c.toString
      else
        complain ("Illegal option -" ++ c.toString)
        forget
      finish '?' index offset 0
    | some false =>
      assign "OPTARG" ""
      finish c index offset 0
    | some true =>
      if !rest.isEmpty then
        assign "OPTARG" (String.ofList rest)
        return ← finish c index none 0
      match arguments[index - 1]? with
      | some value =>
        assign "OPTARG" value
        finish c (index + 1) none 0
      | none =>
        if quiet then
          assign "OPTARG" c.toString
          return ← finish ':' index offset 0
        complain ("No arg for -" ++ c.toString ++ " option")
        forget
        finish '?' index offset 0
  match left with
  | c :: rest => take c rest index
  | [] =>
    match (arguments[index - 1]?).map String.toList with
    | some ['-', '-'] => finish '?' (index + 1) none 1
    | some ('-' :: c :: rest) => take c rest (index + 1)
    | _ => finish '?' index none 1

def getopts : Utility := fun arguments => do
  match arguments with
  | options :: name :: rest =>
    let s ← get
    nextOption options name (if rest.isEmpty then s.arguments else rest)
  | _ =>
    warn "getopts: Usage: getopts optstring var [arg...]"
    return 2

/-! ## Input -/

/-- The characters of the next line of a text, each with whether a backslash has hidden it, and the
text after that line if it has an end. A hidden line end is left out. -/
def hiddenLine : List Char → Field × Option (List Char)
  | [] => ([], none)
  | '\n' :: rest => ([], some rest)
  | '\\' :: '\n' :: rest => hiddenLine rest
  | '\\' :: c :: rest =>
    let (line, after) := hiddenLine rest
    ((c, true) :: line, after)
  | c :: rest =>
    let (line, after) := hiddenLine rest
    ((c, false) :: line, after)

/-- The first of the values on a line, which separators divide, and what comes after it: blanks
around a value are left out, and one other separator. -/
def firstValue (separators : List Char) (line : Field) : Field × Field :=
  let isSeparator (c : Char × Bool) : Bool := !c.2 && c.1 ∈ separators
  let isBlank (c : Char × Bool) : Bool := isSeparator c && c.1 ∈ standardSeparators
  let value := (line.dropWhile isBlank).takeWhile fun c => !isSeparator c
  let rest := ((line.dropWhile isBlank).drop value.length).dropWhile isBlank
  match rest with
  | c :: after => (value, if isSeparator c then after.dropWhile isBlank else rest)
  | [] => (value, [])

/-- The values that a line gives to names; the last one takes what is left. -/
def valuesOf (separators : List Char) : List String → Field → List (String × String)
  | [], _ => []
  | [name], line =>
    let isBlank (c : Char × Bool) : Bool :=
      !c.2 && c.1 ∈ separators && c.1 ∈ standardSeparators
    match firstValue separators line with
    | (value, []) => [(name, value.text)]
    | _ => [(name, Field.text ((line.dropWhile isBlank).reverse.dropWhile isBlank).reverse)]
  | name :: names, line =>
    let (value, rest) := firstValue separators line
    (name, value.text) :: valuesOf separators names rest

def readLine : Utility :=
  fun arguments => do
  match (OptionTable.mk "r" "p" "" [] false).read arguments with
  | .error (.unknown c) => abort ("read: Illegal option -" ++ c.toString)
  | .error _ => abort "read: No arg for -p option"
  | .ok given =>
    emit 2 ((given.value? 'p').getD "")
    if given.operands.isEmpty then
      warn "read: arg count"
      return 2
    match given.operands.find? fun name => !isName name with
    | some name =>
      warn ("read: " ++ name ++ ": bad variable name")
      return 2
    | none => pure ()
    let s ← get
    let text := s.input.toList
    let (line, after) : Field × Option (List Char) :=
      if given.has 'r' then
        let line := text.takeWhile (· ≠ '\n')
        (line.map fun c => (c, false),
          if line.length < text.length then some (text.drop (line.length + 1)) else none)
      else hiddenLine text
    set (s.withInputLeft (String.ofList (after.getD [])))
    for (name, value) in valuesOf s.separators given.operands line do assignBy (some "read") name value
    return if after.isSome then 0 else 1

/-- Writes the values of variables that programs know, or all those variables. -/
def printenv : Utility := fun arguments => do
  let s ← get
  let known := s.bindings.filter fun name _ => name ∈ s.exported
  if arguments.isEmpty then print (ofLines (known.rows.map fun (name, value) => name ++ "=" ++ value))
  forEach arguments fun name => do
    match known.get? name with
    | none => return some ""
    | some value =>
      print (value ++ "\n")
      return none

def otherPermissions (mode : Nat) : Nat := 0o777 ^^^ (0o777 &&& mode)

def umask : Utility := fun arguments => do
  let mask := (← get).files.mask
  match arguments.filter (· ≠ "-S") with
  | [] =>
    let holder (letter : Char) (scale : Nat) : String :=
      let letters := [('r', 4), ('w', 2), ('x', 1)].filterMap fun (letter, bit) =>
        if otherPermissions mask / (bit * scale) % 2 = 1 then some letter else none
      letter.toString ++ "=" ++ String.ofList letters
    let digits := String.ofList (Nat.toDigits 8 mask)
    print (if arguments.isEmpty then "".pushn '0' (4 - digits.length) ++ digits ++ "\n"
      else ",".intercalate [holder 'u' 64, holder 'g' 8, holder 'o' 1] ++ "\n")
    return 0
  | text :: _ =>
    let isNumber := (text.toList.head?.map Char.isDigit).getD false
    match newMode? false (otherPermissions mask) text with
    | none => abort ((if isNumber then "umask: Illegal number: " else "umask: Illegal mode: ") ++ text)
    | some mode =>
      let mask := if isNumber then mode % 0o1000 else otherPermissions mode
      modify fun s => { s with files := { s.files with mask } }
      return 0

def ulimit : Utility := fun arguments => do
  if arguments.all fun a => a.startsWith "-" then print "unlimited\n"
  return 0

def builtins : List (String × Utility) :=
  [(":", succeed), ("true", succeed), ("false", fail), ("echo", echo), ("printf", printf),
   ("test", test), ("[", bracket), ("exit", exit), ("kill", kill), ("cd", cd), ("pwd", pwd),
   ("export", exportVariables), ("unset", unset), ("set", setOrList), ("read", readLine),
   ("local", setLocal), ("readonly", fixVariables), ("shift", shift), ("trap", trap),
   ("break", leaveLoops "break" .leave), ("continue", leaveLoops "continue" .again),
   ("return", goBack), ("wait", wait), ("getopts", getopts), ("umask", umask), ("ulimit", ulimit),
   ("hash", succeed), ("times", succeed), ("alias", succeed), ("unalias", succeed),
   ("jobs", succeed), ("bg", succeed), ("fg", succeed)]

/-- The commands whose failure ends the shell if the script has made it, or refused a redirection. -/
def specialBuiltins : List String :=
  [":", ".", "break", "continue", "eval", "exec", "exit", "export", "readonly", "return", "set",
   "shift", "times", "trap", "unset", "local"]

end StorageBroker.Shell
