import StorageBroker.FileTree
import StorageBroker.Shell.ExitStatus
import StorageBroker.Shell.Script

/-! # The state of a shell

What a running shell knows and changes: files, its directory, variables and arguments, commands of
its own, the last status, what is left of its input, and where its output goes. -/

set_option autoImplicit false

namespace StorageBroker.Shell

/-- Where a descriptor leads: out of sight, to whoever reads what is written, to the end of a file, or
to a text that is read, which may be that of a file; it has a number because descriptors can share
it. -/
inductive Channel
  | unseen
  | reader
  | file (place : Location)
  | text (number : Nat) (ofFile : Bool)
  deriving DecidableEq, Repr

/-- The state of a shell. Variables that are exported are known to the programs it runs; those that
are fixed cannot be changed; `shadowed` holds what variables were before a command of the script's
own made them local, newest first, and is there only within such a command. The line is that of the
script which is being carried out. A trap is what the shell does when a signal comes, or when it
ends, which counts as signal 0. The status of the
last script that was run for its output is kept apart from others; and calls of commands of the
script's own are counted. The background has a status once something was run there; the
killer is the last signal that has ended a process. What is
left of the texts that are read is kept by their numbers. `optionIndex` and `optionOffset` tell which
argument is read for options next, and how much of the one before it is still to be read. The clock
counts the milliseconds that were slept through, and what runs may have a deadline. The programs are
the paths of those that are there besides the files. -/
structure State where
  files : FileTree
  programs : List String
  here : Location
  bindings : Table String String
  exported : List String
  fixed : List String
  shadowed : Option (List (String × Option String))
  name : String
  line : Nat
  arguments : List String
  commands : Table String Command
  traps : Table Nat String
  arrived : List Nat
  status : Nat
  outputStatus : Nat
  calls : Nat
  backgroundStatus : Option Nat
  killer : Option Nat
  loops : Nat
  options : List Char
  optionIndex : Nat
  optionOffset : Option Nat
  clock : Nat
  deadline : Option Nat
  channels : Table Nat Channel
  texts : Table Nat String
  read : String

namespace State

def hasOption (s : State) (letter : Char) : Bool := letter ∈ s.options

/-- Where a descriptor leads; a closed one leads out of sight. -/
def channel (s : State) (descriptor : Nat) : Channel :=
  (s.channels.get? descriptor).getD .unseen

def turned (s : State) (descriptor : Nat) (channel : Channel) : State :=
  { s with channels := s.channels.insert descriptor channel }

def feeding (s : State) (descriptor : Nat) (text : String) (ofFile : Bool) : State :=
  let number := s.texts.keys.foldl max 0 + 1
  ({ s with texts := s.texts.insert number text }).turned descriptor
    (.text number ofFile)

def textOf (s : State) (descriptor : Nat) : String :=
  match s.channel descriptor with
  | .text number _ => (s.texts.get? number).getD ""
  | _ => ""

def input (s : State) : String := s.textOf 0

def withInputLeft (s : State) (left : String) : State :=
  match s.channel 0 with
  | .text number _ => { s with texts := s.texts.insert number left }
  | _ => s

def filesWith (s : State) (paths : List String) : FileTree :=
  (paths.filter (· ∈ s.programs)).foldl (fun files path =>
    match files.locate [] path with
    | .ok place => (files.put place (.file "")).setMode place 0o755
    | .error _ => files) s.files

def messageStart (s : State) : String := s.name ++ ": " ++ toString s.line ++ ": "

end State

def standardSeparators : List Char := [' ', '\t', '\n']

def State.separators (s : State) : List Char :=
  match s.bindings.get? "IFS" with
  | none => standardSeparators
  | some characters => characters.toList

/-- What ends what a shell is doing: the shell itself, so many loops or one round of the
outermost of them, a command that the script defines, or everything that had only so much time. -/
inductive Stop
  | exit (status : Nat)
  | killed (signal : Nat)
  | leave (loops : Nat)
  | again (loops : Nat)
  | back (status : Nat)
  | expired
  deriving DecidableEq, Repr

abbrev Act (α : Type) : Type := EStateM Stop State α

namespace Act

variable {α : Type}

/-- Does something and tells how it ended; what it changed stays changed. -/
def attempt (act : Act α) : Act (Except Stop α) := fun s =>
  match act s with
  | .ok a s => .ok (.ok a) s
  | .error e s => .ok (.error e) s

def resume (result : Except Stop α) : Act α :=
  match result with
  | .ok a => return a
  | .error e => throw e

def send (channel : Channel) (text : String) : Act Unit := modify fun s =>
  match channel with
  | .unseen | .text _ _ => s
  | .reader => { s with read := s.read ++ text }
  | .file place =>
    match s.files.entry? place with
    | some (.file content) => { s with files := s.files.put place (.file (content ++ text)) }
    | _ => s

def emit (descriptor : Nat) (text : String) : Act Unit := do
  send ((← get).channel descriptor) text

def print (text : String) : Act Unit := emit 1 text

def complain (text : String) : Act Unit := emit 2 (text ++ "\n")

def warn (text : String) : Act Unit := do complain ((← get).messageStart ++ text)

def failing (status : Nat) (text : String) : Act Nat := do
  complain text
  return status

def abort {α : Type} (text : String) : Act α := do
  warn text
  throw (.exit 2)

def contained (act : Act Nat) : Act Nat := do
  match ← attempt act with
  | .error (.exit status) => return status
  | result => resume result

/-- Gives a variable a value, which a command of the shell may have asked for; one that is fixed
keeps its own. -/
def assignBy (command : Option String) (name value : String) : Act Unit := do
  if name ∈ (← get).fixed then
    abort ((command.map (· ++ ": ")).getD "" ++ name ++ ": is read only")
  modify fun s =>
    { s with
      bindings := s.bindings.insert name value
      exported := if s.hasOption 'a' then s.exported ++ [name] else s.exported }
  if name = "OPTIND" then
    modify fun s => { s with optionIndex := value.toNat?.getD 1, optionOffset := none }

def assign : String → String → Act Unit := assignBy none

def readAll : Act String := do
  let s ← get
  set (s.withInputLeft "")
  return s.input

def changeFiles (f : FileTree → Location → Except IoError FileTree) : Act (Option IoError) := do
  let s ← get
  match f s.files s.here with
  | .error e => return some e
  | .ok files =>
    set { s with files }
    return none

/-- Does something with another input; what is left of it is lost. -/
def withInput (input : String) (act : Act α) : Act α := do
  let before ← get
  set (before.feeding 0 input false)
  let number := (← get).channel 0
  let a ← act
  modify fun s =>
    { s.turned 0 (before.channel 0) with
      texts := s.texts.filter fun n _ => .text n false ≠ number }
  return a

def capturing (act : Act Unit) : Act String := do
  let before ← get
  set { before.turned 1 .reader with read := "" }
  act
  let written := (← get).read
  modify fun s => { s.turned 1 (before.channel 1) with read := before.read }
  return written

/-- Does something in a shell of its own: only files, signals, what was read and written, and the
status come back. -/
def apart (act : Act Unit) : Act Unit := do
  let before ← get
  let result ← attempt act
  modify fun s =>
    { before with
      files := { s.files with mask := before.files.mask }
      arrived := s.arrived, killer := s.killer, status := s.status, texts := s.texts, read := s.read,
      clock := s.clock }
  match result with
  | .error (.exit status) | .error (.back status) => modify fun s => { s with status }
  | .error (.killed signal) => throw (.killed signal)
  | .error .expired => throw .expired
  | .ok _ | .error (.leave _) | .error (.again _) => return ()

def restore (rows : List (String × Option String)) : Act Unit := modify fun s =>
  { s with
    bindings := rows.foldl (fun table (name, value) =>
      match value with
      | none => table.erase name
      | some value => table.insert name value) s.bindings }

end Act

end StorageBroker.Shell
