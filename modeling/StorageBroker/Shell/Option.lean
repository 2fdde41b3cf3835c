import StorageBroker.Shell.State

/-! # Options of commands

How the arguments of a command are told apart: options are letters after a hyphen or names after
two, some take a value, and what else there is are operands. -/

set_option autoImplicit false

namespace StorageBroker.Shell

/-- A command: from its arguments to its status. -/
abbrev Utility : Type := List String → Act Nat

/-- The options that a command knows: letters alone, letters with a value, letters that may have a
value next to them, and names for some of the letters. Whether options may come after operands is
the command's choice. -/
structure OptionTable where
  plain : String
  valued : String
  optional : String
  names : List (String × Char)
  anywhere : Bool

structure Given where
  options : List (Char × String)
  operands : List String

/-- Why the options of a command cannot be read. -/
inductive OptionFault
  | unknown (letter : Char)
  | noValue (letter : Char)
  | unknownName (name : String)
  | ambiguousName (name : String)
  | noNamedValue (name : String)
  | needlessValue (name : String)
  deriving DecidableEq, Repr

def OptionFault.message : OptionFault → String
  | .unknown letter => "invalid option -- '" ++ letter.toString ++ "'"
  | .noValue letter => "option requires an argument -- '" ++ letter.toString ++ "'"
  | .unknownName name => "unrecognized option '--" ++ name ++ "'"
  | .ambiguousName name => "option '--" ++ name ++ "' is ambiguous"
  | .noNamedValue name => "option '--" ++ name ++ "' requires an argument"
  | .needlessValue name => "option '--" ++ name ++ "' doesn't allow an argument"

namespace Given

def has (g : Given) (letter : Char) : Bool := g.options.any fun row => row.1 = letter

def hasAny (g : Given) (letters : String) : Bool := g.options.any fun row => row.1 ∈ letters.toList

def values (g : Given) (letter : Char) : List String :=
  g.options.filterMap fun row => if row.1 = letter then some row.2 else none

def value? (g : Given) (letter : Char) : Option String := (g.values letter).getLast?

def lastOf (g : Given) (letters : String) : Option Char :=
  (g.options.reverse.find? fun row => row.1 ∈ letters.toList).map Prod.fst

end Given

def cutAtEquals (word : String) : String × Option String :=
  let name := word.toList.takeWhile (· ≠ '=')
  (String.ofList name,
    if name.length < word.length then some (word.drop (name.length + 1)).toString else none)

namespace OptionTable

def ofLetters (letters : String) : OptionTable := ⟨letters, "", "", [], true⟩

/-- The options in the letters of one argument, and the arguments after it that are not their
values. -/
def cluster (t : OptionTable) (rest : List String) :
    List Char → Except OptionFault (List (Char × String) × List String)
  | [] => .ok ([], rest)
  | c :: more =>
    if c ∈ t.valued.toList then
      match more, rest with
      | [], [] => .error (.noValue c)
      | [], value :: after => .ok ([(c, value)], after)
      | _, _ => .ok ([(c, String.ofList more)], rest)
    else if c ∈ t.optional.toList then .ok ([(c, String.ofList more)], rest)
    else if c ∈ t.plain.toList then do
      let (options, after) ← t.cluster rest more
      return ((c, "") :: options, after)
    else .error (.unknown c)

/-- The letter that a name stands for; the name may be cut short if that leaves no doubt. -/
def letterOf (t : OptionTable) (name : String) : Except OptionFault Char :=
  match t.names.lookup name with
  | some c => .ok c
  | none =>
    match (t.names.filter fun row => row.1.startsWith name).map Prod.snd with
    | [] => .error (.unknownName name)
    | c :: others => if others.all (· = c) then .ok c else .error (.ambiguousName name)

/-- The option that a name and what stands with it give, and the arguments that are left. -/
def named (t : OptionTable) (word : String) (rest : List String) :
    Except OptionFault ((Char × String) × List String) := do
  let (name, value) := cutAtEquals word
  let c ← t.letterOf name
  match value, rest with
  | some value, _ =>
    if c ∈ t.plain.toList then throw (.needlessValue name) else return ((c, value), rest)
  | none, _ =>
    if c ∈ t.valued.toList then
      match rest with
      | [] => throw (.noNamedValue name)
      | value :: after => return ((c, value), after)
    else return ((c, ""), rest)

def readFrom (t : OptionTable) : Nat → List String → Except OptionFault Given
  | 0, rest => .ok ⟨[], rest⟩
  | _ + 1, [] => .ok ⟨[], []⟩
  | fuel + 1, a :: rest => do
    if a = "--" then return ⟨[], rest⟩
    if a.startsWith "--" then
      let (option, after) ← t.named (a.drop 2).toString rest
      let more ← t.readFrom fuel after
      return { more with options := option :: more.options }
    if a.startsWith "-" && a ≠ "-" then
      let (options, after) ← t.cluster rest (a.toList.drop 1)
      let more ← t.readFrom fuel after
      return { more with options := options ++ more.options }
    if !t.anywhere then return ⟨[], a :: rest⟩
    let more ← t.readFrom fuel rest
    return { more with operands := a :: more.operands }

def read (t : OptionTable) (arguments : List String) : Except OptionFault Given :=
  t.readFrom (arguments.length + 1) arguments

/-- Makes a command of what is done with its options; if they cannot be read, it fails with a
status. -/
def command (t : OptionTable) (name : String) (status : Nat) (act : Given → Act Nat) : Utility :=
    fun arguments => do
  match t.read arguments with
  | .ok given => act given
  | .error fault =>
    Act.complain (name ++ ": " ++ fault.message)
    Act.failing status ("Try '" ++ name ++ " --help' for more information.")

end OptionTable

end StorageBroker.Shell
