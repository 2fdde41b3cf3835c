import StorageBroker.Text.Decimal

/-! # Options

How the words of a command line are told apart: options with their values, and operands, which
stand alone. Every option takes a value and may be given once. What is given is checked when the
next option or operand is met, so that help that is asked for before that is given. -/

set_option autoImplicit false

namespace StorageBroker

/-- What values an option or an operand takes: any text, a path, which is not empty, or a number. -/
inductive ValueKind
  | text
  | path
  | number
  deriving DecidableEq, Repr

def ValueKind.accepts : ValueKind → String → Bool
  | .text, _ => true
  | .path, value => !value.isEmpty
  | .number, value => (Text.natBelow? UInt64.size value).isSome

/-- An option that takes a value: `-s VALUE`, `-sVALUE`, `--long VALUE` or `--long=VALUE`. -/
structure OptionForm where
  short : Char
  long : String
  kind : ValueKind
  help : String
  fallback? : Option String
  deriving DecidableEq, Repr

/-- Why the words of a command line are not run. -/
inductive ArgumentStop
  | misuse
  | help
  | version
  deriving DecidableEq, Repr

/-- What was met last and has not been checked: an option, with its value if that was met too, or
an operand. -/
inductive Unchecked
  | option (form : OptionForm) (value : Option String)
  | operand (kind : ValueKind) (value : String)
  deriving DecidableEq, Repr

/-- The words of a command line, told apart. -/
structure Arguments where
  values : List (OptionForm × String)
  words : List String
  last : Option Unchecked
  deriving DecidableEq, Repr

/-- What the words of a command line may be: options, operands in their order, subcommands, and
whether the version may be asked for. -/
structure Grammar where
  forms : List OptionForm
  operands : List ValueKind
  commands : List String
  versioned : Bool
  deriving DecidableEq, Repr

namespace Arguments

def none : Arguments := ⟨[], [], .none⟩

def get? (a : Arguments) (long : String) : Option String :=
  (a.values.find? fun row => row.1.long = long).map Prod.snd

def addValue (a : Arguments) (form : OptionForm) (value : String) :
    Except ArgumentStop Arguments :=
  if (a.get? form.long).isSome || !form.kind.accepts value then .error .misuse
  else .ok { a with values := a.values ++ [(form, value)] }

def settle (a : Arguments) : Except ArgumentStop Arguments :=
  let rest : Arguments := { a with last := .none }
  match a.last with
  | .none => .ok a
  | some (.option _ .none) => .error .misuse
  | some (.option form (some value)) => rest.addValue form value
  | some (.operand kind value) =>
    if kind.accepts value then .ok { rest with words := a.words ++ [value] } else .error .misuse

/-- Ends the reading once what was met last is checked. -/
def stop (a : Arguments) (reason : ArgumentStop) : Except ArgumentStop Arguments := do
  let _ ← a.settle
  throw reason

def meetOption (a : Arguments) (form : OptionForm) (attached : Option String) :
    Except ArgumentStop Arguments := do
  let a ← a.settle
  match attached with
  | .none => return { a with last := some (.option form .none) }
  | some value => a.addValue form value

def meetHyphened (g : Grammar) (a : Arguments) (word : String) : Except ArgumentStop Arguments :=
  match word.toList with
  | '-' :: '-' :: long =>
    let name := String.ofList (long.takeWhile (· ≠ '='))
    let attached := match long.dropWhile (· ≠ '=') with
      | [] => Option.none
      | _ :: value => some (String.ofList value)
    if name = "help" then a.stop (if attached.isSome then .misuse else .help)
    else if g.versioned && name = "version" then
      a.stop (if attached.isSome then .misuse else .version)
    else match g.forms.find? fun form => form.long = name with
      | .none => .error .misuse
      | some form => a.meetOption form attached
  | '-' :: letter :: attached =>
    if letter = 'h' then a.stop .help
    else if g.versioned && letter = 'V' then a.stop .version
    else match g.forms.find? fun form => form.short = letter with
      | .none => .error .misuse
      | some form =>
        a.meetOption form <| match attached with
          | [] => Option.none
          | '=' :: value => some (String.ofList value)
          | value => some (String.ofList value)
  | _ => .error .misuse

def meetOperand (g : Grammar) (a : Arguments) (word : String) : Except ArgumentStop Arguments := do
  let a ← a.settle
  match g.operands[a.words.length]? with
  | .none => throw .misuse
  | some kind => return { a with last := some (.operand kind word) }

def meetOperands (g : Grammar) (a : Arguments) (words : List String) :
    Except ArgumentStop Arguments := words.foldlM (meetOperand g) a

def looksLikeOption (word : String) : Bool := word.startsWith "-" && word ≠ "-"

def read (g : Grammar) : Arguments → List String →
    Except ArgumentStop (Arguments × Option (String × List String))
  | a, [] => .ok (a, .none)
  | a, word :: rest =>
    let waits : Option OptionForm := match a.last with
      | some (.option form .none) => some form
      | _ => .none
    if waits.isNone && word ∈ g.commands then .ok (a, some (word, rest))
    else if word = "--" then (a.meetOperands g rest).map fun a => (a, .none)
    else if looksLikeOption word then
      match a.meetHyphened g word with
      | .error e => .error e
      | .ok a => read g a rest
    else
      match waits with
      | some form => read g { a with last := some (.option form (some word)) } rest
      | .none =>
        match a.meetOperand g word with
        | .error e => .error e
        | .ok a => read g a rest

end Arguments

end StorageBroker
