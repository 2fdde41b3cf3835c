import StorageBroker.CommandLine.Options
import StorageBroker.Text.Decimal

/-! # Invocations

What the command line asks for: to serve, to run as a controller, to check a daemon, or to look a
job up. Values that are not given may come from the environment. -/

set_option autoImplicit false

namespace StorageBroker

inductive Task
  | start (listenAddress : Option String) (workers : Option Nat) (moverAddress : Option String)
      (pidFile : Option String)
  | controller (listenAddress : Option String)
  | ping (server : String)
  | query (server : String) (slurmId : UInt64)
  deriving DecidableEq, Repr

structure Invocation where
  config : Option String
  task : Task
  deriving DecidableEq, Repr

inductive Subcommand
  | start
  | controller
  | ping
  | query
  deriving DecidableEq, Repr

namespace Subcommand

def all : List Subcommand := [.start, .controller, .ping, .query]

def name : Subcommand → String
  | .start => "start"
  | .controller => "controller"
  | .ping => "ping"
  | .query => "query"

def help : Subcommand → String
  | .start => "Serve the reef API"
  | .controller => "Run as an ad-hoc storage controller"
  | .ping => "Check that a daemon answers"
  | .query => "Look a job up by its scheduler id"

def configForm : OptionForm := ⟨'c', "config", .path, "Path to TOML config file", none⟩

def serverForm : OptionForm :=
  ⟨'s', "server", .text, "Daemon address (`host:port`)", some "REEF_SERVER"⟩

def forms : Subcommand → List OptionForm
  | .start =>
    [⟨'l', "listen-addr", .text, "Override the listen address (e.g. \"127.0.0.1:52000\")", none⟩,
     ⟨'w', "workers", .number, "Override the number of runtime worker threads", none⟩,
     ⟨'m', "mover-address", .text, "Default data mover address", some "REEF_MOVER_ADDRESS"⟩,
     ⟨'p', "pidfile", .path, "Write the daemon's pid to this file", none⟩]
  | .controller =>
    [⟨'l', "listen-addr", .text, "Override the controller listen address", none⟩]
  | .ping | .query => [serverForm]

def operands : Subcommand → List ValueKind
  | .query => [.number]
  | _ => []

def grammar (command : Subcommand) : Grammar :=
  ⟨configForm :: command.forms, command.operands, [], false⟩

end Subcommand

/-- What help can be about: the whole program, a subcommand, or help itself. -/
inductive HelpTopic
  | overview
  | command (of : Subcommand)
  | help
  deriving DecidableEq, Repr

namespace Invocation

def frontGrammar : Grammar :=
  ⟨[Subcommand.configForm], [], Subcommand.all.map Subcommand.name ++ ["help"], true⟩

def topic? : List String → Option HelpTopic
  | [] => some .overview
  | ["help"] => some .help
  | [word] => (Subcommand.all.find? fun command => command.name = word).map .command
  | _ => none

def valueOf (environment : List (String × String)) (a : Arguments) (long : String)
    (forms : List OptionForm) : Option String :=
  a.get? long <|> do
    let form ← forms.find? fun form => form.long = long
    environment.lookup (← form.fallback?)

def taskOf (environment : List (String × String)) (command : Subcommand) (a : Arguments) :
    Option Task :=
  let value (long : String) : Option String := valueOf environment a long command.forms
  match command, a.words with
  | .start, [] =>
    match a.get? "workers" with
    | none => some (.start (value "listen-addr") none (value "mover-address") (value "pidfile"))
    | some written =>
      (Text.natBelow? UInt64.size written).map fun n =>
        .start (value "listen-addr") (some n) (value "mover-address") (value "pidfile")
  | .controller, [] => some (.controller (value "listen-addr"))
  | .ping, [] => (value "server").map .ping
  | .query, [written] => do
    let server ← value "server"
    let n ← Text.natBelow? UInt64.size written
    return .query server (UInt64.ofNat n)
  | _, _ => none

/-- Reads a command line without the program's name. A configuration that is named after the
subcommand counts before one that is named in front of it. -/
def ofArguments (environment : List (String × String)) (arguments : List String) :
    Except (ArgumentStop × HelpTopic) Invocation :=
  match Arguments.read frontGrammar .none arguments with
  | .error reason => .error (reason, .overview)
  | .ok (_, none) => .error (.misuse, .overview)
  | .ok (front, some (word, rest)) =>
    match Subcommand.all.find? fun command => command.name = word with
    | none =>
      match topic? rest with
      | none => .error (.misuse, .overview)
      | some topic => .error (.help, topic)
    | some command =>
      let about (reason : ArgumentStop) : ArgumentStop × HelpTopic := (reason, .command command)
      let back := (Arguments.read command.grammar .none rest).bind fun (back, _) => back.settle
      match back, front.settle with
      | .error reason, _ => .error (about reason)
      | .ok _, .error reason => .error (reason, .overview)
      | .ok back, .ok front =>
        match taskOf environment command back with
        | none => .error (about .misuse)
        | some task => .ok ⟨back.get? "config" <|> front.get? "config", task⟩

end Invocation

end StorageBroker
