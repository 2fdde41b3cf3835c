import StorageBroker.CommandLine.Help
import StorageBroker.Controller.Basic
import StorageBroker.Daemon.LogFilter
import StorageBroker.Daemon.Settings
import StorageBroker.Net.Client
import StorageBroker.Service.Serving

/-! # Launching

From a command line to what it comes to: an end, a question to a running daemon, or a daemon that
serves. The settings are loaded first whatever is to be done; a daemon then sets up its log, takes
its address, and writes its process number. -/

set_option autoImplicit false

namespace StorageBroker

/-- What a launch finds: files, the directory it is in, the usual place of the settings, variables,
which addresses can be listened on, and its process number. -/
structure Surroundings where
  files : FileTree
  here : Location
  usualConfig : String
  environment : List (String × String)
  listen : String → Except IoError SocketAddress
  processId : Nat

/-- What a failed command tells: what could not be done, and why, from the outside in. -/
structure Failure where
  context : String
  causes : List String
  deriving DecidableEq, Repr

/-- The text of a failure. Several causes are numbered. -/
def Failure.text (f : Failure) : String :=
  let causes := match f.causes with
    | [] => ""
    | [cause] => "\nCaused by:\n    " ++ cause ++ "\n"
    | causes => "\nCaused by:\n" ++ String.join (causes.zipIdx.map fun (cause, n) =>
      "    " ++ toString n ++ ": " ++ cause ++ "\n")
  "Error: " ++ f.context ++ "\n" ++ causes

def NetError.causes (e : NetError) : List String :=
  match e with
  | .io cause => [e.message, cause.text]
  | _ => [e.message]

/-- How a command ends: its exit code, and what it wrote. -/
structure Exit where
  code : Nat
  out : String
  err : String
  deriving DecidableEq, Repr

namespace Exit

def success (out : String) : Exit := ⟨0, out, ""⟩

def failure (context : String) (causes : List String) : Exit :=
  ⟨1, "", Failure.text ⟨context, causes⟩⟩

end Exit

inductive Role
  | service (config : ServiceConfig)
  | controller (controller : Controller)

/-- A daemon: its role and address, and the file with its process number. -/
structure Daemon where
  role : Role
  address : String
  pidFile : Option String

/-- What a launch comes to: an end, a question whose answer decides the end once it is known how
long the answer took, or a daemon that serves; with the files after it and what was written. -/
inductive Launched
  | exited (exit : Exit) (files : FileTree)
  | asking (server : String) (request : Request)
      (answered : String → Except NetError Response → Exit)
  | serving (daemon : Daemon) (files : FileTree) (out err : String)

namespace Launch

/-! ## Asking a daemon -/

def pinged (server elapsed : String) (answer : Except NetError Response) : Exit :=
  match answer.bind Response.outcome with
  | .error e => .failure ("ping " ++ server ++ " failed") e.causes
  | .ok _ => .success (server ++ ": alive (" ++ elapsed ++ " ms)\n")

def queried (server : String) (slurmId : UInt64) (answer : Except NetError Response) : Exit :=
  match answer.bind Response.outcome with
  | .error e => .failure ("query for slurm job " ++ toString slurmId ++ " failed") e.causes
  | .ok (.jobInfo info) =>
    let address := if info.controllerAddress.isEmpty then "-" else info.controllerAddress
    .success ("job:                " ++ toString info.jobId ++ "\nadhoc controller:   " ++ address ++
      "\nio procs:           " ++ toString info.ioProcs ++ "\n")
  | .ok other => .failure ("unexpected reply from " ++ server ++ ": " ++ Form.form other) []

/-! ## Serving -/

/-- How log lines are treated: whether informative ones are logged, and to which file if not to the
output; with the text that says which parts of the filter were passed over. -/
structure Log where
  informs : Bool
  file : Option String
  ignored : String

/-- What a daemon tells when it starts: a line, and the fields that it has. -/
structure Greeting where
  line : String
  fields : List String

def Greeting.service : Greeting where
  line := "starting reefd"
  fields :=
    ["listen_addr", "workers", "mover", "controller_port", "wait_timeout_ms",
     "dispatch_timeout_ms", "controller_timeout_ms", "message"]

def Greeting.controller : Greeting where
  line := "starting ad-hoc storage controller"
  fields := ["listen_addr", "types", "message"]

/-- The log of a daemon. A filter in the environment counts if all of it can be read, else what can
be read of the level in the settings. -/
def logOf (s : Surroundings) (settings : LogSection) (greeting : Greeting) : Log :=
  let fromEnvironment := (s.environment.lookup "RUST_LOG").bind LogFilter.ofText?
  let (filter, ignored) := match fromEnvironment with
    | some filter => (filter, [])
    | none => LogFilter.ofTextInPart settings.level
  { informs := filter.shows "reefd" greeting.fields 3
    file := settings.file
    ignored := String.join (ignored.map fun (piece, e) =>
      "ignoring `" ++ piece ++ "`: " ++ e.message ++ "\n") }

/-- Logs an informative line: the output and the files after it. -/
def inform (log : Log) (files : FileTree) (here : Location) (line : String) :
    String × FileTree :=
  let line := if log.informs then line ++ "\n" else ""
  match log.file with
  | none => (line, files)
  | some path => ("", (files.update here path (· ++ line)).toOption.getD files)

def openLog (s : Surroundings) (log : Log) : Except (String × IoError) FileTree :=
  match log.file with
  | none => .ok s.files
  | some path => (s.files.update s.here path id).mapError fun e => (path, e)

def writePid (s : Surroundings) (daemon : Daemon) (files : FileTree) :
    Except (String × IoError) FileTree :=
  match daemon.pidFile with
  | none => .ok files
  | some path =>
    (files.update s.here path fun _ => toString s.processId ++ "\n").mapError fun e => (path, e)

/-- Brings a daemon up: its log, its address, and the file with its process number. -/
def serve (s : Surroundings) (settings : LogSection) (greeting : Greeting) (daemon : Daemon) :
    Launched :=
  let log := logOf s settings greeting
  match openLog s log with
  | .error (path, e) =>
    let exit := Exit.failure ("cannot open log file " ++ path) [e.text]
    .exited { exit with err := log.ignored ++ exit.err } s.files
  | .ok files =>
    let (out, files) := inform log files s.here greeting.line
    match s.listen daemon.address with
    | .error e =>
      let exit := Exit.failure ("failed to bind " ++ daemon.address) (NetError.io e).causes
      .exited { exit with out := out, err := log.ignored ++ exit.err } files
    | .ok _ =>
      match writePid s daemon files with
      | .error (path, e) =>
        let exit := Exit.failure ("cannot write pidfile " ++ path) [e.text]
        .exited { exit with out := out, err := log.ignored ++ exit.err } files
      | .ok files => .serving daemon files out log.ignored

/-- Serves the service; what the command line says counts before the settings. -/
def start (s : Surroundings) (config : DaemonConfig) (listenAddress : Option String)
    (workers : Option Nat) (moverAddress pidFile : Option String) : Launched :=
  if workers = some 0 then .exited (.failure "--workers must be at least 1" []) s.files
  else
    let mover := moverAddress <|> config.transfer.moverAddress
    let config := { config with transfer := { config.transfer with moverAddress := mover } }
    serve s config.log .service {
      role := .service config.service
      address := listenAddress.getD config.server.listenAddress
      pidFile := pidFile <|> config.server.pidFile }

def controller (s : Surroundings) (config : DaemonConfig) (listenAddress : Option String) :
    Launched :=
  serve s config.log .controller {
    role := .controller (.ofSection config.controller.adhoc)
    address := listenAddress.getD config.controller.listenAddress
    pidFile := none }

/-- The paths that a launch looks at: the settings, and what they and the command line name. -/
def paths (s : Surroundings) (arguments : List String) : List String :=
  match Invocation.ofArguments s.environment arguments with
  | .error _ => []
  | .ok invocation =>
    let named := match DaemonConfig.load s.files s.here s.usualConfig invocation.config with
      | .error _ => []
      | .ok config => config.log.file.toList ++ config.server.pidFile.toList
    let given := match invocation.task with
      | .start _ _ _ pidFile => pidFile.toList
      | _ => []
    invocation.config.getD s.usualConfig :: named ++ given

end Launch

def launch (s : Surroundings) (arguments : List String) : Launched :=
  match Invocation.ofArguments s.environment arguments with
  | .error (.misuse, topic) =>
    .exited ⟨2, "", "error: usage\n\n" ++ Help.text s.environment topic⟩ s.files
  | .error (.help, topic) => .exited (.success (Help.text s.environment topic)) s.files
  | .error (.version, _) => .exited (.success Help.version) s.files
  | .ok invocation =>
    match DaemonConfig.load s.files s.here s.usualConfig invocation.config with
    | .error e => .exited (.failure "failed to load config" e.messages) s.files
    | .ok config =>
      match invocation.task with
      | .ping server => .asking server .ping (Launch.pinged server)
      | .query server slurmId =>
        .asking server (.query slurmId) fun _ => Launch.queried server slurmId
      | .start listenAddress workers moverAddress pidFile =>
        Launch.start s config listenAddress workers moverAddress pidFile
      | .controller listenAddress => Launch.controller s config listenAddress

namespace Daemon

def answers (daemon : Daemon) (network : Network) (files : FileTree) (here : Location)
    (requests : List Request) : List (Except NetError Response) :=
  match network.connect daemon.address with
  | .error e => requests.map fun _ => .error (.io e)
  | .ok _ =>
    let responses := match daemon.role with
      | .service config => Server.answers Serving.handle (.fresh config) requests
      | .controller c => Server.answers (c.handle here) files requests
    responses.map .ok

/-- The files once a daemon has gone: the one with its process number is removed. -/
def leave (daemon : Daemon) (files : FileTree) (here : Location) : FileTree :=
  match daemon.pidFile with
  | none => files
  | some path =>
    match files.locate here path with
    | .error _ => files
    | .ok place => files.drop place

end Daemon

end StorageBroker
