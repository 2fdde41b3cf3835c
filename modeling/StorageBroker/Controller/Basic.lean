import StorageBroker.Controller.StorageTemplate
import StorageBroker.Controller.Template
import StorageBroker.Message.Reply
import StorageBroker.Message.Request
import StorageBroker.Shell.Run

/-! # Controllers

A controller starts and stops storages by running the commands that are configured for their kind.
Each storage has a directory of its own, named for its number, which is made before it is started
and reported as its mount path. -/

set_option autoImplicit false

namespace StorageBroker

/-- Why a storage could not be started or stopped. -/
inductive ControllerError
  | unsupported (kind : AdhocKind)
  | noDirectory (path : String) (e : IoError)
  | notRun (command : String) (e : IoError)
  | failed (command : String) (status : ExitStatus)
  deriving DecidableEq, Repr

namespace ControllerError

def code : ControllerError → StatusCode
  | .unsupported _ => .badArguments
  | .noDirectory _ _ | .notRun _ _ | .failed _ _ => .undetermined

def message : ControllerError → String
  | .unsupported kind => s!"ad-hoc storage type {kind} is not supported by this controller"
  | .noDirectory path e => "cannot create " ++ path ++ ": " ++ e.text
  | .notRun command e => "cannot run `" ++ command ++ "`: " ++ e.text
  | .failed command status => "`" ++ command ++ "` failed: " ++ status.text

end ControllerError

structure Controller where
  templates : Table AdhocKind StorageTemplate

namespace Controller

def ofSection (templates : List (String × StorageTemplate)) : Controller :=
  ⟨templates.foldl (fun table row =>
    match AdhocKind.ofName? row.1 with
    | none => table
    | some kind => table.insert kind row.2) .empty⟩

def instanceDirectory (template : StorageTemplate) (adhoc : AdhocId) : String :=
  let above := template.workingDirectory
  above ++ (if above.isEmpty || above.endsWith "/" then "" else "/") ++ toString adhoc

/-- Why a command cannot be run whatever it says: a program takes no text with a NUL in it, and none
of 128 KiB or more. -/
def obstacle? (text : String) (environment : List (String × String)) : Option IoError :=
  let settings := environment.map fun row => row.1 ++ "=" ++ row.2
  if (text :: settings).any fun s => s.contains '\x00' then some .nulInArgument
  else if (text :: settings).any fun s => 131072 ≤ s.utf8ByteSize then some .argumentsTooLong
  else none

def runCommand (files : FileTree) (here : Location) (command : CommandTemplate)
    (adhoc : AdhocId) (directory : String) (nodes : List Node) :
    Except ControllerError Unit × FileTree :=
  let text := expandTemplate command.command adhoc directory nodes
  match obstacle? text command.environment with
  | some e => (.error (.notRun text e), files)
  | none =>
    let (status, files) := Shell.execute files here command.environment text
    (if status.succeeded then .ok () else .error (.failed text status), files)

def deploy (c : Controller) (files : FileTree) (here : Location) (adhoc : AdhocId)
    (kind : AdhocKind) (nodes : List Node) : Except ControllerError String × FileTree :=
  match c.templates.get? kind with
  | none => (.error (.unsupported kind), files)
  | some template =>
    let directory := instanceDirectory template adhoc
    match files.makeDirectories here directory with
    | .error e => (.error (.noDirectory directory e), files)
    | .ok files =>
      let (result, files) := runCommand files here template.startup adhoc directory nodes
      (result.map fun _ => directory, files)

def terminate (c : Controller) (files : FileTree) (here : Location) (adhoc : AdhocId)
    (kind : AdhocKind) (nodes : List Node) : Except ControllerError Unit × FileTree :=
  match c.templates.get? kind with
  | none => (.error (.unsupported kind), files)
  | some template =>
    runCommand files here template.shutdown adhoc (instanceDirectory template adhoc) nodes

def respond (result : Except ControllerError Reply) : Response :=
  match result with
  | .ok reply => .ok reply
  | .error e => .error e.code e.message

def handle (c : Controller) (here : Location) (files : FileTree) :
    Request → Response × FileTree
  | .ping => (.ok .empty, files)
  | .adhocDeploy adhoc kind _ resources =>
    let (result, files) := c.deploy files here adhoc kind resources.nodes
    (respond (result.map .mountPath), files)
  | .adhocTerminate adhoc kind resources =>
    let (result, files) := c.terminate files here adhoc kind resources.nodes
    (respond (result.map fun _ => .empty), files)
  | other => (.error .badArguments (other.name ++ " is not served by a controller"), files)

/-- Answers requests one after the other: each response, and the files after it. -/
def handleAll (c : Controller) (here : Location) (files : FileTree) :
    List Request → List (Response × FileTree)
  | [] => []
  | request :: rest =>
    let (response, files) := c.handle here files request
    (response, files) :: c.handleAll here files rest

end Controller

end StorageBroker
