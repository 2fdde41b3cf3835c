import StorageBroker.Controller.StorageTemplate
import StorageBroker.FileTree
import StorageBroker.Service.Basic
import StorageBroker.Text.Blank

/-! # Daemon configuration

The settings of a daemon, what they are where nothing is said, and the settings that are refused. -/

set_option autoImplicit false

namespace StorageBroker

structure ServerSection where
  listenAddress : String
  workers : Option Nat
  pidFile : Option String
  deriving DecidableEq, Repr

structure TransferSection where
  moverAddress : Option String
  waitMs : Option Nat
  dispatchMs : Option Nat
  deriving DecidableEq, Repr

/-- The controller mode, and how other controllers are reached. Templates are sorted by the names
of the storage kinds. -/
structure ControllerSection where
  listenAddress : String
  port : UInt16
  timeoutMs : Option Nat
  adhoc : List (String × StorageTemplate)
  deriving DecidableEq, Repr

structure LogSection where
  level : String
  file : Option String
  deriving DecidableEq, Repr

structure DaemonConfig where
  server : ServerSection
  transfer : TransferSection
  controller : ControllerSection
  log : LogSection
  deriving DecidableEq, Repr

namespace DaemonConfig

def standard : DaemonConfig where
  server := ⟨"0.0.0.0:52000", none, none⟩
  transfer := ⟨none, none, none⟩
  controller := ⟨"0.0.0.0:52001", 52001, none, []⟩
  log := ⟨"info", none⟩

/-- The settings of the service; an empty address names no data mover. -/
def service (c : DaemonConfig) : ServiceConfig where
  defaultMover := c.transfer.moverAddress.filter fun address => !address.isEmpty
  controllerPort := c.controller.port
  waitMs := c.transfer.waitMs.getD ServiceConfig.standard.waitMs
  dispatchMs := c.transfer.dispatchMs.getD ServiceConfig.standard.dispatchMs
  controllerMs := c.controller.timeoutMs.getD ServiceConfig.standard.controllerMs

end DaemonConfig

/-! ## Refused settings -/

/-- Why settings are refused. -/
inductive ConfigError
  | malformed
  | unknownStorage (name : String)
  | emptyStartup (name : String)
  | emptyShutdown (name : String)
  | noWorkers
  deriving DecidableEq, Repr

def ConfigError.message : ConfigError → String
  | .malformed => "malformed configuration"
  | .unknownStorage name => "unknown ad-hoc storage type `" ++ name ++ "` in [controller.adhoc]"
  | .emptyStartup name => "empty startup command for `" ++ name ++ "`"
  | .emptyShutdown name => "empty shutdown command for `" ++ name ++ "`"
  | .noWorkers => "[server] workers must be at least 1"

def StorageTemplate.complaint? (name : String) (template : StorageTemplate) :
    Option ConfigError :=
  if (AdhocKind.ofName? name).isNone then some (.unknownStorage name)
  else if Text.isBlank template.startup.command then some (.emptyStartup name)
  else if Text.isBlank template.shutdown.command then some (.emptyShutdown name)
  else none

/-- The first thing that is wrong with settings: templates by name, then the workers. -/
def DaemonConfig.complaint? (c : DaemonConfig) : Option ConfigError :=
  (c.controller.adhoc.findSome? fun row => row.2.complaint? row.1) <|>
    if c.server.workers = some 0 then some .noWorkers else none

end StorageBroker
