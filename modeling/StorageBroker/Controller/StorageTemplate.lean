/-! # Storage templates

How a controller starts and stops the storages of one kind. -/

set_option autoImplicit false

namespace StorageBroker

/-- A shell command with placeholders, and what is added to the environment that it runs in. -/
structure CommandTemplate where
  command : String
  environment : List (String × String)
  deriving DecidableEq, Repr

/-- The directory above those of the storages, and the commands that start and stop one. -/
structure StorageTemplate where
  workingDirectory : String
  startup : CommandTemplate
  shutdown : CommandTemplate
  deriving DecidableEq, Repr

end StorageBroker
