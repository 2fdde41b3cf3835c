import StorageBroker.Daemon.Config
import StorageBroker.Toml.Document

/-! # Settings as text

How the settings of a daemon are read from a configuration text and from a file. Unknown keys are
passed over. A section may also be written as an array of its fields in their order. -/

set_option autoImplicit false

namespace StorageBroker

open Toml

/-- The fields of a section: by name, or by place. -/
inductive Fields
  | named (rows : Rows)
  | placed (items : List Value)

namespace Fields

/-- The fields that a value gives; a date is an object without any known field. -/
def ofValue? : Value → Option Fields
  | .table _ rows => some (.named rows)
  | .array items => some (.placed items)
  | .tables all => some (.placed (all.map (.table .header)))
  | .date _ => some (.named [])
  | _ => none

def get? (fields : Fields) (place : Nat) (name : String) : Option Value :=
  match fields with
  | .named rows => rows.get? name
  | .placed items => items[place]?

variable {α : Type}

def optional (fields : Fields) (place : Nat) (name : String) (read : Value → Option α) :
    Option (Option α) :=
  match fields.get? place name with
  | none => some none
  | some value => (read value).map some

def getD (fields : Fields) (place : Nat) (name : String) (read : Value → Option α)
    (absent : α) : Option α :=
  (fields.optional place name read).map fun found => found.getD absent

def required (fields : Fields) (place : Nat) (name : String) (read : Value → Option α) :
    Option α :=
  (fields.get? place name).bind read

end Fields

/-! ## Values of fields -/

def textOf? : Value → Option String
  | .string s => some s
  | _ => none

def natOf? : Value → Option Nat
  | .integer i => if 0 ≤ i then some i.toNat else none
  | _ => none

def portOf? (v : Value) : Option UInt16 :=
  ((natOf? v).filter (· < UInt16.size)).map UInt16.ofNat

/-- The key that the text of a date is under where a date stands for a table. -/
def dateKey : String := "$__toml_private_datetime"

def mapOf? {α : Type} (read : Value → Option α) : Value → Option (List (String × α))
  | .table _ rows => rows.mapM fun row => (read row.2).map fun a => (row.1, a)
  | .date text => (read (.string text)).map fun a => [(dateKey, a)]
  | _ => none

/-! ## Sections -/

def commandOf? (v : Value) : Option CommandTemplate := do
  let fields ← Fields.ofValue? v
  return {
    command := ← fields.required 0 "command" textOf?
    environment := ← fields.getD 1 "environment" (mapOf? textOf?) [] }

def storageTemplateOf? (v : Value) : Option StorageTemplate := do
  let fields ← Fields.ofValue? v
  return {
    workingDirectory := ← fields.required 0 "working_directory" textOf?
    startup := ← fields.required 1 "startup" commandOf?
    shutdown := ← fields.required 2 "shutdown" commandOf? }

def serverOf? (v : Value) : Option ServerSection := do
  let fields ← Fields.ofValue? v
  return {
    listenAddress :=
      ← fields.getD 0 "listen_addr" textOf? DaemonConfig.standard.server.listenAddress
    workers := ← fields.optional 1 "workers" natOf?
    pidFile := ← fields.optional 2 "pidfile" textOf? }

def transferOf? (v : Value) : Option TransferSection := do
  let fields ← Fields.ofValue? v
  return {
    moverAddress := ← fields.optional 0 "mover_address" textOf?
    waitMs := ← fields.optional 1 "wait_timeout_ms" natOf?
    dispatchMs := ← fields.optional 2 "dispatch_timeout_ms" natOf? }

def controllerOf? (v : Value) : Option ControllerSection := do
  let fields ← Fields.ofValue? v
  let adhoc ← fields.getD 3 "adhoc" (mapOf? storageTemplateOf?) []
  return {
    listenAddress :=
      ← fields.getD 0 "listen_addr" textOf? DaemonConfig.standard.controller.listenAddress
    port := ← fields.getD 1 "port" portOf? DaemonConfig.standard.controller.port
    timeoutMs := ← fields.optional 2 "timeout_ms" natOf?
    adhoc := adhoc.mergeSort fun a b => a.1 ≤ b.1 }

def logOf? (v : Value) : Option LogSection := do
  let fields ← Fields.ofValue? v
  return {
    level := ← fields.getD 0 "level" textOf? DaemonConfig.standard.log.level
    file := ← fields.optional 1 "file" textOf? }

namespace DaemonConfig

def ofRows? (rows : Rows) : Option DaemonConfig := do
  let fields : Fields := .named rows
  return {
    server := ← fields.getD 0 "server" serverOf? standard.server
    transfer := ← fields.getD 1 "transfer" transferOf? standard.transfer
    controller := ← fields.getD 2 "controller" controllerOf? standard.controller
    log := ← fields.getD 3 "log" logOf? standard.log }

def ofText (s : String) : Except ConfigError DaemonConfig :=
  match (Toml.read? s).bind ofRows? with
  | none => .error .malformed
  | some config =>
    match config.complaint? with
    | some e => .error e
    | none => .ok config

end DaemonConfig

/-! ## Files -/

/-- Why settings cannot be loaded. -/
inductive LoadError
  | unreadable (path : String) (e : IoError)
  | invalid (path : String) (e : ConfigError)
  deriving DecidableEq, Repr

def LoadError.messages : LoadError → List String
  | .unreadable path e => ["cannot read " ++ path, e.text]
  | .invalid path e => ["invalid " ++ path, e.message]

def DaemonConfig.ofFile (files : FileTree) (here : Location) (path : String) :
    Except LoadError DaemonConfig :=
  match files.read here path with
  | .error e => .error (.unreadable path e)
  | .ok content => (ofText content).mapError (.invalid path)

/-- Loads the settings from the named file, else from the usual one if it is there, else those
where nothing is said. -/
def DaemonConfig.load (files : FileTree) (here : Location) (usual : String)
    (path : Option String) : Except LoadError DaemonConfig :=
  match path with
  | some path => ofFile files here path
  | none =>
    match files.lookup here usual with
    | .ok _ => ofFile files here usual
    | .error _ => .ok standard

end StorageBroker
