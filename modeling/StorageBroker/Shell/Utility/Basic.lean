import StorageBroker.Shell.Option
import StorageBroker.Shell.Redirect

/-! # What utilities share

Reasons of failures, operands that are taken one by one, and files whose contents are read. -/

set_option autoImplicit false

namespace StorageBroker.Shell

open Act

def reason : IoError → String
  | .noSuchFile => "No such file or directory"
  | .notADirectory => "Not a directory"
  | .isADirectory => "Is a directory"
  | .fileExists => "File exists"
  | .notEmpty => "Directory not empty"
  | .permissionDenied => "Permission denied"
  | .nameTooLong => "File name too long"
  | .tooManyLinks => "Too many levels of symbolic links"
  | .invalidArgument => "Invalid argument"
  | e => e.text

def misused (command : String) (status : Nat) (message : String) : Act Nat := do
  complain (command ++ ": " ++ message)
  failing status ("Try '" ++ command ++ " --help' for more information.")

/-- Does something for each operand and fails with 1 if any of them failed. -/
def forEach (operands : List String) (act : String → Act (Option String)) : Act Nat :=
  operands.foldlM (fun status operand => do
    match ← act operand with
    | none => return status
    | some message =>
      if !message.isEmpty then complain message
      return 1) 0

def readPath (path : String) : Act (Except IoError String) := do
  let s ← get
  match pathDescriptor? path with
  | some n =>
    match s.channel n with
    | .text number _ =>
      set { s with texts := s.texts.insert number "" }
      return .ok (s.textOf n)
    | _ => return .ok ""
  | none => return s.files.read s.here path

def writesTo (path : String) : Act Bool := do
  let s ← get
  match s.channel 1, s.files.lookup s.here path with
  | .file place, .ok (other, _) => return place = other
  | _, _ => return false

/-- Reads an operand: a path, or a hyphen for the input. -/
def readOperand (operand : String) : Act (Except IoError String) :=
  if operand = "-" then do return .ok (← readAll) else readPath operand

/-- The input, or the contents of the named files one after the other, with their names; `say` tells
why a file cannot be read. -/
def gatherWith (say : String → IoError → String) (failure : Nat) (names : List String) :
    Act (Nat × List (String × String)) := do
  if names.isEmpty then return (0, [("", ← readAll)])
  names.foldlM (fun (status, found) name => do
    match ← readOperand name with
    | .ok content => return (status, found ++ [(name, content)])
    | .error e =>
      complain (say name e)
      return (failure, found)) (0, [])

/-- The input, or the contents of the named files one after the other, with their names. -/
def gather (command : String) (names : List String) : Act (Nat × List (String × String)) :=
  gatherWith (fun name e => command ++ ": " ++ name ++ ": " ++ reason e) 1 names

/-- Writes to the file at a path, or to where a descriptor leads that the path stands for. -/
def writePath (path : String) (append : Bool) (text : String) : Act (Option IoError) := do
  match pathDescriptor? path with
  | some n =>
    emit n text
    return none
  | none =>
    changeFiles fun files here => files.update here path fun before =>
      if append then before ++ text else text

def joinPath (directory name : String) : String :=
  if directory.endsWith "/" then directory ++ name else directory ++ "/" ++ name

def splitPath (path : String) : List Char × List Char :=
  let cs := path.toList.reverse.dropWhile (· = '/')
  let last := cs.takeWhile (· ≠ '/')
  (last.reverse, ((cs.drop last.length).dropWhile (· = '/')).reverse)

def lastName (path : String) : String :=
  let name := (splitPath path).1
  if name.isEmpty && path.startsWith "/" then "/" else String.ofList name

def pathOf (place : Location) : String := "/" ++ "/".intercalate place

end StorageBroker.Shell
