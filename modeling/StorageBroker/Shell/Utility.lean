import StorageBroker.Shell.Utility.Comparing
import StorageBroker.Shell.Utility.Digest
import StorageBroker.Shell.Utility.Editing
import StorageBroker.Shell.Utility.Finding
import StorageBroker.Shell.Utility.Numbers
import StorageBroker.Shell.Utility.Records
import StorageBroker.Shell.Utility.Search
import StorageBroker.Shell.Utility.Sorting
import StorageBroker.Shell.Utility.System

/-! # Utilities

The programs that a shell can run, by name. -/

set_option autoImplicit false

namespace StorageBroker.Shell

open Act

/-- Writes its arguments; escapes are carried out only if asked to. -/
def plainEcho : Utility := fun arguments => do
  let isOption (a : String) : Bool :=
    a.startsWith "-" && 1 < a.length && (a.toList.drop 1).all fun c => c ∈ ['n', 'e', 'E']
  let letters := (arguments.takeWhile isOption).flatMap fun a => a.toList.drop 1
  let text := " ".intercalate (arguments.dropWhile isOption)
  let escapes := (letters.filter fun c => c ∈ ['e', 'E']).getLast? = some 'e'
  let (shown, whole) := if escapes then unescape text.toList else (text.toList, true)
  print (String.ofList shown ++ if whole && 'n' ∉ letters then "\n" else "")
  return 0

/-- Writes the same line again and again, as often as anything could read it. -/
def yes : Utility := fun arguments => do
  let line := if arguments.isEmpty then "y" else " ".intercalate arguments
  print (String.join (List.replicate 8192 (line ++ "\n")))
  return 0

def which (isProgram : String → Bool) : Utility := fun arguments => do
  let names := arguments.filter fun a => !a.startsWith "-"
  let statuses ← names.mapM fun name => do
    if isProgram name then
      print ((if name.contains '/' then name else "/usr/bin/" ++ name) ++ "\n")
      return true
    return false
  return if names.isEmpty || statuses.contains false then 1 else 0

/-- The programs that run no others, by name. -/
def utilities : List (String × Utility) :=
  [("true", succeed), ("false", fail), ("echo", plainEcho), ("printf", printf), ("test", test),
   ("[", bracket), ("kill", kill), ("pwd", pwd), ("printenv", printenv), ("sleep", sleep),
   ("sync", succeed), ("yes", yes),
   ("chown", succeed), ("chgrp", succeed), ("chmod", chmod),
   ("rm", rm), ("unlink", unlink), ("mkdir", mkdir), ("rmdir", rmdir), ("touch", touch),
   ("truncate", truncate), ("cp", cp), ("mv", mv), ("ln", ln), ("install", install), ("ls", ls),
   ("readlink", readlink), ("realpath", realpath), ("stat", stat), ("mktemp", mktemp),
   ("basename", basename), ("dirname", dirname),
   ("cat", cat), ("tac", tac), ("rev", rev), ("nl", nl), ("head", head), ("tail", tail),
   ("cut", cut), ("fold", fold), ("expand", expandTabs), ("unexpand", unexpand),
   ("paste", paste), ("tee", tee), ("split", split), ("tr", tr), ("wc", wc),
   ("sort", sort), ("uniq", uniq), ("comm", comm), ("join", joinFiles),
   ("seq", seq), ("expr", expr), ("cmp", cmp), ("diff", diff), ("od", od), ("dd", dd),
   ("base64", base64), ("cksum", cksum), ("md5sum", hashing "md5sum" md5),
   ("sha1sum", hashing "sha1sum" sha1), ("sha256sum", hashing "sha256sum" sha256),
   ("grep", grep), ("egrep", fun arguments => grep ("-E" :: arguments)),
   ("fgrep", fun arguments => grep ("-F" :: arguments))] ++ systemUtilities

def shellNames : List String := ["sh", "dash", "bash"]

def allLaunchers : List (String × Launcher) := 
  ("find", find) :: ("sed", sed) :: ("awk", awk) :: ("mawk", awk) :: launchers

def programNames : List String :=
  "which" :: shellNames ++ utilities.map Prod.fst ++ allLaunchers.map Prod.fst

def programDirectories : List String := ["/usr/bin", "/bin"]

def programAt? (path : String) : Option String :=
  programDirectories.findSome? fun directory =>
    if path.startsWith (directory ++ "/") then
      let name := (path.drop (directory.length + 1)).toString
      if name ∈ programNames then some name else none
    else none

/-- A program: one that there is everywhere, or a script. -/
inductive Program
  | known (name : String)
  | script (path : String) (place : Location)
  deriving DecidableEq, Repr

/-- The program that has a path, or the status of why there is none. -/
def programOfPath (s : State) (path : String) : Except Nat Program :=
  match programAt? path with
  | some name => .ok (.known name)
  | none =>
    match s.files.lookup s.here path with
    | .ok (place, .file _) =>
      if s.files.isExecutable place then .ok (.script path place) else .error 126
    | .ok _ => .error 126
    | .error _ => .error 127

/-- The program that a name stands for: one of a path, or one in the directories that are searched,
with its path. -/
def findProgram (s : State) (name : String) : Except Nat (String × Program) :=
  if name.contains '/' then (programOfPath s name).map fun program => (name, program)
  else
    let directories := ((s.bindings.get? "PATH").getD "").splitOn ":"
    directories.foldl (fun found directory =>
      match found with
      | .ok _ => found
      | .error status =>
        let path := if directory.isEmpty then name else joinPath directory name
        match programOfPath s path with
        | .ok program => .ok (path, program)
        | .error other => .error (if status = 126 || other = 126 && !s.files.leadsToDirectory s.here path
            then 126 else 127)) (.error 127)

end StorageBroker.Shell
