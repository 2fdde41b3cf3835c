import StorageBroker.FileTree

/-! # The disk

File trees and the disk: parts of the disk are read into a tree, and what has become of a tree is
written back. -/

set_option autoImplicit false

namespace StorageBroker.Disk

def path (place : Location) : String := "/" ++ "/".intercalate place

def place (path : String) : Location := (path.splitOn "/").filter fun name => !name.isEmpty

def passed (here : Location) (path : String) : List Location :=
  let start := if path.startsWith "/" then [] else here
  let step (places : List Location) (name : String) : List Location :=
    let last := places.headD start
    (if name = ".." then last.dropLast else if name = "." then last else last ++ [name]) :: places
  ((Disk.place path).foldl step []).reverse

/-- Reads what a location holds into a tree. What is neither a directory nor a text file is left
out. -/
def look (t : FileTree) (place : Location) : IO FileTree := do
  let file := (← IO.currentDir) / path place
  if ← file.isDir then return t.put place .directory
  match ← (IO.FS.readFile file).toBaseIO with
  | .ok content => return t.put place (.file content)
  | .error _ => return t

/-- Reads what a path passes through from a directory into a tree. -/
def lookAlong (t : FileTree) (here : Location) (path : String) : IO FileTree :=
  (passed here path).foldlM look t

/-- Reads what a location holds into a tree, and what is below it, at most so many levels down. -/
def lookBelow : (levels : Nat) → FileTree → Location → IO FileTree
  | 0, t, _ => return t
  | levels + 1, t, place => do
    let t ← look t place
    if t.isDirectory place then
      let entries ← ((← IO.currentDir) / path place).readDir
      entries.toList.foldlM (fun t entry => lookBelow levels t (place ++ [entry.fileName])) t
    else return t

def access (digit : Nat) : IO.AccessRight where
  read := 4 ≤ digit % 8
  write := 2 ≤ digit % 4
  execution := digit % 2 = 1

/-- Writes the difference between two trees: what is gone is removed, the deepest first, and what
is new or changed is written, directories before what is in them, and then the permissions that were
set. Links are not written. -/
def commit (before after : FileTree) : IO Unit := do
  let here ← IO.currentDir
  for (place, entry) in before.entries.rows.reverse do
    unless (after.entries.get? place).isSome do
      match entry with
      | .directory => IO.FS.removeDir (here / path place)
      | _ => IO.FS.removeFile (here / path place)
  for (place, entry) in after.entries.rows do
    unless before.entries.get? place = some entry do
      match entry with
      | .directory => IO.FS.createDirAll (here / path place)
      | .file content => IO.FS.writeFile (here / path place) content
      | _ => pure ()
  for (place, mode) in after.modes.rows do
    unless before.modes.get? place = some mode do
      let rights : IO.FileRight := ⟨access (mode / 64), access (mode / 8), access mode⟩
      IO.setAccessRights (here / path place) rights

end StorageBroker.Disk
