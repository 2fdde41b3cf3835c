import StorageBroker.IoError
import StorageBroker.Table

/-! # File trees

A tree of directories, text files and links. A location is the list of names that lead to it from
the root; a path is a text that is followed from a directory, name by name, and through links. -/

set_option autoImplicit false

namespace StorageBroker

/-- What a location holds. A link leads to another path; the sink takes everything and gives
nothing; zeros can be read without end. -/
inductive FileEntry
  | directory
  | file (content : String)
  | link (target : String)
  | sink
  | zeros
  deriving DecidableEq, Repr

def FileEntry.size : FileEntry → Nat
  | .file content => content.utf8ByteSize
  | .link target => target.utf8ByteSize
  | .directory => 4096
  | .sink | .zeros => 0

def FileEntry.kindText : FileEntry → String
  | .directory => "directory"
  | .file content => if content.isEmpty then "regular empty file" else "regular file"
  | .link _ => "symbolic link"
  | .sink | .zeros => "character special file"

/-- Where something is: the names from the root. -/
abbrev Location : Type := List String

/-- What each location holds, where the root is a directory in any case; and the permissions that
were set, as the number that their bits make. What is new gets no permissions that are in the mask;
those of the usual mask need not be set. -/
structure FileTree where
  entries : Table Location FileEntry
  modes : Table Location Nat
  mask : Nat

namespace FileTree

/-- The permissions that new entries do not get if nothing else is said. -/
def usualMask : Nat := 0o022

def empty : FileTree := ⟨.empty, .empty, usualMask⟩

def entry? (t : FileTree) (place : Location) : Option FileEntry :=
  if place = [] then some .directory else t.entries.get? place

def isDirectory (t : FileTree) (place : Location) : Bool := t.entry? place = some .directory

def newMode (mask : Nat) : FileEntry → Nat
  | .file _ => 0o666 ^^^ (0o666 &&& mask)
  | .directory => 0o777 ^^^ (0o777 &&& mask)
  | .link _ => 0o777
  | .sink | .zeros => 0o666

def put (t : FileTree) (place : Location) (entry : FileEntry) : FileTree :=
  { t with
    entries := t.entries.insert place entry
    modes := if t.mask = usualMask || (t.entry? place).isSome then t.modes
      else t.modes.insert place (newMode t.mask entry) }

def drop (t : FileTree) (place : Location) : FileTree :=
  { t with
    entries := t.entries.filter fun key _ => !place.isPrefixOf key
    modes := t.modes.filter fun key _ => !place.isPrefixOf key }

/-! ## Permissions -/

/-- The permissions of a location: those that were set, else those that new entries have. -/
def mode (t : FileTree) (place : Location) : Nat :=
  (t.modes.get? place).getD (newMode usualMask ((t.entry? place).getD .directory))

def setMode (t : FileTree) (place : Location) (mode : Nat) : FileTree :=
  { t with modes := t.modes.insert place mode }

/-- Whether a location may be run as a program by anyone. -/
def isExecutable (t : FileTree) (place : Location) : Bool := 0 < t.mode place % 2 ||
  0 < t.mode place / 8 % 2 || 0 < t.mode place / 64 % 2

/-! ## Paths -/

def step? : Option FileEntry → Except IoError Unit
  | some .directory => .ok ()
  | some _ => .error .notADirectory
  | none => .error .noSuchFile

def nameLimit : Nat := 255

/-- The bytes that a path must stay below. -/
def pathLimit : Nat := 4096

/-- Follows names from a location; only the last name may lead nowhere. Where a link is met,
`onward` follows where it leads and the names after it; a link at the end is kept if asked to. -/
def followNames (t : FileTree) (onward : Location → List String → Except IoError Location)
    (keepLast : Bool) (place : Location) : List String → Except IoError Location
  | [] => .ok place
  | name :: rest => do
    step? (t.entry? place)
    if name = "" ∨ name = "." then t.followNames onward keepLast place rest
    else if name = ".." then t.followNames onward keepLast place.dropLast rest
    else if nameLimit < name.utf8ByteSize then .error .nameTooLong
    else match t.entry? (place ++ [name]) with
      | some (.link target) =>
        if keepLast ∧ rest = [] then .ok (place ++ [name])
        else onward (if target.startsWith "/" then [] else place) (target.splitOn "/" ++ rest)
      | _ => t.followNames onward keepLast (place ++ [name]) rest

def follow (t : FileTree) (keepLast : Bool) : (links : Nat) → Location → List String →
    Except IoError Location
  | 0, _, _ => .error .tooManyLinks
  | links + 1, place, names => t.followNames (t.follow keepLast links) keepLast place names

/-- The number of links that are followed before they count as a circle. -/
def linkLimit : Nat := 41

def locateWith (t : FileTree) (keepLast : Bool) (here : Location) (path : String) :
    Except IoError Location :=
  if path.contains '\x00' then .error .nulInName
  else if path.isEmpty then .error .noSuchFile
  else if pathLimit ≤ path.utf8ByteSize then .error .nameTooLong
  else t.follow keepLast linkLimit (if path.startsWith "/" then [] else here) (path.splitOn "/")

/-- The location that a path leads to from a directory, through all links. -/
def locate (t : FileTree) (here : Location) (path : String) : Except IoError Location :=
  t.locateWith false here path

/-- What a path leads to; a link at its end is given itself if asked for. -/
def lookupWith (t : FileTree) (keepLast : Bool) (here : Location) (path : String) :
    Except IoError (Location × FileEntry) := do
  let place ← t.locateWith keepLast here path
  match t.entry? place with
  | none => .error .noSuchFile
  | some entry => .ok (place, entry)

/-- What a path leads to, through all links. -/
def lookup (t : FileTree) (here : Location) (path : String) :
    Except IoError (Location × FileEntry) := t.lookupWith false here path

def leadsToDirectory (t : FileTree) (here : Location) (path : String) : Bool :=
  match t.lookup here path with
  | .ok (_, .directory) => true
  | _ => false

def trimmed (path : String) : String :=
  String.ofList (path.toList.reverse.dropWhile (· = '/')).reverse

/-! ## Files -/

def manyZeros : String := "".pushn '\x00' 1048576

def read (t : FileTree) (here : Location) (path : String) : Except IoError String := do
  match ← t.lookup here path with
  | (_, .directory) => .error .isADirectory
  | (_, .file content) => .ok content
  | (_, .zeros) => .ok manyZeros
  | (_, .sink) | (_, .link _) => .ok ""

/-- The location at which a file can be made or changed. A path that ends with a slash can only be
that of a directory. -/
def locateFile (t : FileTree) (here : Location) (path : String) : Except IoError Location := do
  let names := (trimmed path).splitOn "/"
  let last := names.getLastD ""
  if path.endsWith "/" ∧ last ∉ ["", ".", ".."] ∧ path.utf8ByteSize < pathLimit then
    let above ← t.follow false linkLimit (if path.startsWith "/" then [] else here) names.dropLast
    step? (t.entry? above)
    .error .isADirectory
  else t.locate here path

/-- Changes a file, which is made if there is none; `f` gives the new content. -/
def update (t : FileTree) (here : Location) (path : String) (f : String → String) :
    Except IoError FileTree := do
  let place ← t.locateFile here path
  match t.entry? place with
  | some .directory => .error .isADirectory
  | some .sink | some .zeros | some (.link _) => .ok t
  | some (.file content) => .ok (t.put place (.file (f content)))
  | none => .ok (t.put place (.file (f "")))

/-! ## Directories -/

def makeDirectory (t : FileTree) (here : Location) (path : String) : Except IoError FileTree := do
  let place ← t.locateWith true here (if trimmed path = "" then path else trimmed path)
  match t.entry? place with
  | some _ => .error .fileExists
  | none => .ok (t.put place .directory)

def makeDirectoriesAt (t : FileTree) (here : Location) (root : String) :
    List String → Except IoError FileTree
  | [] => .ok t
  | name :: above =>
    let path := root ++ "/".intercalate (name :: above).reverse
    let make (t : FileTree) : Except IoError FileTree :=
      match t.makeDirectory here path with
      | .ok t => .ok t
      | .error e => if t.leadsToDirectory here path then .ok t else .error e
    match make t with
    | .ok t => .ok t
    | .error .noSuchFile =>
      match t.makeDirectoriesAt here root above with
      | .error e => .error e
      | .ok t => make t
    | .error e => .error e

def makeDirectories (t : FileTree) (here : Location) (path : String) : Except IoError FileTree :=
  let names := (path.splitOn "/").filter fun name => !name.isEmpty
  t.makeDirectoriesAt here (if path.startsWith "/" then "/" else "") names.reverse

def children (t : FileTree) (place : Location) : List String :=
  (t.entries.keys.filterMap fun key =>
    if key.length = place.length + 1 ∧ place.isPrefixOf key then key.getLast? else none).mergeSort

/-- The locations below a directory as paths from there, with what they hold or lead to. -/
def below (t : FileTree) (place : Location) : List (String × FileEntry) :=
  t.entries.rows.filterMap fun row =>
    if place.isPrefixOf row.1 ∧ row.1 ≠ place then
      ((t.lookup [] ("/" ++ "/".intercalate row.1)).toOption).map fun found =>
        ("/".intercalate (row.1.drop place.length), found.2)
    else none

/-- Adds files by their paths from a directory, with the directories that they need. -/
def ofFiles (t : FileTree) (here : Location) (files : List (String × String)) : FileTree :=
  files.foldl (fun t file =>
    let names := (file.1.splitOn "/").filter fun name => !name.isEmpty
    let t := (t.makeDirectoriesAt here "" names.dropLast.reverse).toOption.getD t
    (t.update here file.1 fun _ => file.2).toOption.getD t) t

def usualDirectories : List Location :=
  [["dev"], ["etc"], ["home"], ["opt"], ["root"], ["tmp"], ["usr"], ["usr", "bin"], ["var"],
   ["var", "lib"], ["var", "log"], ["var", "tmp"]]

/-- A tree with an empty working directory, the usual ones, and the sink and zeros in their usual
places. -/
def workspace (here : Location) : FileTree :=
  let above := (List.range here.length).map fun n => here.take (n + 1)
  let places := usualDirectories ++ above
  let t := places.foldl (fun t place => t.put place .directory) empty
  ((t.put ["dev", "null"] .sink).put ["dev", "zero"] .zeros).put ["bin"] (.link "usr/bin")

end FileTree

end StorageBroker
