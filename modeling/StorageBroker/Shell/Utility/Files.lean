import StorageBroker.Shell.Utility.Permissions

/-! # Utilities for files

Commands that make, copy, move, link, remove and list files and directories. -/

set_option autoImplicit false

namespace StorageBroker.Shell

open Act

/-! ## Making and removing -/

def keptBy (given : Given) (s : State) (path : String) (place : Location) (entry : FileEntry) :
    Option String :=
  let refused (e : String) : Option String := some ("cannot remove '" ++ path ++ "': " ++ e)
  if String.ofList (splitPath path).1 ∈ [".", ".."] && given.hasAny "rR" then
    some ("refusing to remove '.' or '..' directory: skipping '" ++ path ++ "'")
  else if place = [] && given.hasAny "rR" then
    some "it is dangerous to operate recursively on '/'"
  else if entry = .directory && !given.hasAny "rR" then
    if !given.has 'd' then refused "Is a directory"
    else if (s.files.children place).isEmpty then none
    else refused "Directory not empty"
  else if path.endsWith "/" && entry ≠ .directory then
    refused (if given.hasAny "rR" || !s.files.leadsToDirectory s.here path then "Not a directory"
      else "Is a directory")
  else none

def rm : Utility :=
  (OptionTable.mk "rRfvdi" "" "" [("recursive", 'r'), ("force", 'f'), ("verbose", 'v'), ("dir", 'd')]
    true).command "rm" 1 fun given => do
  if given.operands.isEmpty then
    return ← if given.has 'f' then pure 0 else misused "rm" 1 "missing operand"
  forEach given.operands fun path => do
    let s ← get
    match s.files.lookupWith true s.here (FileTree.trimmed path) with
    | .error e =>
      let silent := given.has 'f' && (e = .noSuchFile || e = .notADirectory)
      return if silent then none else some ("rm: cannot remove '" ++ path ++ "': " ++ reason e)
    | .ok (place, entry) =>
      match keptBy given s path place entry with
      | some message => return some ("rm: " ++ message)
      | none =>
        set { s with files := s.files.drop place }
        if given.has 'v' then
          let kind := if entry = .directory then "removed directory '" else "removed '"
          print (kind ++ path ++ "'\n")
        return none

def unlink : Utility := fun arguments => do
  match arguments with
  | [] => misused "unlink" 1 "missing operand"
  | [path] => forEach [path] fun path => do
    let result ← changeFiles fun files here => do
      match ← files.lookupWith true here path with
      | (_, .directory) => .error .isADirectory
      | (place, _) => return files.drop place
    return result.map fun e => "unlink: cannot unlink '" ++ path ++ "': " ++ reason e
  | _ :: extra :: _ => misused "unlink" 1 ("extra operand '" ++ extra ++ "'")

/-- The paths above a path and the path itself, from the top. -/
def pathsTo (path : String) : List String :=
  let root := if path.startsWith "/" then "/" else ""
  let names := (path.splitOn "/").filter fun name => !name.isEmpty
  (List.range names.length).map fun n => root ++ "/".intercalate (names.take (n + 1))

def mkdir : Utility :=
  (OptionTable.mk "pv" "m" "" [("parents", 'p'), ("verbose", 'v'), ("mode", 'm')] true).command
    "mkdir" 1 fun given => do
  if given.operands.isEmpty then return ← misused "mkdir" 1 "missing operand"
  let mode := (given.value? 'm').bind (newMode? true 0o777)
  if (given.value? 'm').isSome && mode.isNone then
    return ← failing 1 ("mkdir: invalid mode '" ++ (given.value? 'm').getD "" ++ "'")
  forEach given.operands fun path => do
    let steps := if given.has 'p' then pathsTo path else [path]
    let failed ← steps.foldlM (fun failed step => do
      if failed.isSome then return failed
      let s ← get
      if given.has 'p' && s.files.leadsToDirectory s.here step then return none
      match s.files.makeDirectory s.here step with
      | .error e =>
        let e := if given.has 'p' && e = .fileExists then IoError.notADirectory else e
        let e := if e = .notADirectory && step = path && given.has 'p' then .fileExists else e
        return some ("mkdir: cannot create directory '" ++ step ++ "': " ++ reason e)
      | .ok files =>
        let place := (files.locate s.here step).toOption.getD []
        let files := match mode with
          | some mode => if step = path then files.setMode place mode else files
          | none => files
        set { s with files }
        if given.has 'v' then print ("mkdir: created directory '" ++ step ++ "'\n")
        return none) (none : Option String)
    return failed

def rmdir : Utility :=
  (OptionTable.mk "pv" "" "" [("parents", 'p'), ("verbose", 'v'),
    ("ignore-fail-on-non-empty", 'i')] true).command "rmdir" 1 fun given => do
  if given.operands.isEmpty then return ← misused "rmdir" 1 "missing operand"
  let paths := given.operands.flatMap fun path =>
    if given.has 'p' then (pathsTo path).reverse else [path]
  forEach paths fun path => do
    let result ← changeFiles fun files here => do
      match ← files.lookupWith true here (FileTree.trimmed path) with
      | (place, .directory) =>
        if (files.children place).isEmpty then return files.drop place else .error .notEmpty
      | _ => .error .notADirectory
    match result with
    | none =>
      if given.has 'v' then print ("rmdir: removing directory, '" ++ path ++ "'\n")
      return none
    | some e =>
      if given.has 'i' && e = .notEmpty then return none
      return some ("rmdir: failed to remove '" ++ path ++ "': " ++ reason e)

def touch : Utility :=
  (OptionTable.mk "acmh" "drt" "" [("no-create", 'c'), ("date", 'd'), ("reference", 'r')]
    true).command "touch" 1 fun given => do
  if given.operands.isEmpty then return ← misused "touch" 1 "missing file operand"
  forEach given.operands fun path => do
    let result ← changeFiles fun files here =>
      if files.leadsToDirectory here path || given.has 'c' then .ok files
      else files.update here path id
    match result with
    | none => return none
    | some .isADirectory =>
      let s ← get
      let isThere := (s.files.lookup s.here (FileTree.trimmed path)).isOk
      return some ("touch: setting times of '" ++ path ++
        (if isThere then "': Not a directory" else "': No such file or directory"))
    | some e => return some ("touch: cannot touch '" ++ path ++ "': " ++ reason e)

/-- The size that a text says, in bytes, with what multiplies it after the number. -/
def sizeOf? (text : String) : Option Nat :=
  let digits := text.toList.takeWhile Char.isDigit
  let unit? : Option Nat := match String.ofList (text.toList.drop digits.length) with
    | "" | "c" => some 1
    | "b" => some 512
    | "K" | "k" | "KiB" => some 1024
    | "kB" | "KB" => some 1000
    | "M" | "MiB" => some 1048576
    | "MB" => some 1000000
    | "G" | "GiB" => some 1073741824
    | "GB" => some 1000000000
    | _ => none
  match (String.ofList digits).toNat?, unit? with
  | some n, some unit => some (n * unit)
  | _, _ => none

/-- The bytes of a text up to a size; what is missing is filled up. -/
def resized (text : String) (size : Nat) : String :=
  let rec taken : List Char → Nat → List Char
    | [], left => List.replicate left '\x00'
    | c :: rest, left =>
      if c.utf8Size ≤ left then c :: taken rest (left - c.utf8Size) else List.replicate left '?'
  String.ofList (taken text.toList size)

def truncate : Utility :=
  (OptionTable.mk "c" "sr" "" [("size", 's'), ("no-create", 'c'), ("reference", 'r')]
    true).command "truncate" 1 fun given => do
  let text := (given.value? 's').getD ""
  let sign := text.toList.head?.filter fun c => c ∈ ['+', '-', '<', '>', '/', '%']
  match sizeOf? (if sign.isSome then (text.drop 1).toString else text) with
  | none =>
    if text.isEmpty then misused "truncate" 1 "you must specify either '--size' or '--reference'"
    else failing 1 ("truncate: Invalid number: '" ++ text ++ "'")
  | some n =>
    if given.operands.isEmpty then return ← misused "truncate" 1 "missing file operand"
    forEach given.operands fun path => do
      let result ← changeFiles fun files here =>
        if given.has 'c' && !(files.lookup here path).isOk then .ok files
        else files.update here path fun before =>
          let size := before.utf8ByteSize
          resized before <| match sign with
            | some '+' => size + n
            | some '-' => size - n
            | some '<' => min size n
            | some '>' => max size n
            | some '/' => size / max n 1 * n
            | some '%' => (size + (n - 1)) / max n 1 * n
            | _ => n
      return result.map fun e =>
        "truncate: cannot open '" ++ path ++ "' for writing: " ++ reason e

/-! ## Copying, moving and linking -/

def copyTree (files : FileTree) (source place : Location) : FileTree :=
  let rows := files.entries.rows.filter fun row => source.isPrefixOf row.1
  rows.foldl (fun files (key, entry) =>
    let target := place ++ key.drop source.length
    let known := files.entry? target
    let files := files.put target entry
    match files.modes.get? key, known with
    | some mode, none => files.setMode target mode
    | _, _ => files) files

/-- What a copy of a file is: a link may be followed. -/
def copyFile (files : FileTree) (here : Location) (path target : String) (entry : FileEntry)
    (source : Location) : Except IoError FileTree := do
  match entry with
  | .link _ =>
    let place ← files.locateWith true here target
    return files.put place entry
  | _ =>
    let content ← files.read here path
    let isNew := !(files.lookup here target).isOk
    let files ← files.update here target fun _ => content
    let place ← files.locate here target
    match files.modes.get? source with
    | some mode => return if isNew then files.setMode place mode else files
    | none => return files

def copyOne (given : Given) (path target : String) : Act (Option String) := do
  let s ← get
  let deep := given.hasAny "rRa"
  let keepLinks := given.hasAny "dPa" || (deep && !given.hasAny "LH")
  match s.files.lookupWith keepLinks s.here path with
  | .error e => return some ("cannot stat '" ++ path ++ "': " ++ reason e)
  | .ok (source, entry) =>
    let known := (s.files.lookupWith keepLinks s.here target).toOption
    if entry = .directory then
      if !deep then return some ("-r not specified; omitting directory '" ++ path ++ "'")
      match known with
      | some (place, knownEntry) =>
        if knownEntry ≠ .directory then
          return some ("cannot overwrite non-directory '" ++ target ++ "' with directory '" ++ path ++
            "'")
        if place = source then
          return some ("'" ++ path ++ "' and '" ++ target ++ "' are the same file")
        if source.isPrefixOf place then
          return some ("cannot copy a directory, '" ++ path ++ "', into itself, '" ++ target ++ "'")
        set { s with files := copyTree s.files source place }
        return none
      | none =>
        match s.files.makeDirectory s.here target with
        | .error e => return some ("cannot create directory '" ++ target ++ "': " ++ reason e)
        | .ok files =>
          let place := (files.locate s.here target).toOption.getD []
          set { s with files := (copyTree s.files source place).put place .directory }
          if source.isPrefixOf place then
            return some ("cannot copy a directory, '" ++ path ++ "', into itself, '" ++ target ++ "'")
          return none
    else
      match known with
      | some (place, knownEntry) =>
        if place = source then
          return some ("'" ++ path ++ "' and '" ++ target ++ "' are the same file")
        if knownEntry = .directory then
          return some ("cannot overwrite directory '" ++ target ++ "' with non-directory")
        if given.has 'n' then return none
      | none => pure ()
      match copyFile s.files s.here path target entry source with
      | .error e =>
        let e := if e = .isADirectory then IoError.notADirectory else e
        return some ("cannot create regular file '" ++ target ++ "': " ++ reason e)
      | .ok files =>
        set { s with files }
        if given.has 'v' then print ("'" ++ path ++ "' -> '" ++ target ++ "'\n")
        return none

def moveOne (given : Given) (path target : String) : Act (Option String) := do
  let s ← get
  match s.files.lookupWith true s.here (FileTree.trimmed path) with
  | .error e => return some ("cannot stat '" ++ path ++ "': " ++ reason e)
  | .ok (source, entry) =>
    let refused (e : IoError) : Option String :=
      some ("cannot move '" ++ path ++ "' to '" ++ target ++ "': " ++ reason e)
    if entry ≠ .directory && target.endsWith "/" then return refused .notADirectory
    match s.files.locateWith true s.here (FileTree.trimmed target) with
    | .error .notADirectory => return some ("cannot stat '" ++ target ++ "': Not a directory")
    | .error e => return refused e
    | .ok place =>
      match s.files.entry? place with
      | some known =>
        if place = source then
          return some ("'" ++ path ++ "' and '" ++ target ++ "' are the same file")
        if given.has 'n' then return none
        if entry = .directory && known ≠ .directory then
          return some ("cannot overwrite non-directory '" ++ target ++ "' with directory '" ++ path ++
            "'")
        if entry ≠ .directory && known = .directory then
          return some ("cannot overwrite directory '" ++ target ++ "' with non-directory")
        if known = .directory && !(s.files.children place).isEmpty then
          return some ("cannot overwrite '" ++ target ++ "': Directory not empty")
      | none => pure ()
      if source.isPrefixOf place then
        return some ("cannot move '" ++ path ++ "' to a subdirectory of itself, '" ++ target ++ "'")
      let cleared := s.files.drop place
      set { s with files := (copyTree cleared source place).drop source }
      if given.has 'v' then print ("renamed '" ++ path ++ "' -> '" ++ target ++ "'\n")
      return none

/-- Does something for each of some sources and the path that it gets: that of its name in a
directory, or the last operand itself. -/
def carry (command missing : String) (given : Given)
    (act : String → String → Act (Option String)) : Act Nat := do
  let s ← get
  let into (directory : String) (sources : List String) : Act Nat :=
    forEach sources fun path => do
      return (← act path (joinPath directory (lastName path))).map fun m => command ++ ": " ++ m
  match given.value? 't', given.operands with
  | some directory, sources =>
    if s.files.leadsToDirectory s.here directory then into directory sources
    else failing 1 (command ++ ": target directory '" ++ directory ++ "': No such file or directory")
  | none, [] => misused command 1 missing
  | none, [path] =>
    misused command 1 ("missing destination file operand after '" ++ path ++ "'")
  | none, operands =>
    let target := operands.getLastD ""
    let sources := operands.dropLast
    if given.has 'T' then
      match sources with
      | [path] =>
        forEach [path] fun path => do
          return (← act path target).map fun m => command ++ ": " ++ m
      | _ => misused command 1 ("extra operand '" ++ target ++ "'")
    else if s.files.leadsToDirectory s.here target && !(command = "ln" && given.has 'n' &&
        ((s.files.lookupWith true s.here target).toOption.map Prod.snd) ≠ some .directory) then
      into target sources
    else
      match sources with
      | [path] =>
        forEach [path] fun path => do
          return (← act path target).map fun m => command ++ ": " ++ m
      | _ =>
        let why := match s.files.lookup s.here target with
          | .ok _ => "Not a directory"
          | .error e => reason e
        failing 1 (command ++ ": target '" ++ target ++ "': " ++ why)

def fileOptionNames : List (String × Char) :=
  [("recursive", 'r'), ("force", 'f'), ("no-clobber", 'n'), ("verbose", 'v'), ("archive", 'a'),
   ("target-directory", 't'), ("no-target-directory", 'T'), ("update", 'u'), ("preserve", 'p'),
   ("interactive", 'i'), ("dereference", 'L'), ("no-dereference", 'P'), ("symbolic", 's'),
   ("remove-destination", 'f')]

def cp : Utility :=
  (OptionTable.mk "rRafnpvTuidPLHlsx" "t" "" fileOptionNames true).command "cp" 1 fun given =>
    carry "cp" "missing file operand" given (copyOne given)

def mv : Utility :=
  (OptionTable.mk "fnvTui" "t" "" fileOptionNames true).command "mv" 1 fun given =>
    carry "mv" "missing file operand" given (moveOne given)

/-- Makes a link at a path: one that leads to another path, or a second name for a file, which then
has the content of the first. -/
def linkOne (given : Given) (path target : String) : Act (Option String) := do
  let kind := if given.has 's' then "symbolic link '" else "hard link '"
  let failed (e : IoError) : Option String :=
    some ("failed to create " ++ kind ++ target ++
      (if given.has 's' then "'" else "' => '" ++ path ++ "'") ++ ": " ++ reason e)
  let s ← get
  let entry ← if given.has 's' then pure (Except.ok (FileEntry.link path))
    else match s.files.lookupWith true s.here path with
      | .error e => pure (.error ("failed to access '" ++ path ++ "': " ++ reason e))
      | .ok (_, .directory) => pure (.error (path ++ ": hard link not allowed for directory"))
      | .ok (_, entry) => pure (.ok entry)
  match entry with
  | .error message => return some message
  | .ok entry =>
    match s.files.locateWith true s.here target with
    | .error e => return failed e
    | .ok place =>
      match s.files.entry? place with
      | some .directory => return failed .fileExists
      | some _ => if !given.has 'f' then return failed .fileExists
      | none => pure ()
      set { s with files := (s.files.drop place).put place entry }
      if given.has 'v' then print ("'" ++ target ++ "' -> '" ++ path ++ "'\n")
      return none

/-- Makes links. A link without a place of its own is made in the directory that the shell is in. -/
def ln : Utility :=
  (OptionTable.mk "sfnvTirLP" "t" "" fileOptionNames true).command "ln" 1 fun given => do
  match given.operands with
  | [path] =>
    if given.has 't' then carry "ln" "missing file operand" given (linkOne given)
    else forEach [path] fun path => do
      return (← linkOne given path (joinPath "." (lastName path))).map fun m => "ln: " ++ m
  | _ => carry "ln" "missing file operand" given (linkOne given)

def install : Utility :=
  (OptionTable.mk "dDcvpCs" "mogtT" "" [("mode", 'm'), ("directory", 'd')] true).command
    "install" 1 fun given => do
  if given.has 'd' then
    let mode := (given.value? 'm').toList.flatMap fun m => ["-m", m]
    return ← mkdir ("-p" :: mode ++ given.operands)
  let mode := ((given.value? 'm').bind (newMode? false 0)).getD 0o755
  let carryOne (path target : String) : Act (Option String) := do
    if given.has 'D' then
      let above := String.ofList (splitPath target).2
      let _ ← changeFiles fun files here => files.makeDirectories here above
    let message ← copyOne ⟨[], []⟩ path target
    if message.isNone then
      modify fun s =>
        match s.files.locate s.here target with
        | .ok place => { s with files := s.files.setMode place mode }
        | .error _ => s
    return message
  carry "install" "missing file operand" given carryOne

/-! ## Listing -/

/-- What is shown of an entry in a list: its name, with more in front or after it if asked for. -/
def listed (given : Given) (files : FileTree) (place : Location) (entry : FileEntry)
    (name : String) : String :=
  let mark := match entry with
    | .directory => if given.hasAny "Fp" then "/" else ""
    | .link _ => if given.has 'F' then "@" else ""
    | .file _ => if given.has 'F' && files.isExecutable place then "*" else ""
    | _ => ""
  let name := if given.has 'Q' then "\"" ++ name ++ "\"" else name
  if given.hasAny "lnog" then
    let target := match entry with
      | .link target => " -> " ++ target
      | _ => mark
    let owner := if given.has 'n' then "0 0" else "root root"
    let links := if entry = .directory then "2" else "1"
    modeText entry (files.mode place) ++ " " ++ links ++ " " ++ owner ++ " " ++
      toString entry.size ++ " Jan  1 00:00 " ++ name ++ target
  else if given.has 's' then "4 " ++ name ++ mark
  else name ++ mark

def inListOrder (given : Given) (rows : List (String × Location × FileEntry)) :
    List (String × Location × FileEntry) :=
  let rows := if given.has 'S' then
      rows.mergeSort fun (_, _, a) (_, _, b) => b.size ≤ a.size
    else rows
  if given.has 'r' then rows.reverse else rows

def listDirectory (given : Given) (files : FileTree) (header : Bool) :
    Nat → String → Location → List String
  | 0, _, _ => []
  | depth + 1, path, place =>
    let names := (files.children place).filter fun name =>
      given.hasAny "aA" || !name.startsWith "."
    let rows : List (String × Location × FileEntry) := names.filterMap fun name =>
      (files.entry? (place ++ [name])).map fun entry => (name, place ++ [name], entry)
    let dots := if given.has 'a' then
        [(".", place, FileEntry.directory), ("..", place.dropLast, FileEntry.directory)]
      else []
    let rows := inListOrder given (dots ++ rows)
    let total := if given.hasAny "lnogs" then ["total " ++ toString (4 * rows.length)] else []
    let own := (if header then [path ++ ":"] else []) ++ total ++
      rows.map fun (name, place, entry) => listed given files place entry name
    let below := if !given.has 'R' then []
      else rows.flatMap fun (name, place, entry) =>
        if entry = .directory && name ∉ [".", ".."] then
          "" :: listDirectory given files true depth (joinPath path name) place
        else []
    own ++ below

def ls : Utility :=
  (OptionTable.mk "1aAlRdrtShFpiQnogsUcuCxmkGLXv" "wI" ""
    [("all", 'a'), ("almost-all", 'A'), ("recursive", 'R'), ("directory", 'd'), ("reverse", 'r'),
     ("color", 'k')] true).command "ls" 2 fun given => do
  let s ← get
  let operands := if given.operands.isEmpty then ["."] else given.operands.mergeSort
  let operands := if given.has 'r' then operands.reverse else operands
  let keepLast := given.hasAny "lFd"
  let found (path : String) : Except IoError (Location × FileEntry) :=
    match s.files.lookupWith keepLast s.here path with
    | .ok found => .ok found
    | .error _ => s.files.lookupWith true s.here path
  let status ← forEach operands fun path => do
    match found path with
    | .error e => return some ("ls: cannot access '" ++ path ++ "': " ++ reason e)
    | .ok _ => return none
  let rows : List (String × Location × FileEntry) := operands.filterMap fun path =>
    (found path).toOption.map fun row => (path, row)
  let isShownAsDirectory (row : String × Location × FileEntry) : Bool :=
    row.2.2 = .directory && !given.has 'd'
  let files := rows.filter fun row => !isShownAsDirectory row
  let directories := rows.filter isShownAsDirectory
  let header := 1 < operands.length || given.has 'R'
  let own := files.map fun (path, place, entry) => listed given s.files place entry path
  let lists := directories.map fun (path, place, _) =>
    listDirectory given s.files header (s.files.entries.size + 1) path place
  let blocks := (if own.isEmpty then [] else [own]) ++ lists
  let lines := (blocks.intersperse [""]).flatten
  let lines := if given.has 'm' then [", ".intercalate lines] else lines
  print (String.join (lines.map (· ++ "\n")))
  return if status = 0 then 0 else 2

/-! ## What is known of a path -/

def readlink : Utility :=
  (OptionTable.mk "femnqsvz" "" "" [("canonicalize", 'f'), ("canonicalize-existing", 'e'),
    ("canonicalize-missing", 'm'), ("no-newline", 'n')] true).command "readlink" 1 fun given => do
  if given.operands.isEmpty then return ← misused "readlink" 1 "missing operand"
  let ending := if given.has 'n' then "" else "\n"
  forEach given.operands fun path => do
    let s ← get
    if given.hasAny "fem" then
      match s.files.locate s.here path with
      | .ok place =>
        if given.has 'e' && (s.files.entry? place).isNone then return some ""
        print (pathOf place ++ ending)
        return none
      | .error _ =>
        if given.has 'm' then
          print ((if path.startsWith "/" then path else joinPath (pathOf s.here) path) ++ ending)
          return none
        return some ""
    else
      match s.files.lookupWith true s.here path with
      | .ok (_, .link target) =>
        print (target ++ ending)
        return none
      | _ => return some ""

/-- Writes the paths of files without links and without names that lead nowhere. -/
def realpath : Utility :=
  (OptionTable.mk "emsqzLP" "" "" [] true).command "realpath" 1 fun given => do
  if given.operands.isEmpty then return ← misused "realpath" 1 "missing operand"
  forEach given.operands fun path => do
    let s ← get
    match s.files.locate s.here path with
    | .ok place =>
      if given.has 'e' && (s.files.entry? place).isNone then
        return some ("realpath: " ++ path ++ ": No such file or directory")
      print (pathOf place ++ "\n")
      return none
    | .error e => return some ("realpath: " ++ path ++ ": " ++ reason e)

def statText (files : FileTree) (path : String) (place : Location) (entry : FileEntry) :
    List Char → String
  | '%' :: c :: rest =>
    let made := match c with
      | 'n' => path
      | 's' => toString entry.size
      | 'a' => String.ofList (Nat.toDigits 8 (files.mode place))
      | 'A' => modeText entry (files.mode place)
      | 'F' => entry.kindText
      | 'N' => match entry with
        | .link target => "'" ++ path ++ "' -> '" ++ target ++ "'"
        | _ => "'" ++ path ++ "'"
      | 'U' | 'G' => "root"
      | 'u' | 'g' => "0"
      | 'h' => if entry = .directory then "2" else "1"
      | '%' => "%"
      | _ => "0"
    made ++ statText files path place entry rest
  | c :: rest => c.toString ++ statText files path place entry rest
  | [] => ""

/-- Writes what is known of files, as a format says. -/
def stat : Utility :=
  (OptionTable.mk "Lft" "c" "" [("format", 'c'), ("dereference", 'L'), ("printf", 'c')] true).command
    "stat" 1 fun given => do
  if given.operands.isEmpty then return ← misused "stat" 1 "missing operand"
  forEach given.operands fun path => do
    let s ← get
    match s.files.lookupWith (!given.has 'L') s.here path with
    | .error e => return some ("stat: cannot statx '" ++ path ++ "': " ++ reason e)
    | .ok (place, entry) =>
      let format := (given.value? 'c').getD "  File: %n\n  Size: %s"
      print (statText s.files path place entry format.toList ++ "\n")
      return none

def mktemp : Utility :=
  (OptionTable.mk "dquV" "pt" "" [("directory", 'd'), ("dry-run", 'u'), ("tmpdir", 'p')] true).command
    "mktemp" 1 fun given => do
  let template := given.operands.headD "tmp.XXXXXXXXXX"
  let marks := (template.toList.reverse.takeWhile (· = 'X')).length
  if marks < 3 then
    return ← failing 1 ("mktemp: too few X's in template '" ++ template ++ "'")
  let stem := String.ofList (template.toList.take (template.length - marks))
  let stem := if given.operands.isEmpty || given.has 'p' then
      joinPath ((given.value? 'p').getD "/tmp") stem
    else stem
  let s ← get
  let digits (n : Nat) : String :=
    let text := toString n
    "".pushn 'a' (marks - text.length) ++ text
  let free := (List.range (s.files.entries.size + 1)).find? fun n =>
    !(s.files.lookupWith true s.here (stem ++ digits n)).isOk
  let path := stem ++ digits (free.getD 0)
  if given.has 'u' then
    print (path ++ "\n")
    return 0
  match ← changeFiles fun files here =>
      if given.has 'd' then files.makeDirectory here path else files.update here path id with
  | some e =>
    let kind := if given.has 'd' then "directory" else "file"
    failing 1 ("mktemp: failed to create " ++ kind ++ " via template '" ++ template ++ "': " ++
      reason e)
  | none =>
    modify fun s =>
      match s.files.locate s.here path with
      | .ok place => { s with files := s.files.setMode place (if given.has 'd' then 0o700 else 0o600) }
      | .error _ => s
    print (path ++ "\n")
    return 0

def basename : Utility :=
  (OptionTable.mk "az" "s" "" [("multiple", 'a'), ("suffix", 's')] false).command "basename" 1
    fun given => do
  let shorten (name ending : String) : String :=
    if name.endsWith ending && name ≠ ending then (name.dropEnd ending.length).toString else name
  match given.operands with
  | [] => misused "basename" 1 "missing operand"
  | paths =>
    if given.hasAny "as" then
      let ending := (given.value? 's').getD ""
      print (String.join (paths.map fun path => shorten (lastName path) ending ++ "\n"))
      return 0
    match paths with
    | [path] =>
      print (lastName path ++ "\n")
      return 0
    | path :: ending :: [] =>
      print (shorten (lastName path) ending ++ "\n")
      return 0
    | _ => misused "basename" 1 ("extra operand '" ++ (paths[2]?).getD "" ++ "'")

def dirname : Utility := (OptionTable.ofLetters "z").command "dirname" 1 fun given => do
  if given.operands.isEmpty then return ← misused "dirname" 1 "missing operand"
  for path in given.operands do
    let before := (splitPath path).2
    let shown := if !before.isEmpty then String.ofList before
      else if path.startsWith "/" then "/" else "."
    print (shown ++ "\n")
  return 0

end StorageBroker.Shell
