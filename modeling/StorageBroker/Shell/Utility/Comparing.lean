import StorageBroker.Shell.Utility.Lines

/-! # Comparing files

Commands that tell whether files differ, and how their lines do. -/

set_option autoImplicit false

namespace StorageBroker.Shell

open Act

/-! ## Differences of lines -/

/-- The length of the longest common part of some lines and every end of others: one row of the table
of lengths from the row below it. -/
def commonRow (equal : List Bool) (below : List Nat) : List Nat :=
  (equal.zip (below.zip (below.drop 1))).foldr (fun (isEqual, here, diagonal) row =>
    (if isEqual then diagonal + 1 else max here (row.headD 0)) :: row) [0]

/-- The lengths of the longest common parts of all ends of two lists of lines, a row for each end of
the first. -/
def commonTable (equal : String → String → Bool) (bs : List String) : List String → List (List Nat)
  | [] => [List.replicate (bs.length + 1) 0]
  | a :: as =>
    let rows := commonTable equal bs as
    commonRow (bs.map (equal a)) (rows.headD []) :: rows

/-- A line of one file or the other, or of both. -/
inductive LineStep
  | kept (line : String)
  | removed (line : String)
  | added (line : String)
  deriving DecidableEq, Repr

/-- The edits that make one list of lines of another, with as many lines kept as possible. -/
def editsFrom (equal : String → String → Bool) : (fuel : Nat) → List (List Nat) → List String →
    List String → List LineStep
  | 0, _, _, _ => []
  | _ + 1, _, [], bs => bs.map .added
  | _ + 1, _, as, [] => as.map .removed
  | fuel + 1, rows, a :: as, b :: bs =>
    if equal a b then
      .kept a :: editsFrom equal fuel ((rows.drop 1).map (List.drop 1)) as bs
    else
      let below := ((rows.drop 1).headD []).headD 0
      let beside := ((rows.headD []).drop 1).headD 0
      if beside ≤ below then .removed a :: editsFrom equal fuel (rows.drop 1) as (b :: bs)
      else .added b :: editsFrom equal fuel (rows.map (List.drop 1)) (a :: as) bs

def edits (equal : String → String → Bool) (as bs : List String) : List LineStep :=
  editsFrom equal (as.length + bs.length + 1) (commonTable equal bs as) as bs

/-- A change: where it stands in both files, and the lines that go and come. -/
structure Change where
  first : Nat
  second : Nat
  removed : List String
  added : List String
  deriving DecidableEq, Repr

def changesFrom : (first second : Nat) → List LineStep → List Change
  | _, _, [] => []
  | first, second, .kept _ :: rest => changesFrom (first + 1) (second + 1) rest
  | first, second, .removed line :: rest =>
    match changesFrom (first + 1) second rest with
    | c :: more =>
      if c.first = first + 1 && c.second = second then
        { c with first := first, removed := line :: c.removed } :: more
      else ⟨first, second, [line], []⟩ :: c :: more
    | [] => [⟨first, second, [line], []⟩]
  | first, second, .added line :: rest =>
    match changesFrom first (second + 1) rest with
    | c :: more =>
      if c.first = first && c.second = second + 1 then
        { c with second := second, added := line :: c.added } :: more
      else ⟨first, second, [], [line]⟩ :: c :: more
    | [] => [⟨first, second, [], [line]⟩]

/-- A line with a mark in front, and a note if it has no end. -/
def markedLine (mark line : String) : String :=
  if line.endsWith "\n" then mark ++ line
  else mark ++ line ++ "\n\\ No newline at end of file\n"

/-- The numbers of lines from one on: a single one, or the first and the last. -/
def lineRange (first size : Nat) : String :=
  if size ≤ 1 then toString (if size = 0 then first - 1 else first)
  else toString first ++ "," ++ toString (first + size - 1)

def Change.plain (c : Change) : String :=
  let sign := if c.removed.isEmpty then "a" else if c.added.isEmpty then "d" else "c"
  lineRange c.first c.removed.length ++ sign ++ lineRange c.second c.added.length ++ "\n" ++
    String.join (c.removed.map (markedLine "< ")) ++
    (if c.removed.isEmpty || c.added.isEmpty then "" else "---\n") ++
    String.join (c.added.map (markedLine "> "))

/-- Changes that are near each other: with at most so many lines between them. -/
def nearChanges (size : Nat) : List Change → List (List Change)
  | [] => []
  | c :: rest =>
    match nearChanges size rest with
    | (d :: more) :: groups =>
      if d.first ≤ c.first + c.removed.length + 2 * size then (c :: d :: more) :: groups
      else [c] :: (d :: more) :: groups
    | groups => [c] :: groups

/-- The numbers of lines with their count, as they stand before lines with marks. -/
def spanText (first size : Nat) : String :=
  if size = 1 then toString first
  else toString (if size = 0 then first - 1 else first) ++ "," ++ toString size

def unifiedGroup (size : Nat) (as : List String) (group : List Change) : String :=
  match group.head?, group.getLast? with
  | some c, some d =>
    let before := min size (c.first - 1)
    let start := c.first - before
    let after := min size (as.length + 1 - (d.first + d.removed.length))
    let ending := d.first + d.removed.length + after
    let (body, place) := group.foldl (fun (text, place) (change : Change) =>
      let between := (as.drop (place - 1)).take (change.first - place)
      (text ++ String.join (between.map (markedLine " ")) ++
        String.join (change.removed.map (markedLine "-")) ++
        String.join (change.added.map (markedLine "+")), change.first + change.removed.length))
      (("", start) : String × Nat)
    let rest := (as.drop (place - 1)).take (ending - place)
    let removed := ending - start
    let grown : Int := group.foldl (fun n change =>
      n + change.added.length - change.removed.length) (0 : Int)
    "@@ -" ++ spanText start removed ++ " +" ++
      spanText (c.second - before) ((removed : Int) + grown).toNat ++ " @@\n" ++ body ++
      String.join (rest.map (markedLine " "))
  | _, _ => ""

/-- Whether lines are the same, where cases or blanks may not count. -/
def sameLine (given : Given) (a b : String) : Bool :=
  let shown (line : String) : List Char :=
    let cs := line.toList
    let cs := if given.has 'w' then cs.filter fun c => !isSpace c else cs
    let cs := if given.has 'b' then squeeze isBlank (cs.map fun c => if c = '\t' then ' ' else c) else cs
    if given.has 'i' then cs.map Char.toLower else cs
  if given.hasAny "wbi" then shown a = shown b else a = b

def compareTexts (given : Given) (header first second a b : String) : Act Nat := do
  let (as, bs) := (wholeLines a, wholeLines b)
  let changes := changesFrom 1 1 (edits (sameLine given) as bs)
  let changes := if given.has 'B' then changes.filter fun c =>
      (c.removed ++ c.added).any fun line => line ≠ "\n" else changes
  if changes.isEmpty then
    if given.has 's' then print ("Files " ++ first ++ " and " ++ second ++ " are identical\n")
    return 0
  if given.has 'q' then
    print ("Files " ++ first ++ " and " ++ second ++ " differ\n")
    return 1
  print header
  if given.hasAny "uU" then
    let size := ((given.value? 'U').bind String.toNat?).getD 3
    let stamp := "\t1970-01-01 00:00:00.000000000 +0000\n"
    print ("--- " ++ first ++ stamp ++ "+++ " ++ second ++ stamp)
    for group in nearChanges size changes do print (unifiedGroup size as group)
  else for c in changes do print c.plain
  return 1

def compareAt (given : Given) (files : FileTree) : (depth : Nat) → (header : Bool) →
    (first second : String) → Location → Location → Act Nat
  | 0, _, _, _, _, _ => return 2
  | depth + 1, header, first, second, p, q => do
    match files.entry? p, files.entry? q with
    | some .directory, some .directory =>
      let names := (files.children p ++ files.children q).mergeSort.eraseReps
      names.foldlM (fun status name => do
        let (inP, inQ) := (files.entry? (p ++ [name]), files.entry? (q ++ [name]))
        match inP, inQ with
        | some a, some b =>
          if a = .directory && b = .directory && !given.has 'r' then
            print ("Common subdirectories: " ++ joinPath first name ++ " and " ++
              joinPath second name ++ "\n")
            return status
          let own ← compareAt given files depth true (joinPath first name) (joinPath second name)
            (p ++ [name]) (q ++ [name])
          return max status own
        | _, _ =>
          let path := if inP.isSome then first else second
          print ("Only in " ++ path ++ ": " ++ name ++ "\n")
          return max status 1) 0
    | some (.file a), some (.file b) =>
      let command := if header && !given.has 'q' then
          "diff" ++ (if given.has 'r' then " -r" else "") ++ (if given.has 'u' then " -u" else "") ++
            " " ++ first ++ " " ++ second ++ "\n"
        else ""
      compareTexts given command first second a b
    | some a, some b =>
      let kind (entry : FileEntry) : String :=
        if entry = .directory then "directory" else "regular file"
      print ("File " ++ first ++ " is a " ++ kind a ++ " while file " ++ second ++ " is a " ++
        kind b ++ "\n")
      return 1
    | _, _ => return 2

def diff : Utility :=
  (OptionTable.mk "qsruiwbBNaytedcn" "UCxI" "" [("brief", 'q'), ("report-identical-files", 's'),
    ("recursive", 'r'), ("unified", 'u'), ("ignore-case", 'i'), ("ignore-all-space", 'w'),
    ("ignore-space-change", 'b'), ("ignore-blank-lines", 'B'), ("new-file", 'N'), ("text", 'a')]
    true).command "diff" 2 fun given => do
  match given.operands with
  | [] => misused "diff" 2 "missing operand after 'diff'"
  | [a] => misused "diff" 2 ("missing operand after '" ++ a ++ "'")
  | [first, second] =>
    let s ← get
    let isDirectory (path : String) : Bool := s.files.leadsToDirectory s.here path
    let (first, second) :=
      if isDirectory first && !isDirectory second && second ≠ "-" then
        (joinPath first (lastName second), second)
      else if isDirectory second && !isDirectory first && first ≠ "-" then
        (first, joinPath second (lastName first))
      else (first, second)
    if isDirectory first && isDirectory second then
      match s.files.locate s.here first, s.files.locate s.here second with
      | .ok p, .ok q => compareAt given s.files (s.files.entries.size + 1) false first second p q
      | _, _ => return 2
    else
      let a ← readOperand first
      let b ← readOperand second
      match a, b with
      | .ok a, .ok b => compareTexts given "" first second a b
      | _, _ =>
        for (path, content) in [(first, a), (second, b)] do
          match content with
          | .error e => complain ("diff: " ++ path ++ ": " ++ reason e)
          | .ok _ => pure ()
        return 2
  | _ :: _ :: extra :: _ => misused "diff" 2 ("extra operand '" ++ extra ++ "'")

/-! ## Differences of bytes -/

def cmp : Utility :=
  (OptionTable.mk "slb" "ni" "" [("quiet", 's'), ("silent", 's'), ("verbose", 'l'), ("bytes", 'n')]
    true).command "cmp" 2 fun given => do
  match given.operands with
  | [] => misused "cmp" 2 "missing operand after 'cmp'"
  | first :: more =>
    let second := more.headD "-"
    match ← readOperand first, ← readOperand second with
    | .ok a, .ok b =>
      let (a, b) := (a.toUTF8.toList, b.toUTF8.toList)
      let limit := (given.value? 'n').bind String.toNat?
      let (a, b) := match limit with
        | some n => (a.take n, b.take n)
        | none => (a, b)
      let same := ((a.zip b).takeWhile fun (x, y) => x = y).length
      if a = b then return 0
      if given.has 's' then return 1
      let line := (a.take same).count 10 + 1
      if given.has 'l' then
        let octalText (n : UInt8) : String := rightAligned 3 (String.ofList (Nat.toDigits 8 n.toNat))
        for ((x, y), n) in (a.zip b).zipIdx do
          if x ≠ y then print (toString (n + 1) ++ " " ++ octalText x ++ " " ++ octalText y ++ "\n")
      if same = a.length || same = b.length then
        let shorter := if same = a.length then first else second
        if same = 0 then complain ("cmp: EOF on " ++ shorter ++ " which is empty")
        else
          let ended := if (a.take same).getLast? = some 10 then ", line " ++ toString (line - 1)
            else ", in line " ++ toString line
          complain ("cmp: EOF on " ++ shorter ++ " after byte " ++ toString same ++ ended)
      else if !given.has 'l' then
        print (first ++ " " ++ second ++ " differ: char " ++ toString (same + 1) ++ ", line " ++
          toString line ++ "\n")
      return 1
    | .error e, _ =>
      if !given.has 's' then complain ("cmp: " ++ first ++ ": " ++ reason e)
      return 2
    | _, .error e =>
      if !given.has 's' then complain ("cmp: " ++ second ++ ": " ++ reason e)
      return 2

end StorageBroker.Shell
