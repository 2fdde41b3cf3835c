import StorageBroker.Shell.Utility.Lines

/-! # Utilities for sorted lines

Commands that sort lines, count equal ones, and compare or join sorted files. -/

set_option autoImplicit false

namespace StorageBroker.Shell

open Act

/-! ## Keys -/

/-- A place in a line where a key starts or ends: a field, a character in it, and whether blanks at
the front of the field are left out. -/
structure KeyPlace where
  field : Nat
  character : Nat
  skipBlanks : Bool
  deriving DecidableEq, Repr

/-- A part of lines that they are compared by, and how. -/
structure SortKey where
  start : KeyPlace
  finish : Option KeyPlace
  letters : List Char
  deriving DecidableEq, Repr

/-- A line without so many fields at its front. A field starts with the blanks before it, or ends with
a separator. -/
def dropFields (separator : Option Char) : Nat → List Char → List Char
  | 0, cs => cs
  | n + 1, cs =>
    match separator with
    | some c => dropFields separator n ((cs.dropWhile (· ≠ c)).drop 1)
    | none => dropFields separator n ((cs.dropWhile isBlank).dropWhile fun c => !isBlank c)

def KeyPlace.startIn (p : KeyPlace) (separator : Option Char) (line : List Char) : List Char :=
  let rest := dropFields separator (p.field - 1) line
  (if p.skipBlanks then rest.dropWhile isBlank else rest).drop (p.character - 1)

def KeyPlace.afterIn (p : KeyPlace) (separator : Option Char) (line : List Char) : List Char :=
  if p.character = 0 then
    match separator with
    | none => dropFields separator p.field line
    | some c =>
      let rest := dropFields separator (p.field - 1) line
      rest.dropWhile (· ≠ c)
  else
    let rest := dropFields separator (p.field - 1) line
    (if p.skipBlanks then rest.dropWhile isBlank else rest).drop p.character

def SortKey.part (k : SortKey) (separator : Option Char) (line : List Char) : List Char :=
  let first := k.start.startIn separator line
  match k.finish with
  | none => first
  | some place => first.take (first.length - (place.afterIn separator line).length)

def keyPlace? (usual : Nat) (cs : List Char) : Except String (KeyPlace × List Char) := do
  let digits := cs.takeWhile Char.isDigit
  let rest := cs.drop digits.length
  if digits.isEmpty then throw "invalid number"
  let field := (Text.digits? 10 digits).getD 0
  if field = 0 then throw "field number is zero"
  match rest with
  | '.' :: more =>
    let digits := more.takeWhile Char.isDigit
    if digits.isEmpty then throw "invalid number after '.'"
    return (⟨field, (Text.digits? 10 digits).getD 0, false⟩, more.drop digits.length)
  | _ => return (⟨field, usual, false⟩, rest)

def sortKey? (text : String) : Except String SortKey := do
  let isLetter (c : Char) : Bool := c ∈ "bdfghiMnRrV".toList
  let fault (e : String) : String := e ++ ": invalid field specification '" ++ text ++ "'"
  let (start, rest) ← (keyPlace? 1 text.toList).mapError fun e =>
    if e = "invalid number" then "invalid number at field start: invalid count at start of '" ++ text ++
      "'" else fault e
  if start.character = 0 then throw (fault "character offset is zero")
  let letters := rest.takeWhile isLetter
  let start := { start with skipBlanks := 'b' ∈ letters }
  match rest.drop letters.length with
  | [] => return ⟨start, none, letters⟩
  | ',' :: more =>
    let (finish, rest) ← (keyPlace? 0 more).mapError fun e =>
      if e = "invalid number" then "invalid number after ',': invalid count at start of '" ++
        String.ofList more ++ "'" else fault e
    let last := rest.takeWhile isLetter
    if !(rest.drop last.length).isEmpty then
      throw ("stray character in field spec: invalid field specification '" ++ text ++ "'")
    return ⟨start, some { finish with skipBlanks := 'b' ∈ last }, letters ++ last⟩
  | _ => throw ("stray character in field spec: invalid field specification '" ++ text ++ "'")

/-! ## Comparisons -/

/-- The number at the front of a text, as a whole number of parts of ten, so many times. -/
def leadingNumber (cs : List Char) : Int × Nat :=
  let cs := cs.dropWhile isBlank
  let (negative, cs) := match cs with
    | '-' :: rest => (true, rest)
    | _ => (false, cs)
  let whole := cs.takeWhile Char.isDigit
  let places := match cs.drop whole.length with
    | '.' :: rest => rest.takeWhile Char.isDigit
    | _ => []
  let n : Int := ((Text.digits? 10 (whole ++ places)).getD 0 : Nat)
  (if negative then -n else n, places.length)

def compareNumbers (a b : Int × Nat) : Ordering :=
  compare (a.1 * Text.tenTo b.2) (b.1 * Text.tenTo a.2)

/-- The rank of the letter after a number that tells its size. -/
def unitRank (cs : List Char) : Int :=
  let cs := cs.dropWhile isBlank
  let (negative, cs) := match cs with
    | '-' :: rest => (true, rest)
    | _ => (false, cs)
  let rest := cs.dropWhile fun c => c.isDigit || c = '.'
  let rank : Int := match rest.head? with
    | some 'k' | some 'K' => 1
    | some 'M' => 2
    | some 'G' => 3
    | some 'T' => 4
    | some 'P' => 5
    | _ => 0
  if negative then -rank else rank

/-- The number of the month that a text starts with, or 0. -/
def monthNumber (cs : List Char) : Nat :=
  let name := String.ofList (((cs.dropWhile isBlank).take 3).map Char.toUpper)
  let names := ["JAN", "FEB", "MAR", "APR", "MAY", "JUN", "JUL", "AUG", "SEP", "OCT", "NOV", "DEC"]
  match names.idxOf? name with
  | none => 0
  | some n => n + 1

def versionRank (c : Char) : Int :=
  if c = '~' then -1 else if c.isAlpha then c.toNat else c.toNat + 256

/-- Compares the names of versions: text by ranks of characters, and numbers between by their size. -/
def compareVersions : (fuel : Nat) → List Char → List Char → Ordering
  | 0, _, _ => .eq
  | fuel + 1, a, b =>
    let textA := a.takeWhile fun c => !c.isDigit
    let textB := b.takeWhile fun c => !c.isDigit
    let ranks (text : List Char) : List Int := text.map versionRank ++ [0]
    let restA := a.drop textA.length
    let restB := b.drop textB.length
    match compare (ranks textA) (ranks textB) with
    | .eq =>
      if restA.isEmpty && restB.isEmpty then .eq
      else
        let number (cs : List Char) : Nat := (Text.digits? 10 (cs.takeWhile Char.isDigit)).getD 0
        match compare (number restA) (number restB) with
        | .eq => compareVersions fuel (restA.dropWhile Char.isDigit) (restB.dropWhile Char.isDigit)
        | other => other
    | other => other

/-- A number of the machine at the front of a text; what is none comes before all numbers. -/
def leadingFloat (cs : List Char) : Option Float :=
  (Text.numeral? (cs.dropWhile isBlank)).map fun (negative, digits, power, _) =>
    Text.floatOf negative digits power

def compareParts (letters : List Char) (a b : List Char) : Ordering :=
  let order :=
    if 'n' ∈ letters then compareNumbers (leadingNumber a) (leadingNumber b)
    else if 'h' ∈ letters then
      match compare (unitRank a) (unitRank b) with
      | .eq => compareNumbers (leadingNumber a) (leadingNumber b)
      | other => other
    else if 'g' ∈ letters then
      match leadingFloat a, leadingFloat b with
      | none, none => .eq
      | none, some _ => .lt
      | some _, none => .gt
      | some x, some y => if x < y then .lt else if y < x then .gt else .eq
    else if 'M' ∈ letters then compare (monthNumber a) (monthNumber b)
    else if 'V' ∈ letters then compareVersions (a.length + b.length + 1) a b
    else
      let shown (cs : List Char) : List Char :=
        let cs := if 'b' ∈ letters then cs.dropWhile isBlank else cs
        let cs := if 'd' ∈ letters then cs.filter fun c => isBlank c || c.isAlphanum else cs
        let cs := if 'i' ∈ letters then cs.filter fun c => 32 ≤ c.toNat && c.toNat < 127 else cs
        if 'f' ∈ letters then cs.map Char.toUpper else cs
      compare (shown a) (shown b)
  if 'r' ∈ letters then order.swap else order

structure SortOrder where
  keys : List SortKey
  letters : List Char
  separator : Option Char
  stable : Bool
  unique : Bool

namespace SortOrder

/-- Compares lines by all keys. Keys that say nothing of their own are compared as everything is. -/
def byKeys (o : SortOrder) (a b : List Char) : Ordering :=
  if o.keys.isEmpty then compareParts o.letters a b
  else
    o.keys.foldl (fun order k =>
      match order with
      | .eq =>
        let own := if k.letters.isEmpty then o.letters else k.letters
        compareParts own (k.part o.separator a) (k.part o.separator b)
      | other => other) .eq

/-- Compares lines; if nothing else tells them apart, as texts. -/
def compareLines (o : SortOrder) (a b : List Char) : Ordering :=
  match o.byKeys a b with
  | .eq =>
    if o.stable || o.unique then .eq
    else if 'r' ∈ o.letters then (compare a b).swap else compare a b
  | other => other

/-- Sorts lines; of those that keys do not tell apart only the first may stay. -/
def sorted (o : SortOrder) (lines : List String) : List String :=
  let sorted := (lines.map String.toList).mergeSort fun a b => o.compareLines a b ≠ .gt
  let kept := if o.unique then firsts sorted else sorted
  kept.map String.ofList
where
  /-- The first of each run of lines that keys do not tell apart. -/
  firsts : List (List Char) → List (List Char)
    | [] => []
    | a :: rest =>
      a :: match rest with
        | [] => []
        | b :: _ =>
          if o.byKeys a b = .eq then (firsts rest).drop 1 else firsts rest

def disorder? (o : SortOrder) : (n : Nat) → List String → Option (Nat × String)
  | n, a :: b :: rest =>
    let order := o.compareLines a.toList b.toList
    if order = .gt || (o.unique && order = .eq) then some (n + 1, b)
    else o.disorder? (n + 1) (b :: rest)
  | _, _ => none

end SortOrder

def sort : Utility := fun arguments =>
  (OptionTable.mk "bdfghiMnRrVcCmsuz" "ktoST" "" [("numeric-sort", 'n'), ("reverse", 'r'),
    ("unique", 'u'), ("key", 'k'), ("field-separator", 't'), ("output", 'o'), ("stable", 's'),
    ("check", 'c'), ("ignore-case", 'f'), ("ignore-leading-blanks", 'b'), ("version-sort", 'V'),
    ("general-numeric-sort", 'g'), ("human-numeric-sort", 'h'), ("month-sort", 'M'),
    ("dictionary-order", 'd'), ("merge", 'm')] true).command "sort" 2 (fun given => do
    let separator := (given.value? 't').getD ""
    let separator := if separator = "\\0" then "\x00" else separator
    if 1 < separator.length then
      return ← failing 2 ("sort: multi-character tab '" ++ separator ++ "'")
    if (given.value? 't') = some "" then return ← failing 2 "sort: empty tab"
    match (given.values 'k').mapM sortKey? with
    | .error message => failing 2 ("sort: " ++ message)
    | .ok keys =>
      let letters := (given.options.map Prod.fst).filter fun c => c ∈ "bdfghiMnRrV".toList
      let order : SortOrder :=
        ⟨keys, letters, separator.toList.head?, given.has 's', given.has 'u'⟩
      let (status, found) ← gatherWith (fun name e =>
        if e = .isADirectory then "sort: read failed: " ++ name ++ ": Is a directory"
        else "sort: cannot read: " ++ name ++ ": " ++ reason e) 2 given.operands
      if status ≠ 0 then return status
      let lines := found.flatMap fun (_, content) => linesOf content
      if given.hasAny "cC" then
        match order.disorder? 1 lines with
        | none => return 0
        | some (n, line) =>
          if given.has 'C' then return 1
          return ← failing 1 ("sort: " ++ given.operands.headD "-" ++ ":" ++ toString n ++
            ": disorder: " ++ line)
      let text := ofLines (order.sorted lines)
      match given.value? 'o' with
      | none =>
        print text
        return 0
      | some path =>
        match ← writePath path false text with
        | none => return 0
        | some e => failing 2 ("sort: open failed: " ++ path ++ ": " ++ reason e)) arguments

/-! ## Equal lines -/

/-- Lines that follow each other and are equal where they are compared, in groups. -/
def groupsOf (same : String → String → Bool) : List String → List (List String)
  | [] => []
  | line :: rest =>
    match groupsOf same rest with
    | (next :: more) :: groups =>
      if same line next then (line :: next :: more) :: groups else [line] :: (next :: more) :: groups
    | groups => [line] :: groups

def uniq : Utility :=
  (OptionTable.mk "cdDuiz" "fsw" "" [("count", 'c'), ("repeated", 'd'), ("all-repeated", 'D'),
    ("unique", 'u'), ("ignore-case", 'i'), ("skip-fields", 'f'), ("skip-chars", 's'),
    ("check-chars", 'w')] true).command "uniq" 1 fun given => do
  if 2 < given.operands.length then
    return ← misused "uniq" 1 ("extra operand '" ++ (given.operands[2]?).getD "" ++ "'")
  let number (letter : Char) : Option Nat := (given.value? letter).bind String.toNat?
  let compared (line : String) : List Char :=
    let cs := dropFields none ((number 'f').getD 0) line.toList
    let cs := cs.drop ((number 's').getD 0)
    let cs := ((number 'w').map cs.take).getD cs
    if given.has 'i' then cs.map Char.toLower else cs
  let name := given.operands.headD "-"
  match ← readOperand name with
  | .error .isADirectory => failing 1 ("uniq: error reading '" ++ name ++ "': Is a directory")
  | .error e => failing 1 ("uniq: " ++ name ++ ": " ++ reason e)
  | .ok content =>
    let groups := groupsOf (fun a b => compared a = compared b) (linesOf content)
    let groups := groups.filter fun group =>
      (!given.hasAny "dD" || 1 < group.length) && (!given.has 'u' || group.length = 1)
    let shown := groups.flatMap fun group =>
      if given.has 'D' then group
      else if given.has 'c' then
        [rightAligned 7 (toString group.length) ++ " " ++ group.headD ""]
      else [group.headD ""]
    match given.operands with
    | [_, path] =>
      match ← writePath path false (ofLines shown) with
      | none => return 0
      | some e => failing 1 ("uniq: " ++ path ++ ": " ++ reason e)
    | _ =>
      print (ofLines shown)
      return 0

/-! ## Two sorted files -/

/-- Where a line stands: in the first file, in the second, or in both. -/
inductive Side
  | first
  | second
  | both
  deriving DecidableEq, Repr

/-- The lines of two sorted files, each with where it stands, at most so many. -/
def merged : (fuel : Nat) → List String → List String → List (Side × String)
  | 0, _, _ => []
  | _ + 1, [], bs => bs.map fun b => (.second, b)
  | _ + 1, as, [] => as.map fun a => (.first, a)
  | fuel + 1, a :: as, b :: bs =>
    if a = b then (.both, a) :: merged fuel as bs
    else if a < b then (.first, a) :: merged fuel as (b :: bs)
    else (.second, b) :: merged fuel (a :: as) bs

def readTwo (command : String) (given : Given) (failure : Nat)
    (act : String → String → Act Nat) : Act Nat := do
  match given.operands with
  | [] => misused command failure "missing operand"
  | [a] => misused command failure ("missing operand after '" ++ a ++ "'")
  | [a, b] =>
    match ← readOperand a, ← readOperand b with
    | .ok first, .ok second => act first second
    | .error e, _ => failing failure (command ++ ": " ++ a ++ ": " ++ reason e)
    | _, .error e => failing failure (command ++ ": " ++ b ++ ": " ++ reason e)
  | _ :: _ :: extra :: _ => misused command failure ("extra operand '" ++ extra ++ "'")

def comm : Utility :=
  (OptionTable.mk "123z" "o" "" [("output-delimiter", 'o')] true).command "comm" 1 fun given =>
    readTwo "comm" given 1 fun first second => do
  let between := (given.value? 'o').getD "\t"
  let (as, bs) := (linesOf first, linesOf second)
  let column (letter : Char) : String := if given.has letter then "" else between
  for (side, line) in merged (as.length + bs.length + 1) as bs do
    match side with
    | .first => if !given.has '1' then print (line ++ "\n")
    | .second => if !given.has '2' then print (column '1' ++ line ++ "\n")
    | .both => if !given.has '3' then print (column '1' ++ column '2' ++ line ++ "\n")
  return 0

def joinFields (separator : Option Char) (line : String) : List String :=
  match separator with
  | some c => line.splitOn c.toString
  | none =>
    ((line.splitOn " ").flatMap fun part => part.splitOn "\t").filter fun part => !part.isEmpty

def joinFiles : Utility :=
  (OptionTable.mk "i" "12jtaveo" "" [("ignore-case", 'i')] true).command "join" 1 fun given =>
    readTwo "join" given 1 fun first second => do
  let separator := ((given.value? 't').getD "").toList.head?
  let number (letter : Char) : Nat :=
    (((given.value? letter) <|> (given.value? 'j')).bind String.toNat?).getD 1
  let between := ((separator.getD ' ').toString)
  let rows (text : String) : List (List String) := (linesOf text).map (joinFields separator)
  let key (n : Nat) (row : List String) : String :=
    let text := (row[n - 1]?).getD ""
    if given.has 'i' then text.toLower else text
  let others (n : Nat) (row : List String) : List String := row.eraseIdx (n - 1)
  let absent := (given.value? 'e').getD ""
  let form := ((given.values 'o').flatMap fun list =>
    (list.splitOn ",").flatMap fun part => part.splitOn " ").filter fun part => !part.isEmpty
  let shown (a b : Option (List String)) : String :=
    if form.isEmpty then
      let joined := ((a.map (key (number '1'))) <|> (b.map (key (number '2')))).getD ""
      between.intercalate (joined :: (a.map (others (number '1'))).getD [] ++
        (b.map (others (number '2'))).getD [])
    else between.intercalate (form.map fun part =>
      let field (row : Option (List String)) (n : String) : String :=
        (row.bind fun row => (n.toNat?).bind fun n => row[n - 1]?).getD absent
      match part.splitOn "." with
      | ["1", n] => field a n
      | ["2", n] => field b n
      | _ => ((a.map (key (number '1'))) <|> (b.map (key (number '2')))).getD absent)
  let (as, bs) := (rows first, rows second)
  let (ka, kb) := (key (number '1'), key (number '2'))
  let unpaired := given.values 'a' ++ given.values 'v'
  let paired := (given.values 'v').isEmpty
  let fromFirst : List (String × Nat × String) := as.flatMap fun a =>
    let found := bs.filter fun b => kb b = ka a
    if found.isEmpty then
      if "1" ∈ unpaired then [(ka a, 0, shown (some a) none)] else []
    else if paired then found.map fun b => (ka a, 0, shown (some a) (some b)) else []
  let fromSecond : List (String × Nat × String) := bs.flatMap fun b =>
    if "2" ∈ unpaired && !(as.any fun a => ka a = kb b) then [(kb b, 1, shown none (some b))]
    else []
  let all := (fromFirst ++ fromSecond).mergeSort fun x y => x.1 ≤ y.1
  print (ofLines (all.map fun row => row.2.2))
  return 0

end StorageBroker.Shell
