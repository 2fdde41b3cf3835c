import StorageBroker.Shell.Utility.Characters

/-! # Utilities for lines

Commands that join, cut, number and choose lines. -/

set_option autoImplicit false

namespace StorageBroker.Shell

open Act

/-! ## Whole files -/

/-- Numbers lines, and tells the number after the last one. A line may go without a number. -/
def numbered (from_ step : Int) (counts : String → Bool) (number : Int → String) (blank : String) :
    List String → List String
  | [] => []
  | line :: rest =>
    if counts line then
      (number from_ ++ line) :: numbered (from_ + step) step counts number blank rest
    else (blank ++ line) :: numbered from_ step counts number blank rest

def squeezeLines : List String → List String
  | a :: b :: rest =>
    if a = "\n" && b = "\n" then squeezeLines (b :: rest) else a :: squeezeLines (b :: rest)
  | lines => lines

/-- A character as it is shown if it could not be seen. -/
def visible (tabs : Bool) (c : Char) : List Char :=
  if c = '\n' then [c]
  else if c = '\t' then if tabs then ['^', 'I'] else [c]
  else if c.toNat < 32 then ['^', Char.ofNat (c.toNat + 64)]
  else if c.toNat = 127 then ['^', '?']
  else if c.toNat < 127 then [c]
  else (c.toString.toUTF8.toList.flatMap fun byte =>
    let low := byte.toNat % 128
    ['M', '-'] ++ if low < 32 then ['^', Char.ofNat (low + 64)]
      else if low = 127 then ['^', '?'] else [Char.ofNat low])

def cat : Utility :=
  (OptionTable.mk "nbsETvAetu" "" "" [("number", 'n'), ("number-nonblank", 'b'),
    ("squeeze-blank", 's'), ("show-ends", 'E'), ("show-tabs", 'T'), ("show-all", 'A'),
    ("show-nonprinting", 'v')] true).command "cat" 1 fun given => do
  let names := if given.operands.isEmpty then ["-"] else given.operands
  if given.options.all fun row => row.1 = 'u' then
    return ← forEach names fun name => do
      match ← readOperand name with
      | .ok content =>
        if !content.isEmpty && (← writesTo name) then
          return some ("cat: " ++ name ++ ": input file is output file")
        print content
        return none
      | .error e => return some ("cat: " ++ name ++ ": " ++ reason e)
  let (status, found) ← gather "cat" names
  let lines := wholeLines (String.join (found.map Prod.snd))
  let lines := if given.has 's' then squeezeLines lines else lines
  let shown := lines.map fun line =>
    let hidden := line.toList.flatMap fun c =>
      if given.hasAny "vAet" then visible (given.hasAny "TAt") c
      else if given.has 'T' && c = '\t' then ['^', 'I'] else [c]
    let ended := if given.hasAny "EAe" then
        hidden.flatMap fun c => if c = '\n' then ['$', '\n'] else [c]
      else hidden
    String.ofList ended
  let number (n : Int) : String := rightAligned 6 (toString n) ++ "\t"
  let isEmptyLine (line : String) : Bool := line = "\n" || line = "$\n"
  print (String.join (
    if given.has 'b' then numbered 1 1 (fun line => !isEmptyLine line) number "" shown
    else if given.has 'n' then numbered 1 1 (fun _ => true) number "" shown
    else shown))
  return status

def tac : Utility :=
  (OptionTable.ofLetters "br").command "tac" 1 fun given => do
  let (status, found) ← gatherWith (fun name e =>
    if e = .isADirectory then "tac: " ++ name ++ ": read error: Invalid argument"
    else "tac: failed to open '" ++ name ++ "' for reading: " ++ reason e) 1 given.operands
  for (_, content) in found do print (String.join (wholeLines content).reverse)
  return status

def rev : Utility :=
  (OptionTable.ofLetters "").command "rev" 1 fun given => do
  let (status, found) ← gatherWith (fun name e =>
    "rev: cannot open " ++ name ++ ": " ++ reason e) 1 given.operands
  for (_, content) in found do
    print ("\n".intercalate ((content.splitOn "\n").map fun line => String.ofList line.toList.reverse))
  return status

def nl : Utility :=
  (OptionTable.mk "p" "bwsnvihfld" "" [("body-numbering", 'b'), ("number-width", 'w'),
    ("number-separator", 's'), ("number-format", 'n'), ("starting-line-number", 'v'),
    ("line-increment", 'i')] true).command "nl" 1 fun given => do
  let (status, found) ← gather "nl" given.operands
  let whole (letter : Char) (usual : Int) : Int :=
    ((given.value? letter).bind String.toInt?).getD usual
  let width := (whole 'w' 6).toNat
  let separator := (given.value? 's').getD "\t"
  let style := (given.value? 'b').getD "t"
  let counted (line : String) : Bool :=
    if style = "a" then true
    else if style = "n" then false
    else if style.startsWith "p" then
      match Regex.read .basic (style.toList.drop 1) with
      | .ok r => r.occursIn ⟨false, false⟩ (line.toList.filter (· ≠ '\n'))
      | .error _ => false
    else line ≠ "\n"
  let number (n : Int) : String :=
    let digits := toString n
    let shown := match given.value? 'n' with
      | some "ln" => digits ++ "".pushn ' ' (width - digits.length)
      | some "rz" => "".pushn '0' (width - digits.length) ++ digits
      | _ => rightAligned width digits
    shown ++ separator
  let blank := "".pushn ' ' (width + separator.length)
  let lines := (linesOf (String.join (found.map Prod.snd))).map (· ++ "\n")
  print (String.join (numbered (whole 'v' 1) (whole 'i' 1) counted number blank lines))
  return status

/-! ## Parts of files -/

/-- A part of a text: its front or its end, up to a size or without one, in lines or bytes. -/
structure Portion where
  bytes : Bool
  all : Bool
  size : Nat
  deriving DecidableEq, Repr

/-- The size that the value of an option asks for; a sign asks for all but that. -/
def Portion.ofText? (bytes : Bool) (sign : Char) (text : String) : Option Portion :=
  let signed := text.toList.head? = some sign
  let plain := text.toList.head? = some '-' || text.toList.head? = some '+'
  (sizeText? (if plain then (text.drop 1).toString else text)).map fun n => ⟨bytes, signed, n⟩
where
  /-- A number, perhaps with a letter that multiplies it. -/
  sizeText? (text : String) : Option Nat :=
    let digits := text.toList.takeWhile Char.isDigit
    match (String.ofList digits).toNat?, String.ofList (text.toList.drop digits.length) with
    | some n, "" => some n
    | some n, "b" => some (512 * n)
    | some n, "k" | some n, "K" => some (1024 * n)
    | some n, "M" => some (1048576 * n)
    | _, _ => none

def Portion.front (p : Portion) (text : String) : String :=
  if p.bytes then
    let kept := if p.all then text.utf8ByteSize - p.size else p.size
    String.ofList (takeBytes kept text.toList)
  else
    let lines := wholeLines text
    String.join (lines.take (if p.all then lines.length - p.size else p.size))

def Portion.back (p : Portion) (text : String) : String :=
  if p.bytes then
    String.ofList (dropBytes (if p.all then p.size - 1 else text.utf8ByteSize - p.size) text.toList)
  else
    let lines := wholeLines text
    String.join (lines.drop (if p.all then p.size - 1 else lines.length - p.size))

/-- The options of `head` and `tail`, where a number can be an option of its own. -/
def modernized (arguments : List String) : List String :=
  arguments.zipIdx.flatMap fun (a, n) =>
    let rest := a.toList.drop 1
    let letters := rest.dropWhile Char.isDigit
    let isOld := rest.head?.any Char.isDigit && (letters.all fun c => c ∈ ['c', 'l', 'q', 'v', 'f'])
    let number := String.ofList (rest.takeWhile Char.isDigit)
    if n = 0 && isOld && (a.startsWith "-" || a.startsWith "+") then
      let sign := if a.startsWith "+" then "+" else ""
      ["-" ++ (if 'c' ∈ letters then "c" else "n") ++ sign ++ number]
    else [a]

/-- Writes a part of the input or of each file; more than one get headers with their names. -/
def partly (command : String) (sign : Char) (old : Bool) (choose : Portion → String → String) :
    Utility := fun arguments =>
  (OptionTable.mk "qvfFz" "nc" "" [("lines", 'n'), ("bytes", 'c'), ("quiet", 'q'), ("silent", 'q'),
    ("verbose", 'v'), ("follow", 'f')] true).command command 1 (fun given => do
    let (letter, text) := ((given.options.filter fun row => row.1 ∈ ['n', 'c']).getLast?).getD
      ('n', "10")
    match Portion.ofText? (letter = 'c') sign text with
    | none =>
      let unit := if letter = 'c' then "bytes" else "lines"
      failing 1 (command ++ ": invalid number of " ++ unit ++ ": '" ++ text ++ "'")
    | some portion =>
      let headers := given.has 'v' || (1 < given.operands.length && !given.has 'q')
      let names := if given.operands.isEmpty then ["-"] else given.operands
      let (status, _) ← names.foldlM (fun (status, first) name => do
        let header (text : String) : String :=
          if headers then
            (if first then "" else "\n") ++ "==> " ++ (if name = "-" then "standard input" else name) ++
              " <==\n" ++ text
          else text
        match ← readOperand name with
        | .ok content =>
          print (header (choose portion content))
          return (status, false)
        | .error .isADirectory =>
          print (header "")
          complain (command ++ ": error reading '" ++ name ++ "': Is a directory")
          return (1, false)
        | .error e =>
          complain (command ++ ": cannot open '" ++ name ++ "' for reading: " ++ reason e)
          return (1, first)) ((0, true) : Nat × Bool)
      return status) (if old then modernized arguments else arguments)

def head : Utility := partly "head" '-' true Portion.front

def tail : Utility := partly "tail" '+' true Portion.back

/-! ## Parts of lines -/

abbrev Span : Type := Nat × Option Nat

def spans? (text : String) : Except String (List Span) :=
  ((text.splitOn ",").flatMap fun part => part.splitOn " ").mapM fun part => do
    let number (s : String) : Except String Nat :=
      if s.toList.all Char.isDigit && !s.isEmpty then .ok (s.toNat?.getD 0)
      else .error ("invalid field value '" ++ part ++ "'")
    match part.splitOn "-" with
    | [single] => do
      let n ← number single
      return (n, some n)
    | ["", ""] => .error "invalid range with no endpoint: -"
    | ["", last] => do return (1, some (← number last))
    | [first, ""] => do return (← number first, none)
    | [first, last] => do
      let (a, b) := (← number first, ← number last)
      if b < a then throw "invalid decreasing range"
      return (a, some b)
    | _ => .error ("invalid field value '" ++ part ++ "'")

def inSpans (spans : List Span) (n : Nat) : Bool :=
  spans.any fun (first, last) => first ≤ n && last.all (n ≤ ·)

/-- Writes parts of each line: characters, or fields between delimiters. -/
def cut : Utility :=
  (OptionTable.mk "snz" "bcfdo" "" [("bytes", 'b'), ("characters", 'c'), ("fields", 'f'),
    ("delimiter", 'd'), ("only-delimited", 's'), ("complement", 'n'), ("output-delimiter", 'o')]
    true).command "cut" 1 fun given => do
  let delimiter := (given.value? 'd').getD "\t"
  let lists := given.options.filter fun row => row.1 ∈ ['b', 'c', 'f']
  match lists with
  | [] => misused "cut" 1 "you must specify a list of bytes, characters, or fields"
  | (letter, list) :: more =>
    if !more.isEmpty then return ← misused "cut" 1 "only one list may be specified"
    if 1 < delimiter.length then
      return ← misused "cut" 1 "the delimiter must be a single character"
    match spans? list with
    | .error message => misused "cut" 1 message
    | .ok spans =>
      if spans.any fun span => span.1 = 0 then
        let what := if letter = 'f' then "fields are" else "byte/character positions are"
        return ← misused "cut" 1 (what ++ " numbered from 1")
      let chosen (n : Nat) : Bool := inSpans spans n != given.has 'n'
      let (status, found) ← gather "cut" given.operands
      let part (line : String) : Option String :=
        if letter = 'f' then
          match line.splitOn delimiter with
          | [whole] => if given.has 's' then none else some whole
          | parts => some (((given.value? 'o').getD delimiter).intercalate
              (parts.zipIdx.filterMap fun (text, n) => if chosen (n + 1) then some text else none))
        else
          let kept := line.toList.zipIdx.filter fun (_, n) => chosen (n + 1)
          match given.value? 'o' with
          | none => some (String.ofList (kept.map Prod.fst))
          | some between => some (String.ofList (joined between.toList kept))
      for (_, content) in found do print (ofLines ((linesOf content).filterMap part))
      return status
where
  /-- Characters with a text between those that did not stand next to each other. -/
  joined (between : List Char) : List (Char × Nat) → List Char
    | (a, n) :: (b, m) :: rest =>
      a :: (if n + 1 = m then [] else between) ++ joined between ((b, m) :: rest)
    | rest => rest.map Prod.fst

/-- Lines of a limited width. Where it can, a line ends after a blank if asked to. -/
def foldLine (width : Nat) (atBlanks : Bool) : (fuel : Nat) → List Char → List (List Char)
  | 0, cs => [cs]
  | fuel + 1, cs =>
    if cs.length ≤ width then [cs]
    else
      let front := cs.take width
      let trailing := (front.reverse.takeWhile fun c => !(c = ' ' || c = '\t')).length
      let size := if atBlanks && trailing < width then width - trailing else width
      cs.take size :: foldLine width atBlanks fuel (cs.drop size)

def fold : Utility := fun arguments =>
  let arguments := arguments.map fun a =>
    let digits := a.toList.drop 1
    if a.startsWith "-" && !digits.isEmpty && digits.all Char.isDigit then
      "-w" ++ String.ofList digits else a
  (OptionTable.mk "sb" "w" "" [("width", 'w'), ("spaces", 's'), ("bytes", 'b')] true).command
    "fold" 1 (fun given => do
      let text := (given.value? 'w').getD "80"
      match text.toNat? with
      | none | some 0 => failing 1 ("fold: invalid number of columns: '" ++ text ++ "'")
      | some width =>
        let (status, found) ← gather "fold" given.operands
        for (_, content) in found do
          let parts := (content.splitOn "\n").map fun line =>
            "\n".intercalate ((foldLine width (given.has 's') line.length line.toList).map
              String.ofList)
          print ("\n".intercalate parts)
        return status) arguments

/-- A line with blanks in the place of tabs. -/
def expandLine (stop : Nat) : (column : Nat) → List Char → List Char
  | _, [] => []
  | column, '\t' :: rest =>
    let size := stop - column % stop
    List.replicate size ' ' ++ expandLine stop (column + size) rest
  | _, '\n' :: rest => '\n' :: expandLine stop 0 rest
  | column, c :: rest => c :: expandLine stop (column + 1) rest

def expandTabs : Utility :=
  (OptionTable.mk "i" "t" "" [("tabs", 't'), ("initial", 'i')] true).command "expand" 1
    fun given => do
  let stop := max 1 (((given.value? 't').bind String.toNat?).getD 8)
  let (status, found) ← gather "expand" given.operands
  for (_, content) in found do print (String.ofList (expandLine stop 0 content.toList))
  return status

def unexpand : Utility :=
  (OptionTable.mk "a" "t" "" [("tabs", 't'), ("all", 'a')] true).command "unexpand" 1 fun given => do
  let stop := max 1 (((given.value? 't').bind String.toNat?).getD 8)
  let (status, found) ← gather "unexpand" given.operands
  for (_, content) in found do
    print ("\n".intercalate ((content.splitOn "\n").map fun line =>
      let blank := line.toList.takeWhile fun c => c = ' ' || c = '\t'
      let size := (expandLine stop 0 blank).length
      String.ofList (List.replicate (size / stop) '\t' ++ List.replicate (size % stop) ' ' ++
        line.toList.drop blank.length)))
  return status

/-! ## Lines side by side -/

def delimited (delimiters : List Char) : (n : Nat) → List String → String
  | _, [] => ""
  | _, [text] => text
  | n, text :: rest =>
    let between := (delimiters[n % max 1 delimiters.length]?).filter (· ≠ '\x00')
    text ++ String.ofList between.toList ++ delimited delimiters (n + 1) rest

/-- Rows of lines of several files, as long as there are any. -/
def rowsOf : (fuel : Nat) → List (List String) → List (List String)
  | 0, _ => []
  | fuel + 1, columns =>
    if columns.all List.isEmpty then []
    else columns.map (·.headD "") :: rowsOf fuel (columns.map List.tail)

/-- Writes lines of several files side by side, or all lines of each file on one line. -/
def paste : Utility :=
  (OptionTable.mk "sz" "d" "" [("serial", 's'), ("delimiters", 'd')] true).command "paste" 1
    fun given => do
  let delimiters := (unescapeDelimiters ((given.value? 'd').getD "\t").toList)
  let names := if given.operands.isEmpty then ["-"] else given.operands
  let inputs := names.filter (· = "-")
  let input ← if inputs.isEmpty then pure [] else do pure (linesOf (← readAll))
  let files ← names.mapM fun name => do
    if name = "-" then return Except.ok [] else return (← readPath name).map linesOf
  match (names.zip files).find? fun (_, content) => !content.isOk with
  | some (name, .error e) => failing 1 ("paste: " ++ name ++ ": " ++ reason e)
  | _ =>
    let width := inputs.length
    let columns := (names.zip files).foldl (fun (columns, n) (name, content) =>
      if name = "-" then
        let own := if given.has 's' then (if n = 0 then input else [])
          else (input.zipIdx.filter fun (_, k) => k % width = n).map Prod.fst
        (columns ++ [own], n + 1)
      else (columns ++ [content.toOption.getD []], n)) (([], 0) : List (List String) × Nat)
    if given.has 's' then print (ofLines (columns.1.map (delimited delimiters 0)))
    else
      let size := (columns.1.map List.length).foldl max 0
      print (ofLines ((rowsOf size columns.1).map (delimited delimiters 0)))
    return 0
where
  /-- Delimiters with their escapes carried out; an empty one is a NUL. -/
  unescapeDelimiters : List Char → List Char
    | '\\' :: '0' :: rest => '\x00' :: unescapeDelimiters rest
    | '\\' :: c :: rest => (escaped? c).getD c :: unescapeDelimiters rest
    | c :: rest => c :: unescapeDelimiters rest
    | [] => []

/-- Writes its input to files as well as to the output. -/
def tee : Utility :=
  (OptionTable.mk "aip" "" "" [("append", 'a')] true).command "tee" 1 fun given => do
  let text ← readAll
  print text
  forEach given.operands fun path => do
    return (← writePath path (given.has 'a') text).map fun e => "tee: " ++ path ++ ": " ++ reason e

/-! ## Files of parts -/

/-- The ending of the name of a part: letters or digits that count it. -/
def partName (digits : Bool) (width n : Nat) : String :=
  let base := if digits then 10 else 26
  let first := if digits then '0' else 'a'
  let rec signs : Nat → Nat → List Char
    | 0, _ => []
    | k + 1, n => signs k (n / base) ++ [Char.ofNat (first.toNat + n % base)]
  String.ofList (signs width n)

def bytePieces (size : Nat) : (fuel : Nat) → List Char → List String
  | 0, _ => []
  | _ + 1, [] => []
  | fuel + 1, cs =>
    String.ofList (takeBytes size cs) :: bytePieces size fuel (dropBytes size cs)

/-- Writes a file in parts, each to a file of its own. -/
def split : Utility :=
  (OptionTable.mk "dex" "lbanC" "" [("lines", 'l'), ("bytes", 'b'), ("suffix-length", 'a'),
    ("numeric-suffixes", 'd')] true).command "split" 1 fun given => do
  let name := given.operands.headD "-"
  let stem := (given.operands[1]?).getD "x"
  match ← readOperand name with
  | .error e =>
    failing 1 ("split: cannot open '" ++ name ++ "' for reading: " ++ reason e)
  | .ok content =>
    let size (letter : Char) (usual : Nat) : Nat :=
      max 1 (((given.value? letter).bind Portion.ofText?.sizeText?).getD usual)
    let parts := if given.has 'b' then
        bytePieces (size 'b' 1) (content.length + 1) content.toList
      else
        let lines := wholeLines content
        let step := size 'l' 1000
        (List.range ((lines.length + (step - 1)) / step)).map fun n =>
          String.join ((lines.drop (n * step)).take step)
    for (part, n) in parts.zipIdx do
      let _ ← writePath (stem ++ partName (given.has 'd') (size 'a' 2) n) false part
    return 0

end StorageBroker.Shell
