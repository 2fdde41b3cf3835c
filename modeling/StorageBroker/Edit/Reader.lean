import StorageBroker.Edit.Basic
import StorageBroker.Regex.Reader
import StorageBroker.Text.Decimal

/-! # Reading scripts

Steps are separated by semicolons and ends of lines. A step has the lines in front for which it is
done, a letter for what it does, and after it what that letter needs. -/

set_option autoImplicit false

namespace StorageBroker.Edit

inductive Problem
  | unknownCommand (letter : Char)
  | noCommand
  | unexpectedComma
  | unexpectedClosing
  | openBlock
  | openSubstitution
  | openExchange
  | openAddress
  | unknownFlag
  | repeatedFlag (letter : Char)
  | repeatedNumber
  | numberZero
  | lineZero
  | relativeStart
  | trailing
  | noText
  | noFile
  | noLabel
  | labelWithLines
  | remarkWithLines
  | closingWithLines
  | manyLines
  | repeatedNegation
  | differentLengths
  | noSuchGroup (number : Nat)
  | newerVersion
  | expression (e : RegexError)
  deriving DecidableEq, Repr

def Problem.message : Problem → String
  | .unknownCommand letter => "unknown command: `" ++ letter.toString ++ "'"
  | .noCommand => "missing command"
  | .unexpectedComma => "unexpected `,'"
  | .unexpectedClosing => "unexpected `\x7d'"
  | .openBlock => "unmatched `\x7b'"
  | .openSubstitution => "unterminated `s' command"
  | .openExchange => "unterminated `y' command"
  | .openAddress => "unterminated address regex"
  | .unknownFlag => "unknown option to `s'"
  | .repeatedFlag letter => "multiple `" ++ letter.toString ++ "' options to `s' command"
  | .repeatedNumber => "multiple number options to `s' command"
  | .numberZero => "number option to `s' command may not be zero"
  | .lineZero => "invalid usage of line address 0"
  | .relativeStart => "invalid usage of +N or ~N as first address"
  | .trailing => "extra characters after command"
  | .noText => "expected \\ after `a', `c' or `i'"
  | .noFile => "missing filename in r/R/w/W commands"
  | .noLabel => "\":\" lacks a label"
  | .labelWithLines => ": doesn't want any addresses"
  | .remarkWithLines => "comments don't accept any addresses"
  | .closingWithLines => "\x7d doesn't want any addresses"
  | .manyLines => "command only uses one address"
  | .repeatedNegation => "multiple `!'s"
  | .differentLengths => "strings for `y' command are different lengths"
  | .noSuchGroup number => "invalid reference \\" ++ toString number ++ " on `s' command's RHS"
  | .newerVersion => "expected newer version of sed"
  | .expression e => e.message

/-- Reading: what is left of a script changes, and there may be something wrong with it. -/
abbrev Reading (α : Type) : Type := EStateM Problem (List Char) α

/-! ## Texts in scripts -/

def isSpace (c : Char) : Bool := c = ' ' || c = '\t'

def readWhile (p : Char → Bool) : Reading (List Char) :=
  modifyGet fun cs => (cs.takeWhile p, cs.dropWhile p)

def readBlanks : Reading Unit := do discard (readWhile isSpace)

def readNumber : Reading Nat := do
  return (Text.digits? 10 (← readWhile Char.isDigit)).getD 0

def readNext : Reading (Option Char) := modifyGet fun
  | [] => (none, [])
  | c :: rest => (some c, rest)

/-- The set at the front of a text, whose opening bracket has been read, and the text after it. -/
def setText : (fuel : Nat) → (first : Bool) → List Char → Option (List Char × List Char)
  | 0, _, _ => none
  | _ + 1, _, [] => none
  | fuel + 1, _, '[' :: sign :: rest =>
    let named := if sign ∈ [':', '.', '='] then Regex.bracketName? sign rest else none
    match named with
    | some (name, after) =>
      (setText fuel false after).map fun (text, rest) =>
        ('[' :: sign :: name ++ sign :: ']' :: text, rest)
    | none => (setText fuel false (sign :: rest)).map fun (text, rest) => ('[' :: text, rest)
  | fuel + 1, first, c :: rest =>
    if c = ']' && !first then some ([c], rest)
    else (setText fuel (first && c = '^') rest).map fun (text, rest) => (c :: text, rest)

def inFront (cs : List Char) (cut : List Char × List Char × Bool) : List Char × List Char × Bool :=
  (cs ++ cut.1, cut.2)

/-- The text up to a sign that is not hidden by a backslash, what follows, and whether the sign was
found on the same line. In an expression the sign can also stand within a set. -/
def upTo (sign : Char) (isExpression : Bool) : (fuel : Nat) → List Char →
    List Char × List Char × Bool
  | 0, cs => ([], cs, false)
  | _ + 1, [] => ([], [], false)
  | _ + 1, ['\\'] => ([], [], false)
  | fuel + 1, '\\' :: c :: rest =>
    let kept : List Char :=
      if isExpression && c = 'n' && sign ≠ 'n' then ['\n']
      else if c = '\n' || (c = sign && (isExpression || c ≠ '&')) then [c]
      else ['\\', c]
    inFront kept (upTo sign isExpression fuel rest)
  | fuel + 1, c :: rest =>
    if c = sign then ([], rest, true)
    else if c = '\n' then ([], c :: rest, false)
    else if isExpression && c = '[' then
      match setText (rest.length + 1) true rest with
      | some (text, after) => inFront (c :: text) (upTo sign isExpression fuel after)
      | none => ([], [], false)
    else inFront [c] (upTo sign isExpression fuel rest)

def readUpTo (sign : Char) (isExpression : Bool) (otherwise : Problem) : Reading (List Char) := do
  let cs ← get
  let (text, rest, closed) := upTo sign isExpression (cs.length + 1) cs
  set rest
  if closed then return text else throw otherwise

def numbered? (base most : Nat) (cs : List Char) : Option (Char × List Char) :=
  let digits := (cs.take most).takeWhile fun c => (Text.digits? base [c]).isSome
  if digits.isEmpty then none
  else some (Char.ofNat ((Text.digits? base digits).getD 0 % 256), cs.drop digits.length)

/-- The character that is written by its number or as a control character after a backslash, and the
text after it. -/
def madeByNumber? : List Char → Option (Char × List Char)
  | 'd' :: rest => numbered? 10 3 rest
  | 'o' :: rest => numbered? 8 3 rest
  | 'x' :: rest => numbered? 16 2 rest
  | 'c' :: c :: rest =>
    let n := c.toUpper.toNat
    some (Char.ofNat (if n < 64 then n + 64 else n - 64), rest)
  | _ => none

def made? (cs : List Char) : Option (Char × List Char) :=
  match madeByNumber? cs, cs with
  | some found, _ => some found
  | none, c :: rest => (Regex.letter? c).map fun made => (made, rest)
  | none, [] => none

/-- An expression in which characters are no longer written by their numbers. -/
def withoutNumbers : (fuel : Nat) → List Char → List Char
  | 0, cs => cs
  | _ + 1, [] => []
  | fuel + 1, '\\' :: c :: rest =>
    match madeByNumber? (c :: rest) with
    | some ('\\', after) => '\\' :: '\\' :: withoutNumbers fuel after
    | some (made, after) => made :: withoutNumbers fuel after
    | none => '\\' :: c :: withoutNumbers fuel rest
  | fuel + 1, c :: rest => c :: withoutNumbers fuel rest

/-- Reads the text of an expression; without a text it is what was looked for last. -/
def sought (extended : Bool) (m : Matching) (text : List Char) : Except Problem Sought :=
  if text.isEmpty then .ok none
  else
    let form : RegexForm := ⟨extended, true, false, true, false, !extended⟩
    match Regex.read form (withoutNumbers (text.length + 1) text) with
    | .ok r => .ok (some (r, m))
    | .error e => .error (.expression e)

/-! ## Addresses -/

/-- Reads the letters after an expression that say how it is used. -/
def readUse : (fuel : Nat) → Matching → Reading Matching
  | 0, m => return m
  | fuel + 1, m => do
    readBlanks
    match ← get with
    | 'I' :: rest =>
      set rest
      readUse fuel { m with foldCase := true }
    | 'M' :: rest =>
      set rest
      readUse fuel { m with byLine := true }
    | _ => return m

/-- Reads an expression that tells a line, up to a sign. -/
def readFinding (extended : Bool) (sign : Char) : Reading Address := do
  let text ← readUpTo sign true .openAddress
  let m ← readUse ((← get).length + 1) ⟨false, false⟩
  return .finding (← ofExcept (sought extended m text))
where
  /-- Takes over a problem. -/
  ofExcept {α : Type} : Except Problem α → Reading α
    | .ok a => return a
    | .error e => throw e

def readAddress? (extended : Bool) : Reading (Option Address) := do
  match ← get with
  | '$' :: rest =>
    set rest
    return some .last
  | '/' :: rest =>
    set rest
    return some (← readFinding extended '/')
  | '\\' :: sign :: rest =>
    set rest
    return some (← readFinding extended sign)
  | c :: _ =>
    if !c.isDigit then return none
    let n ← readNumber
    readBlanks
    match ← get with
    | '~' :: rest =>
      set rest
      readBlanks
      let distance ← readNumber
      return some (if distance = 0 then .line n else .every n distance)
    | _ => return some (.line n)
  | [] => return none

def readEnding (extended : Bool) : Reading Ending := do
  readBlanks
  match ← get with
  | '+' :: rest =>
    set rest
    return .further (← readNumber)
  | '~' :: rest =>
    set rest
    return .multiple (← readNumber)
  | cs =>
    match ← readAddress? extended with
    | some a => return .address a
    | none =>
      set (cs.drop 1)
      throw .unexpectedComma

def readSelection (extended : Bool) : Reading Selection := do
  match ← get with
  | '+' :: rest | '~' :: rest =>
    set (rest.dropWhile Char.isDigit)
    discard readNext
    throw .relativeStart
  | _ => pure ()
  let first ← readAddress? extended
  readBlanks
  let ending ← match first, ← get with
    | some _, ',' :: rest => do
      set rest
      let ending ← readEnding extended
      readBlanks
      pure (some ending)
    | _, _ => pure none
  match first, ending with
  | some (.line 0), some (.address (.finding _)) => pure ()
  | some (.line 0), _ =>
    discard readNext
    throw .lineZero
  | _, _ => pure ()
  match ← get with
  | '!' :: rest =>
    set rest
    readBlanks
    match ← get with
    | '!' :: rest =>
      set rest
      throw .repeatedNegation
    | _ => return ⟨first, ending, true⟩
  | _ => return ⟨first, ending, false⟩

/-! ## Steps -/

def readEnd : Reading Unit := do
  readBlanks
  match ← get with
  | '\x7d' :: _ | '#' :: _ | [] => return ()
  | c :: rest =>
    set rest
    if c ≠ '\n' && c ≠ ';' then throw .trailing

def ended (action : Action) : Reading Action := do
  readEnd
  return action

def readPath : Reading String := do
  readBlanks
  let path ← readWhile (· ≠ '\n')
  discard readNext
  if path.isEmpty then throw .noFile
  return String.ofList path

def readOutput : Reading Output := do
  match ← readPath with
  | "/dev/stdout" => return .descriptor 1
  | "/dev/stderr" => return .descriptor 2
  | path => return .file path

def readLabel : Reading String := do
  readBlanks
  let name ← readWhile fun c => !isSpace c && c ≠ '\n' && c ≠ ';' && c ≠ '\x7d'
  return String.ofList name

def textLines : (fuel : Nat) → List Char → List Char × List Char
  | 0, cs => ([], cs)
  | _ + 1, [] => ([], [])
  | _ + 1, '\n' :: rest => ([], rest)
  | _ + 1, ['\\'] => ([], [])
  | fuel + 1, '\\' :: c :: rest =>
    let (made, after) := (made? (c :: rest)).getD (c, rest)
    let (text, rest) := textLines fuel after
    (made :: text, rest)
  | fuel + 1, c :: rest =>
    let (text, rest) := textLines fuel rest
    (c :: text, rest)

/-- Reads a text that is written: after a backslash, or on the same line. -/
def readText : Reading String := do
  readBlanks
  match ← get with
  | [] => throw .noText
  | ['\\'] =>
    set ([] : List Char)
    return ""
  | '\\' :: rest =>
    match rest.dropWhile isSpace with
    | '\n' :: after => set after
    | _ => set rest
  | _ => pure ()
  let cs ← get
  let (text, rest) := textLines (cs.length + 1) cs
  set rest
  return String.ofList text ++ "\n"

def pieces : (fuel : Nat) → List Char → List Piece
  | 0, _ => []
  | _ + 1, [] => []
  | fuel + 1, '&' :: rest => .group 0 :: pieces fuel rest
  | fuel + 1, '\\' :: c :: rest =>
    match c with
    | 'L' => .onward .lower :: pieces fuel rest
    | 'U' => .onward .upper :: pieces fuel rest
    | 'E' => .onward .kept :: pieces fuel rest
    | 'l' => .once .lower :: pieces fuel rest
    | 'u' => .once .upper :: pieces fuel rest
    | _ =>
      if c.isDigit then .group (c.toNat - 48) :: pieces fuel rest
      else
        let (made, after) := (made? (c :: rest)).getD (c, rest)
        .text [made] :: pieces fuel after
  | fuel + 1, c :: rest => .text [c] :: pieces fuel rest

structure Flags where
  matching : Matching
  nth : Option Nat
  all : Bool
  shown : Bool
  run : Bool
  copied : Option Output

def readFlags : (fuel : Nat) → Flags → Reading Flags
  | 0, flags => return flags
  | fuel + 1, flags => do
    match ← get with
    | [] | '\x7d' :: _ | '#' :: _ => return flags
    | c :: rest =>
      set rest
      match c with
      | '\n' | ';' => return flags
      | ' ' | '\t' | '\r' => readFlags fuel flags
      | 'i' | 'I' =>
        readFlags fuel { flags with matching := { flags.matching with foldCase := true } }
      | 'm' | 'M' =>
        readFlags fuel { flags with matching := { flags.matching with byLine := true } }
      | 'e' => readFlags fuel { flags with run := true }
      | 'p' =>
        if flags.shown then throw (.repeatedFlag c)
        readFlags fuel { flags with shown := true }
      | 'g' =>
        if flags.all then throw (.repeatedFlag c)
        readFlags fuel { flags with all := true }
      | 'w' =>
        let output ← readOutput
        return { flags with copied := some output }
      | _ =>
        if !c.isDigit then throw .unknownFlag
        set (c :: rest)
        let n ← readNumber
        if n = 0 then throw .numberZero
        if flags.nth.isSome then throw .repeatedNumber
        readFlags fuel { flags with nth := some n }

def readSubstitution (extended : Bool) : Reading Action := do
  match ← readNext with
  | none => throw .openSubstitution
  | some sign =>
    let text ← readUpTo sign true .openSubstitution
    let made ← readUpTo sign false .openSubstitution
    let flags ← readFlags ((← get).length + 1) ⟨⟨false, false⟩, none, false, false, false, none⟩
    let pieces := pieces (made.length + 1) made
    match sought extended flags.matching text with
    | .error e => throw e
    | .ok what =>
      let missing := pieces.findSome? fun
        | .group n => if what.any fun (r, _) => r.lastGroup < n then some n else none
        | _ => none
      match missing with
      | some n => throw (.noSuchGroup n)
      | none =>
        return .substitute
          ⟨what, pieces, flags.nth.getD 1, flags.all, flags.shown, flags.run, flags.copied⟩

def exchangeable : (fuel : Nat) → List Char → List Char
  | 0, _ => []
  | _ + 1, [] => []
  | fuel + 1, '\\' :: c :: rest =>
    let (made, after) := (made? (c :: rest)).getD (c, rest)
    made :: exchangeable fuel after
  | fuel + 1, c :: rest => c :: exchangeable fuel rest

def readExchange : Reading Action := do
  match ← readNext with
  | none => throw .openExchange
  | some sign =>
    let these ← readUpTo sign false .openExchange
    let those ← readUpTo sign false .openExchange
    let these := exchangeable (these.length + 1) these
    let those := exchangeable (those.length + 1) those
    if these.length ≠ those.length then
      readEnd
      throw .differentLengths
    ended (.exchange these those)

def readOptional : Reading (Option Nat) := do
  readBlanks
  if (← get).head?.any Char.isDigit then return some (← readNumber) else return none

def readAction (extended : Bool) (lines : Selection) (letter : Char) : Reading Action := do
  match letter with
  | '\x7b' => return .openBlock
  | '\x7d' =>
    if lines.first.isSome then throw .closingWithLines
    ended .closeBlock
  | ':' =>
    if lines.first.isSome then throw .labelWithLines
    let name ← readLabel
    if name.isEmpty then throw .noLabel
    return .label name
  | 'b' => return .jump (← readLabel)
  | 't' => return .jumpIfReplaced (← readLabel)
  | 'T' => return .jumpUnlessReplaced (← readLabel)
  | 's' => readSubstitution extended
  | 'y' => readExchange
  | 'a' => return .append (← readText)
  | 'i' => return .insert (← readText)
  | 'c' => return .change (← readText)
  | 'd' => ended .delete
  | 'D' => ended .deleteFirst
  | 'z' => ended .clear
  | 'p' => ended .print
  | 'P' => ended .printFirst
  | 'l' => ended (.printPlainly (← readOptional))
  | '=' => ended .printNumber
  | 'F' => ended .printName
  | 'n' => ended .next
  | 'N' => ended .nextAppended
  | 'h' => ended .keep
  | 'H' => ended .keepAppended
  | 'g' => ended .recall
  | 'G' => ended .recallAppended
  | 'x' => ended .swap
  | 'q' | 'Q' =>
    if lines.ending.isSome then throw .manyLines
    let status := (← readOptional).getD 0
    ended (if letter = 'q' then .quit status else .stop status)
  | 'r' => return .readFile (← readPath)
  | 'R' => return .readLine (← readPath)
  | 'w' => return .write (← readOutput)
  | 'W' => return .writeFirst (← readOutput)
  | 'e' =>
    readBlanks
    let command ← readWhile (· ≠ '\n')
    discard readNext
    return .run (String.ofList command)
  | _ => throw (.unknownCommand letter)

def readSteps (extended : Bool) : (fuel : Nat) → (number depth : Nat) → Reading (List Step)
  | 0, _, _ => return []
  | fuel + 1, number, depth => do
    modify fun cs => cs.dropWhile fun c => c = ';' || c.isWhitespace
    if (← get).isEmpty then
      if depth = 0 then return [] else throw .openBlock
    let lines ← readSelection extended
    match ← readNext with
    | none | some ';' | some '\n' => throw .noCommand
    | some '#' =>
      if lines.first.isSome then throw .remarkWithLines
      discard (readWhile (· ≠ '\n'))
      readSteps extended fuel number depth
    | some 'v' =>
      let version ← readLabel
      if "4.9" < version && !version.startsWith "4." then throw .newerVersion
      readEnd
      readSteps extended fuel number depth
    | some letter =>
      if letter = '\x7d' && depth = 0 then throw .unexpectedClosing
      let action ← readAction extended lines letter
      let depth := match action with
        | .openBlock => depth + 1
        | .closeBlock => depth - 1
        | _ => depth
      let more ← readSteps extended fuel (number + 1) depth
      return ⟨number, lines, action⟩ :: more

/-- Reads a script. What is wrong with it comes with the characters that are left then. -/
def readScript (extended : Bool) (script : List Char) : Except (Problem × Nat) (List Step) :=
  match readSteps extended (script.length + 1) 0 0 script with
  | .ok steps _ => .ok steps
  | .error e rest => .error (e, rest.length)

def missingLabel? (steps : List Step) : Option String :=
  let labels := steps.filterMap fun step =>
    match step.action with
    | .label name => some name
    | _ => none
  steps.findSome? fun step =>
    match step.action with
    | .jump name | .jumpIfReplaced name | .jumpUnlessReplaced name =>
      if name.isEmpty || name ∈ labels then none else some name
    | _ => none

end StorageBroker.Edit
