import StorageBroker.Shell.Script
import StorageBroker.Text.Scan

/-! # Reading scripts

How a text is read as commands. Every reader takes the readers of what is nested in it, so that
nesting is bounded. -/

set_option autoImplicit false

namespace StorageBroker.Shell

open Scan

/-! ## Blanks -/

def isMeta (c : Char) : Bool := c ∈ [' ', '\t', '\n', '|', '&', ';', '<', '>', '(', ')']

/-- Blanks within a line, and lines that are continued. -/
def blanks : Scan Unit := do
  let _ ← many (lit " " <|> lit "\t" <|> lit "\\\n")

def comment : Scan Unit := do
  lit "#"
  let _ ← takeWhile (· ≠ '\n')

def breaks : Scan Unit := do
  let _ ← many (lit " " <|> lit "\t" <|> lit "\\\n" <|> lit "\n" <|> comment)

def wordEnd : Scan Unit := do
  match ← peek with
  | none => return ()
  | some c => if isMeta c then return () else failure

/-! ## Quotes -/

/-- Text up to one of the characters that end it; a backslash keeps its meaning only before the
characters that it can hide. -/
def textRun (hidable ending : List Char) : List Char → List Char × List Char
  | [] => ([], [])
  | '\\' :: c :: rest =>
    let (run, after) := textRun hidable ending rest
    if c = '\n' then (run, after)
    else if c ∈ hidable then (c :: run, after)
    else ('\\' :: c :: run, after)
  | c :: rest =>
    if c ∈ ending then ([], c :: rest)
    else
      let (run, after) := textRun hidable ending rest
      (c :: run, after)

/-- The text between double quotes up to its end or to something that is expanded. -/
def quotedRun : List Char → List Char × List Char :=
  textRun ['$', '`', '"', '\\'] ['"', '$', '`']

def documentRun : List Char → List Char × List Char := textRun ['$', '`', '\\'] ['$', '`']

/-- A run of text, as long as there is any. -/
def runOf (run : List Char → List Char × List Char) : Scan Piece := fun s =>
  match run s with
  | ([], after) => if after.length < s.length then some (.text [] true, after) else none
  | (text, after) => some (.text text true, after)

def quotedText : Scan Piece := runOf quotedRun

def singleQuoted : Scan Piece := do
  lit "'"
  let s ← takeWhile (· ≠ '\'')
  lit "'"
  return .text s true

def startsName (c : Char) : Bool := c.isAlpha || c = '_'

def name : Scan String := do
  let first ← char startsName
  return String.ofList (first :: (← takeWhile fun c => c.isAlphanum || c = '_'))

/-- The name of a parameter: a variable, a digit, or one of the special signs. -/
def parameterName : Scan String :=
  name <|> do
    return String.ofList [← char fun c => c.isDigit || c ∈ ['$', '?', '#', '!', '@', '*', '-']]

/-- The name of a parameter in braces: it may have many digits. -/
def bracedName : Scan String :=
  (do let first ← char Char.isDigit
      return String.ofList (first :: (← takeWhile Char.isDigit))) <|> parameterName

/-! ## Homes -/

def homes : List (String × String) := [("root", "/root")]

/-- What stands for the home of a user: without a name, the variable for it if that is set. -/
def homePiece? (user : List Char) : Option Piece :=
  if user.isEmpty then
    some (.parameter "HOME" (.substitute .default false [.text ['~'] true]) true)
  else (homes.lookup (String.ofList user)).map fun path => .text path.toList true

/-- A word with a home for a tilde at its front and the name after it, which goes up to a slash. -/
def withHome : Word → Word
  | .text ('~' :: text) false :: rest =>
    let user := text.takeWhile (· ≠ '/')
    let after := text.drop user.length
    match if after.isEmpty && !rest.isEmpty then none else homePiece? user with
    | some piece => piece :: .text after false :: rest
    | none => .text ('~' :: text) false :: rest
  | word => word

def cutAtColons : Word → List Word
  | [] => [[]]
  | piece :: rest =>
    let parts : List Word := match piece with
      | .text text false =>
        ((String.ofList text).splitOn ":").map fun part => [.text part.toList false]
      | _ => [[piece]]
    match cutAtColons rest with
    | [] => parts
    | next :: more => parts.dropLast ++ (parts.getLastD [] ++ next) :: more

/-- A value with homes for tildes, which may stand at its front and after colons. -/
def withHomes (word : Word) : Word :=
  (((cutAtColons word).map withHome).intersperse [.text [':'] false]).flatten

/-! ## What is nested -/

/-- What can be nested in a word or a command: a script, a text as in a document, or a word up to a
closing brace, in quotes or not. -/
inductive Nested
  | script
  | document
  | braced (quoted : Bool)

abbrev Nested.Result : Nested → Type
  | .script => Command
  | .document | .braced _ => Word

section Readers

variable (inner : (n : Nested) → Scan n.Result)

/-- A text up to the closing parenthesis that belongs to one before it; `depth` others are open. -/
def balanced : (depth : Nat) → List Char → Option (List Char × List Char)
  | _, [] => none
  | 0, ')' :: rest => some ([], rest)
  | depth + 1, ')' :: rest => (balanced depth rest).map fun (text, after) => (')' :: text, after)
  | depth, '(' :: rest =>
    (balanced (depth + 1) rest).map fun (text, after) => ('(' :: text, after)
  | depth, c :: rest => (balanced depth rest).map fun (text, after) => (c :: text, after)

def substituteKind : Scan SubstituteKind :=
  (lit "-" *> pure .default) <|> (lit "=" *> pure .assignment) <|> (lit "?" *> pure .refusal) <|>
    (lit "+" *> pure .alternative)

def parameterUse (quoted : Bool) : Scan ParameterUse :=
  (do let emptyToo ← opt (lit ":")
      let kind ← substituteKind
      return .substitute kind emptyToo.isSome (← inner (.braced quoted))) <|>
  (do let (front, longest) ← (lit "%%" *> pure (false, true)) <|> (lit "%" *> pure (false, false)) <|>
        (lit "##" *> pure (true, true)) <|> (lit "#" *> pure (true, false))
      return .without front longest (← inner (.braced false))) <|>
  pure .value

/-- An expansion that starts with a dollar sign; a lone one stands for itself. Two parentheses always
open an expression. -/
def dollar (quoted : Bool) : Scan Piece := do
  lit "$"
  (do lit "(("
      let text ← balanced 0
      lit ")"
      match inner .document text with
      | some (expression, []) => return .arithmetic expression quoted
      | _ => failure) <|>
  (do lit "("
      if (← peek) = some '(' then failure
      let body ← opt (inner .script)
      breaks
      lit ")"
      return .output (body.getD (.sequence [])) quoted) <|>
  (do lit "\x7b#"
      let parameter ← bracedName
      lit "\x7d"
      return .parameter parameter .size quoted) <|>
  (do lit "\x7b"
      let parameter ← bracedName
      let use ← parameterUse inner quoted
      lit "\x7d"
      return .parameter parameter use quoted) <|>
  (do lit "\x7b"
      let _ ← inner (.braced quoted)
      lit "\x7d"
      return .parameter "" .impossible quoted) <|>
  (do return .parameter (← parameterName) .value quoted) <|>
  (do match ← peek with
      | some '(' | some '\x7b' => failure
      | _ => return .text ['$'] quoted)

/-- The text of a script in back quotes, where a backslash hides its special characters. -/
def backQuotedText : List Char → Option (List Char × List Char)
  | [] => none
  | '`' :: rest => some ([], rest)
  | '\\' :: c :: rest =>
    (backQuotedText rest).map fun (run, after) =>
      (if c ∈ ['$', '`', '\\'] then c :: run else '\\' :: c :: run, after)
  | c :: rest => (backQuotedText rest).map fun (run, after) => (c :: run, after)

def backQuoted (quoted : Bool) : Scan Piece := do
  lit "`"
  let text ← backQuotedText
  match (opt (inner .script) <* breaks) text with
  | some (body, []) => return .output (body.getD (.sequence [])) quoted
  | _ => failure

/-- A string in double quotes. All arguments alone make no field if there are none; any other string
makes one even if it is empty. -/
def doubleQuoted : Scan Word := do
  lit "\""
  let pieces ← many (quotedText <|> dollar inner true <|> backQuoted inner true)
  lit "\""
  match pieces with
  | [.parameter "@" .value _] => return pieces
  | _ => return .text [] true :: pieces

/-! ## Words -/

/-- A character that a backslash hides; a backslash that hides nothing stands for itself. -/
def hidden : Scan Piece := do
  lit "\\"
  (do return .text [← char (· ≠ '\n')] true) <|> (lit "\n" *> pure (.text [] false)) <|>
    pure (.text ['\\'] true)

def plainText : Scan Piece := do
  let special (c : Char) : Bool := isMeta c || c ∈ ['\\', '\'', '"', '$', '`']
  let first ← char fun c => !special c
  return .text (first :: (← takeWhile fun c => !special c)) false

def pieces : Scan Word :=
  doubleQuoted inner <|> do
    return [← singleQuoted <|> hidden <|> dollar inner false <|> backQuoted inner false <|>
      plainText]

/-- A word as it stands there; a comment is none. -/
def plainWord : Scan Word := do
  if (← peek) = some '#' then failure
  let first ← pieces inner
  return first ++ (← many (pieces inner)).flatten

def word : Scan Word := withHome <$> plainWord inner

/-- A word up to a closing brace: text between double quotes where the braces are in quotes, else
pieces and blanks. -/
def bracedWord (quoted : Bool) : Scan Word := do
  let plain : Scan Piece := do
    let special (c : Char) : Bool := c ∈ ['\\', '"', '$', '`', '\x7d'] || (c = '\'' && !quoted)
    let first ← char fun c => !special c
    return .text (first :: (← takeWhile fun c => !special c)) quoted
  let escaped : Scan Piece := do
    lit "\\"
    let c ← char fun _ => true
    return .text (if c ∈ ['$', '`', '"', '\\', '\x7d'] then [c] else ['\\', c]) true
  let bare : Scan Word := do
    return [← if quoted then plain <|> escaped <|> dollar inner true <|> backQuoted inner true
      else singleQuoted <|> hidden <|> dollar inner false <|> backQuoted inner false <|> plain]
  let word := (← many (bare <|> doubleQuoted inner)).flatten
  return if quoted then word else withHome word

/-- Words that have a meaning of their own at the start of a command. -/
def reserved : List String :=
  ["if", "then", "else", "elif", "fi", "do", "done", "case", "esac", "while", "until", "for",
   "\x7b", "\x7d", "!"]

def keyword (text : String) : Scan Unit := breaks *> lit text <* wordEnd

def commandWord : Scan Word := do
  match ← word inner with
  | [.text s false] => if String.ofList s ∈ reserved then failure else return [.text s false]
  | w => return w

/-! ## Simple commands -/

/-- Lines up to one that ends a document, and the text after that. Tabs in front of lines may be
left out. -/
def documentLines (withoutTabs : Bool) (ending : List Char) :
    Nat → List Char → List Char × List Char
  | 0, rest => ([], rest)
  | _, [] => ([], [])
  | fuel + 1, rest =>
    let line := rest.takeWhile (· ≠ '\n')
    let lineEnd := (rest.drop line.length).take 1
    let after := rest.drop (line.length + 1)
    let line := if withoutTabs then line.dropWhile (· = '\t') else line
    if line = ending then ([], after)
    else
      let (text, after) := documentLines withoutTabs ending fuel after
      (line ++ lineEnd ++ text, after)

/-- A document: it starts on the line after the one that asks for it, and ends before a line with
the given word. If any of that word is quoted, nothing is expanded. -/
def document : Scan Word := do
  let withoutTabs ← opt (lit "-")
  blanks
  let ending ← plainWord inner
  let text := ending.flatMap fun
    | .text s _ => s
    | _ => []
  let literal := ending.any fun
    | .text _ quoted => quoted
    | _ => false
  let rest ← get
  let line := rest.takeWhile (· ≠ '\n')
  let (body, after) :=
    documentLines withoutTabs.isSome text rest.length (rest.drop (line.length + 1))
  set (line ++ '\n' :: after)
  if literal then return [.text body true]
  match inner .document body with
  | some (pieces, []) => return pieces
  | _ => failure

def redirection : Scan Redirection := do
  let digits ← takeWhile Char.isDigit
  let descriptor (standard : Nat) : Nat := (String.ofList digits).toNat?.getD standard
  (do lit "<<"
      return .mk (descriptor 0) .document (← document inner)) <|> do
    let (standard, kind) ←
      (lit ">>" *> pure (1, .append)) <|> (lit ">&" *> pure (1, .duplicate)) <|>
      (lit ">|" *> pure (1, .replacement)) <|> (lit ">" *> pure (1, .output)) <|>
      (lit "<&" *> pure (0, .duplicate)) <|> (lit "<" *> pure (0, RedirectionKind.input))
    blanks
    return .mk (descriptor standard) kind (← word inner)

def assignment : Scan (String × Word) := do
  let target ← name
  lit "="
  return (target, withHomes ((← opt (plainWord inner)).getD []))

def simple : Scan Command := do
  let front ← many (blanks *>
    ((Sum.inl <$> redirection inner) <|> (Sum.inr <$> assignment inner)))
  blanks
  let first ← opt (commandWord inner)
  let back ← many (blanks *>
    ((Sum.inl <$> redirection inner) <|> (Sum.inr <$> word inner)))
  if front.isEmpty && first.isNone then failure
  let left {α β : Type} : α ⊕ β → Option α := fun x => x.getLeft?
  let right {α β : Type} : α ⊕ β → Option β := fun x => x.getRight?
  return .simple (front.filterMap right) (first.toList ++ back.filterMap right)
    (front.filterMap left ++ back.filterMap left)

/-! ## Compound commands -/

def conditional : Scan Command := do
  keyword "if"
  let condition ← inner .script
  keyword "then"
  let body ← inner .script
  let more ← many do
    keyword "elif"
    let condition ← inner .script
    keyword "then"
    return (condition, ← inner .script)
  let otherwise ← opt (keyword "else" *> inner .script)
  keyword "fi"
  return .branch ((condition, body) :: more) otherwise

def loopOver : Scan Command := do
  keyword "for"
  blanks
  let target ← name
  let words ← opt (keyword "in" *> many (blanks *> word inner))
  blanks
  let _ ← opt (lit ";")
  keyword "do"
  let body ← inner .script
  keyword "done"
  return .each target words body

/-- One case of a choice: its patterns, and what is done if one of them matches. -/
def choiceCase : Scan (List Word × Command) := do
  breaks
  let opened ← opt (lit "(")
  blanks
  if opened.isNone && ((keyword "esac") (← get)).isSome then failure
  let patterns ← separated (blanks *> word inner) (blanks *> lit "|")
  blanks
  lit ")"
  let body ← opt (inner .script)
  breaks
  let _ ← opt (lit ";;")
  return (patterns, body.getD (.sequence []))

def choice : Scan Command := do
  keyword "case"
  blanks
  let subject ← word inner
  keyword "in"
  let cases ← many (choiceCase inner)
  keyword "esac"
  return .choice subject cases

def loopWhile : Scan Command := do
  let negated ← (keyword "while" *> pure false) <|> (keyword "until" *> pure true)
  let condition ← inner .script
  keyword "do"
  let body ← inner .script
  keyword "done"
  return .repeated negated condition body

def grouped : Scan Command :=
  (do keyword "\x7b"
      let body ← inner .script
      keyword "\x7d"
      return body) <|> do
    breaks
    lit "("
    let body ← inner .script
    breaks
    lit ")"
    return .subshell body

def compound : Scan Command := do
  let c ← conditional inner <|> loopOver inner <|> loopWhile inner <|> choice inner <|>
    grouped inner
  match ← many (blanks *> redirection inner) with
  | [] => return c
  | redirections => return .redirected c redirections

def definition : Scan Command := do
  let defined ← name
  blanks
  lit "("
  blanks
  lit ")"
  breaks
  return .definition defined (← compound inner)

def command : Scan Command := compound inner <|> definition inner <|> simple inner

def pipeline : Scan Command := do
  let negated ← opt (keyword "!" *> blanks)
  let stages ← separated (breaks *> command inner) (blanks *> lit "|" <* notBar)
  let joined : Command := match stages with
    | [c] => c
    | _ => .pipeline stages
  return if negated.isSome then .negated joined else joined
where
  /-- No second bar follows. -/
  notBar : Scan Unit := do
    if (← peek) = some '|' then failure

def chain : Scan Command := do
  let first ← pipeline inner
  let more ← many do
    blanks
    let both ← (lit "&&" *> pure true) <|> (lit "||" *> pure false)
    breaks
    return (both, ← pipeline inner)
  return more.foldl (fun c next => if next.1 then .both c next.2 else .either c next.2) first

/-- What separates commands on a line: whether the one before it is run in the background. -/
def separator : Scan Bool := do
  blanks
  (lit ";" *> notAgain ';' *> pure false) <|> (lit "&" *> notAgain '&' *> pure true)
where
  /-- The same character does not follow. -/
  notAgain (c : Char) : Scan Unit := do
    if (← peek) = some c then failure

def commands (between : Scan Bool) : Scan Command := do
  let first ← chain inner
  let more ← many do
    let background ← between
    return (background, ← chain inner)
  let closing ← opt between
  let marks := more.map Prod.fst ++ [closing.getD false]
  let all := (first :: more.map Prod.snd).zipWith
    (fun c background => if background then .background c else c) marks
  return match all with
    | [c] => c
    | _ => .sequence all

def nested : Scan Command := do
  breaks
  commands inner ((separator <* breaks) <|> do
    blanks
    let _ ← opt comment
    lit "\n"
    breaks
    return false)

end Readers

def nestedReader : Nat → (n : Nested) → Scan n.Result
  | 0, _ => failure
  | depth + 1, .script => nested (nestedReader depth)
  | depth + 1, .document => do
    let inner := nestedReader depth
    many (runOf documentRun <|> dollar inner true <|> backQuoted inner true)
  | depth + 1, .braced quoted => bracedWord (nestedReader depth) quoted

def commandLine (depth : Nat) : Scan (Option Command) := do
  breaks
  match ← peek with
  | none => return none
  | some _ =>
    let c ← commands (nestedReader depth) separator
    blanks
    let _ ← opt comment
    match ← peek with
    | none => return some c
    | some _ =>
      lit "\n"
      return some c

/-- The commands of a text, line by line, at most so many, each with the number of its line; `none`
stands for the first line that cannot be read, after which nothing is. -/
def lines (depth : Nat) : (fuel : Nat) → (number : Nat) → List Char → List (Nat × Option Command)
  | 0, _, _ => []
  | fuel + 1, number, text =>
    let start := ((breaks text).map Prod.snd).getD text
    let first := number + (text.take (text.length - start.length)).count '\n'
    match commandLine depth start with
    | none => [(first, none)]
    | some (none, _) => []
    | some (some c, rest) =>
      let next := first + (start.take (start.length - rest.length)).count '\n'
      (first, some c) :: lines depth fuel next rest

end StorageBroker.Shell
