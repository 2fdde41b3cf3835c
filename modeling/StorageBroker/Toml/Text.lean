import StorageBroker.Text.Scan

/-! # Strings and keys

The four ways to write a string, and the keys of rows and headers. -/

set_option autoImplicit false

namespace StorageBroker.Toml

/-- Whether a character may stand in a comment or in a string as it is. -/
def isPlain (c : Char) : Bool := c = '\t' || (' ' ≤ c && c ≠ '\x7f')

def blanks : Scan Unit := do
  let _ ← Scan.takeWhile fun c => c = ' ' || c = '\t'

def newline : Scan Unit := Scan.lit "\n" <|> Scan.lit "\r\n"

/-! ## Escapes -/

def codePoint (digits : Nat) : Scan Char := do
  let isHex (c : Char) : Bool :=
    c.isDigit || ('a' ≤ c && c ≤ 'f') || ('A' ≤ c && c ≤ 'F')
  let written ← Scan.times isHex digits
  let value (c : Char) : Nat :=
    if c.isDigit then c.toNat - 48 else if 'a' ≤ c then c.toNat - 87 else c.toNat - 55
  let n := written.foldl (fun n c => n * 16 + value c) 0
  if n.isValidChar then return Char.ofNat n else failure

def escape : Scan Char := do
  Scan.lit "\\"
  match ← Scan.char fun _ => true with
  | 'b' => return '\x08'
  | 't' => return '\t'
  | 'n' => return '\n'
  | 'f' => return '\x0c'
  | 'r' => return '\r'
  | '"' => return '"'
  | '\\' => return '\\'
  | 'u' => codePoint 4
  | 'U' => codePoint 8
  | _ => failure

/-! ## Strings of one line -/

def basicString : Scan String := do
  Scan.lit "\""
  let content ← Scan.many (escape <|> Scan.char fun c => isPlain c && c ≠ '"' && c ≠ '\\')
  Scan.lit "\""
  return String.ofList content

/-- A string in single quotes, as it is. -/
def literalString : Scan String := do
  Scan.lit "'"
  let content ← Scan.takeWhile fun c => isPlain c && c ≠ '\''
  Scan.lit "'"
  return String.ofList content

/-! ## Strings of several lines -/

def looseQuotes (quote : Char) : Scan (List Char) := do
  let run ← Scan.takeWhile (· = quote)
  if run.length = 1 ∨ run.length = 2 then return run else failure

/-- The three quotes that end a string, with up to two more before them that belong to it. -/
def closingQuotes (quote : Char) : Scan (List Char) := do
  let run ← Scan.takeWhile (· = quote)
  if 3 ≤ run.length ∧ run.length ≤ 5 then return run.drop 3 else failure

/-- A line end that a backslash hides, with the blanks and line ends after it. -/
def hiddenNewline : Scan (List Char) := do
  Scan.lit "\\"
  blanks
  newline
  let _ ← Scan.many (newline <|> do
    let _ ← Scan.char fun c => c = ' ' || c = '\t')
  return []

def longString (quote : Char) (piece : Scan (List Char)) : Scan String := do
  Scan.lit (String.ofList [quote, quote, quote])
  let _ ← Scan.opt newline
  let line : Scan (List Char) := do
    newline
    return ['\n']
  let pieces ← Scan.many (piece <|> line <|> looseQuotes quote)
  let last ← closingQuotes quote
  return String.ofList (pieces.flatten ++ last)

/-- A string in three double quotes, with escapes. -/
def longBasicString : Scan String :=
  longString '"' (hiddenNewline <|> (do return [← escape]) <|> do
    return [← Scan.char fun c => isPlain c && c ≠ '"' && c ≠ '\\'])

/-- A string in three single quotes, as it is. -/
def longLiteralString : Scan String :=
  longString '\'' do
    return [← Scan.char fun c => isPlain c && c ≠ '\'']

def string : Scan String :=
  longBasicString <|> basicString <|> longLiteralString <|> literalString

/-! ## Keys -/

def keyPart : Scan String :=
  basicString <|> literalString <|> do
    let first ← Scan.char isBare
    return String.ofList (first :: (← Scan.takeWhile isBare))
where
  /-- Whether a character may stand in a key without quotes. -/
  isBare (c : Char) : Bool := c.isAlphanum || c = '-' || c = '_'

/-- How deep values may be nested, and how many parts a key may have. -/
def depthLimit : Nat := 79

/-- A key: its parts are separated by points. -/
def key : Scan (List String) := do
  let parts ← Scan.separated (blanks *> keyPart <* blanks) (Scan.lit ".")
  if parts.length ≤ depthLimit then return parts else failure

end StorageBroker.Toml
