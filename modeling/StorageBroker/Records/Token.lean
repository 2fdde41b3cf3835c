import StorageBroker.Records.Value

/-! # Tokens of programs over records

A slash starts a pattern unless it can divide, which it can only after something that has a value. -/

set_option autoImplicit false

namespace StorageBroker.Records

/-- A piece of a program. A name with a parenthesis directly after it is called. -/
inductive Token
  | number (x : Float)
  | text (s : String)
  | pattern (source : String)
  | name (s : String)
  | called (s : String)
  | known (s : String)
  | word (s : String)
  | sign (s : String)
  | newline
  deriving Inhabited

/-- Why a program cannot be read: what is wrong, and in which line. -/
structure ProgramFault where
  line : Nat
  message : String

def words : List String :=
  ["BEGIN", "END", "function", "func", "if", "else", "while", "for", "do", "break", "continue",
   "next", "nextfile", "exit", "return", "delete", "in", "getline", "print", "printf"]

def knownNames : List String :=
  ["length", "substr", "index", "split", "sub", "gsub", "match", "sprintf", "sin", "cos", "atan2",
   "exp", "log", "sqrt", "int", "rand", "srand", "tolower", "toupper", "system", "close", "fflush"]

def signs : List String :=
  ["&&", "||", "++", "--", "+=", "-=", "*=", "/=", "%=", "^=", "==", "<=", ">=", "!=", "!~", ">>",
   "\x7b", "\x7d", "(", ")", "[", "]", ";", ",", "+", "-", "*", "/", "%", "^", "!", ">", "<", "|",
   "?", ":", "~", "$", "="]

namespace Token

def shown : Token → String
  | number x => numberText "%.6g" x
  | text s => "\"" ++ s ++ "\""
  | pattern s => "/" ++ s ++ "/"
  | name s | called s | known s | word s | sign s => s
  | newline => "end of line"

/-- Whether a value can end with a token, so that a slash after it divides. -/
def endsValue : Token → Bool
  | number _ | text _ | pattern _ | name _ | known _ => true
  | sign s => s ∈ [")", "]", "++", "--"]
  | called _ | word _ | newline => false

end Token

/-! ## Texts -/

def byDigits? (base most : Nat) (cs : List Char) : Option (Char × List Char) :=
  let digits := (cs.take most).takeWhile fun c => (Text.digits? base [c]).isSome
  if digits.isEmpty then none
  else some (Char.ofNat ((Text.digits? base digits).getD 0 % 256), cs.drop digits.length)

/-- What stands for the characters after a backslash, and the text after them. A character that has
no meaning after a backslash keeps it. -/
def afterBackslash (cs : List Char) : List Char × List Char :=
  match cs with
  | [] => (['\\'], [])
  | c :: rest =>
    let plain (made : Char) : List Char × List Char := ([made], rest)
    match c with
    | '"' | '\\' => plain c
    | 'a' => plain '\x07'
    | 'b' => plain '\x08'
    | 'f' => plain '\x0c'
    | 'n' => plain '\n'
    | 'r' => plain '\r'
    | 't' => plain '\t'
    | 'v' => plain '\x0b'
    | '\n' => ([], rest)
    | 'x' =>
      match byDigits? 16 2 rest with
      | some (made, after) => ([made], after)
      | none => (['\\', c], rest)
    | _ =>
      match byDigits? 8 3 cs with
      | some (made, after) => ([made], after)
      | none => (['\\', c], rest)

def unhidden : (fuel : Nat) → List Char → List Char
  | 0, cs => cs
  | _ + 1, [] => []
  | fuel + 1, '\\' :: rest =>
    let (made, after) := afterBackslash rest
    made ++ unhidden fuel after
  | fuel + 1, c :: rest => c :: unhidden fuel rest

/-- The text up to its closing quote, as it is written, and what follows. -/
def quoted? : List Char → Option (List Char × List Char)
  | [] => none
  | '"' :: rest => some ([], rest)
  | '\\' :: c :: rest => (quoted? rest).map fun (text, after) => ('\\' :: c :: text, after)
  | c :: rest => if c = '\n' then none
    else (quoted? rest).map fun (text, after) => (c :: text, after)

/-- The pattern up to the slash that ends it, and what follows. A slash within a set does not end
it. -/
def patternText? : (inSet first : Bool) → List Char → Option (List Char × List Char)
  | _, _, [] => none
  | inSet, _, '\\' :: c :: rest =>
    (patternText? inSet false rest).map fun (text, after) =>
      (if c = '/' then (c :: text, after) else ('\\' :: c :: text, after))
  | inSet, first, c :: rest =>
    if c = '\n' then none
    else if c = '/' && !inSet then some ([], rest)
    else
      let stays := if inSet then c ≠ ']' || first else c = '['
      let first := if inSet then first && c = '^' else true
      (patternText? stays first rest).map fun (text, after) => (c :: text, after)

/-! ## Tokens -/

def startsName (c : Char) : Bool := c.isAlpha || c = '_'

def nameToken (name : String) (after : List Char) : Token :=
  if name ∈ words then .word name
  else if name ∈ knownNames then .known name
  else if after.head? = some '(' then .called name
  else .name name

/-- The tokens of a program with their lines; the one before tells whether a slash divides. -/
def tokensFrom : (fuel line : Nat) → (before : Option Token) → List Char →
    Except ProgramFault (List (Nat × Token))
  | 0, _, _, _ => .ok []
  | _ + 1, _, _, [] => .ok []
  | fuel + 1, line, before, c :: rest => do
    let goOn (token : Token) (after : List Char) : Except ProgramFault (List (Nat × Token)) := do
      return (line, token) :: (← tokensFrom fuel line (some token) after)
    if c = '\n' then
      return (line, .newline) :: (← tokensFrom fuel (line + 1) (some .newline) rest)
    else if c = ' ' || c = '\t' || c = '\r' then tokensFrom fuel line before rest
    else if c = '#' then tokensFrom fuel line before (rest.dropWhile (· ≠ '\n'))
    else if c = '\\' && rest.head? = some '\n' then
      tokensFrom fuel (line + 1) before (rest.drop 1)
    else if c = '"' then
      match quoted? rest with
      | none => throw ⟨line, "runaway string constant \"" ++ String.ofList rest ++ " ..."⟩
      | some (text, after) => goOn (.text (String.ofList (unhidden (text.length + 1) text))) after
    else if c = '/' && !(before.any Token.endsValue) then
      match patternText? false false rest with
      | none => throw ⟨line, "runaway regular expression /" ++ String.ofList rest ++ " ..."⟩
      | some (text, after) => goOn (.pattern (String.ofList text)) after
    else if c.isDigit || (c = '.' && rest.head?.any Char.isDigit) then
      match Text.numeral? (c :: rest) with
      | some (_, digits, power, after) => goOn (.number (Text.floatOf false digits power)) after
      | none => throw ⟨line, "unexpected character '" ++ c.toString ++ "'"⟩
    else if startsName c then
      let name := (c :: rest).takeWhile fun c => startsName c || c.isDigit
      let after := (c :: rest).drop name.length
      goOn (nameToken (String.ofList name) after) after
    else
      match signs.find? fun sign => sign.toList.isPrefixOf (c :: rest) with
      | some sign => goOn (.sign sign) ((c :: rest).drop sign.length)
      | none => throw ⟨line, "unexpected character '" ++ c.toString ++ "'"⟩

def tokens (program : List Char) : Except ProgramFault (List (Nat × Token)) :=
  tokensFrom (program.length + 1) 1 none program

end StorageBroker.Records
