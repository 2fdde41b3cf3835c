import StorageBroker.Text.Decimal

/-! # Arithmetic

Expressions over whole numbers of 64 bits: how they are read, and what their values are. Within an
expression variables may be given new values. -/

set_option autoImplicit false

namespace StorageBroker.Shell

/-! ## Expressions -/

inductive Calculation
  | times
  | over
  | remainder
  | plus
  | minus
  | left
  | right
  | less
  | atMost
  | greater
  | atLeast
  | equal
  | unequal
  | bothBits
  | oneBit
  | anyBit
  deriving DecidableEq, Repr

/-- An expression. The second of two conditions is looked at only if it decides, and of two others a
condition chooses one; a variable may get the value of an expression, or what a calculation makes of
its old value and that. -/
inductive Expression
  | number (n : Int64)
  | named (name : String)
  | negative (e : Expression)
  | complement (e : Expression)
  | opposite (e : Expression)
  | joined (calculation : Calculation) (first second : Expression)
  | both (first second : Expression)
  | either (first second : Expression)
  | choice (condition first second : Expression)
  | assigned (name : String) (calculation : Option Calculation) (e : Expression)

inductive ArithmeticFault
  | divisionByZero
  | expecting (what : String)
  | illegalNumber (value : String)
  deriving DecidableEq, Repr

def ArithmeticFault.message (text : String) : ArithmeticFault → String
  | .divisionByZero => "arithmetic expression: division by zero: \"" ++ text ++ "\""
  | .expecting what => "arithmetic expression: expecting " ++ what ++ ": \"" ++ text ++ "\""
  | .illegalNumber value => "Illegal number: " ++ value

/-! ## Numbers -/

def greatestNumber : Nat := 9223372036854775807

def digitsFrom (base : Nat) (cs : List Char) : Nat × List Char :=
  let digits := cs.takeWhile fun c => (Text.digit? base c).isSome
  ((Text.digits? base digits).getD 0, cs.drop digits.length)

/-- The hexadecimal, octal or decimal number at the front of a text, and the text after it. -/
def numberFrom? : List Char → Option (Nat × List Char)
  | '0' :: x :: d :: rest =>
    if (x = 'x' || x = 'X') && (Text.digit? 16 d).isSome then some (digitsFrom 16 (d :: rest))
    else some (digitsFrom 8 ('0' :: x :: d :: rest))
  | '0' :: rest => some (digitsFrom 8 ('0' :: rest))
  | c :: rest => if c.isDigit then some (digitsFrom 10 (c :: rest)) else none
  | [] => none

/-- The number that the value of a variable writes, with blanks around it; no value is nothing. -/
def variableNumber (value : String) : Except ArithmeticFault Int64 :=
  let isBlank (c : Char) : Bool := c ∈ [' ', '\t', '\n', '\x0b', '\x0c', '\r']
  let cs := value.toList.dropWhile isBlank
  let (negative, digits) := match cs with
    | '-' :: rest => (true, rest)
    | '+' :: rest => (false, rest)
    | _ => (false, cs)
  match numberFrom? digits with
  | none => if cs.isEmpty then .ok 0 else .error (.illegalNumber value)
  | some (n, rest) =>
    if rest.all isBlank && n ≤ greatestNumber + (if negative then 1 else 0) then
      .ok (if negative then -(Int64.ofNat n) else Int64.ofNat n)
    else .error (.illegalNumber value)

/-! ## Values -/

def truth (b : Bool) : Int64 := if b then 1 else 0

/-- What a calculation makes of two numbers; nothing is divided by zero. -/
def Calculation.apply (calculation : Calculation) (a b : Int64) : Except ArithmeticFault Int64 :=
  match calculation with
  | .times => .ok (a * b)
  | .over => if b = 0 then .error .divisionByZero else .ok (a / b)
  | .remainder => if b = 0 then .error .divisionByZero else .ok (a % b)
  | .plus => .ok (a + b)
  | .minus => .ok (a - b)
  | .left => .ok (a <<< b)
  | .right => .ok (a >>> b)
  | .less => .ok (truth (a < b))
  | .atMost => .ok (truth (a ≤ b))
  | .greater => .ok (truth (b < a))
  | .atLeast => .ok (truth (b ≤ a))
  | .equal => .ok (truth (a = b))
  | .unequal => .ok (truth (a ≠ b))
  | .bothBits => .ok (a &&& b)
  | .oneBit => .ok (a ^^^ b)
  | .anyBit => .ok (a ||| b)

abbrev Assigned : Type := List (String × Int64)

namespace Expression

def valueOf (old : String → String) (new : Assigned) (name : String) :
    Except ArithmeticFault Int64 :=
  match new.lookup name with
  | some n => .ok n
  | none => variableNumber (old name)

def evaluate (old : String → String) (new : Assigned) :
    Expression → Except ArithmeticFault (Int64 × Assigned)
  | .number n => .ok (n, new)
  | .named name => do return (← valueOf old new name, new)
  | .negative e => do
    let (n, new) ← evaluate old new e
    return (-n, new)
  | .complement e => do
    let (n, new) ← evaluate old new e
    return (~~~n, new)
  | .opposite e => do
    let (n, new) ← evaluate old new e
    return (truth (n = 0), new)
  | .joined calculation first second => do
    let (a, new) ← evaluate old new first
    let (b, new) ← evaluate old new second
    return (← calculation.apply a b, new)
  | .both first second => do
    let (a, new) ← evaluate old new first
    if a = 0 then return (0, new)
    let (b, new) ← evaluate old new second
    return (truth (b ≠ 0), new)
  | .either first second => do
    let (a, new) ← evaluate old new first
    if a ≠ 0 then return (1, new)
    let (b, new) ← evaluate old new second
    return (truth (b ≠ 0), new)
  | .choice condition first second => do
    let (n, new) ← evaluate old new condition
    if n = 0 then evaluate old new second else evaluate old new first
  | .assigned name calculation e => do
    let (n, new) ← evaluate old new e
    let n ← match calculation with
      | none => pure n
      | some calculation => calculation.apply (← valueOf old new name) n
    return (n, (name, n) :: new)

end Expression

/-! ## Signs -/

def calculationLevels : List (List (String × Calculation)) :=
  [[("|", .anyBit)], [("^", .oneBit)], [("&", .bothBits)], [("==", .equal), ("!=", .unequal)],
   [("<=", .atMost), (">=", .atLeast), ("<", .less), (">", .greater)],
   [("<<", .left), (">>", .right)], [("+", .plus), ("-", .minus)],
   [("*", .times), ("/", .over), ("%", .remainder)]]

/-- The signs that give a variable a new value, with the calculation that makes it of the old one. -/
def assigningSigns : List (String × Option Calculation) :=
  ("=", none) :: (calculationLevels.flatten.filter fun row =>
    row.1 ∈ ["*", "/", "%", "+", "-", "<<", ">>", "&", "^", "|"]).map fun (sign, calculation) =>
      (sign ++ "=", some calculation)

def arithmeticSigns : List String :=
  let signs := ["&&", "||", "!", "~", "?", ":", "(", ")"] ++ calculationLevels.flatten.map Prod.fst ++
    assigningSigns.map Prod.fst
  [3, 2, 1].flatMap fun n => signs.filter fun sign => sign.length = n

inductive ArithmeticToken
  | number (n : Int64)
  | name (s : String)
  | sign (s : String)
  | unknown
  deriving DecidableEq, Repr

/-- The tokens of a text, at most so many; what cannot be read ends them. -/
def arithmeticTokens : (fuel : Nat) → List Char → List ArithmeticToken
  | 0, _ => []
  | _ + 1, [] => []
  | fuel + 1, c :: rest =>
    if c ∈ [' ', '\t', '\n'] then arithmeticTokens fuel rest
    else if c.isAlpha || c = '_' then
      let name := (c :: rest).takeWhile fun c => c.isAlphanum || c = '_'
      .name (String.ofList name) :: arithmeticTokens fuel ((c :: rest).drop name.length)
    else
      match numberFrom? (c :: rest), arithmeticSigns.find? fun s => s.toList.isPrefixOf (c :: rest) with
      | some (n, after), _ =>
        .number (Int64.ofNat (min n greatestNumber)) :: arithmeticTokens fuel after
      | none, some sign => .sign sign :: arithmeticTokens fuel ((c :: rest).drop sign.length)
      | none, none => [.unknown]

/-! ## Reading -/

abbrev ExpressionReader : Type :=
  List ArithmeticToken → Except ArithmeticFault (Expression × List ArithmeticToken)

def readJoined (operand : ExpressionReader) (level : List (String × Calculation)) :
    (fuel : Nat) → Expression → ExpressionReader
  | fuel + 1, first, .sign s :: rest =>
    match level.lookup s with
    | none => .ok (first, .sign s :: rest)
    | some calculation => do
      let (second, rest) ← operand rest
      readJoined operand level fuel (.joined calculation first second) rest
  | _, first, rest => .ok (first, rest)

def readLevels (operand : ExpressionReader) : List (List (String × Calculation)) → ExpressionReader
  | [] => operand
  | level :: tighter => fun tokens => do
    let (first, rest) ← readLevels operand tighter tokens
    readJoined (readLevels operand tighter) level rest.length first rest

/-- Kinds of expressions, each of which can be made of those after it. -/
inductive ExpressionKind
  | whole
  | choice
  | either
  | both
  | operand
  deriving DecidableEq, Repr

def readExpressionAt : (fuel : Nat) → ExpressionKind → ExpressionReader
  | 0, _, _ => .error (.expecting "primary")
  | fuel + 1, .whole, tokens => do
    match tokens with
    | .name name :: .sign s :: rest =>
      match assigningSigns.lookup s with
      | none => readExpressionAt fuel .choice tokens
      | some calculation =>
        let (e, rest) ← readExpressionAt fuel .whole rest
        return (.assigned name calculation e, rest)
    | _ => readExpressionAt fuel .choice tokens
  | fuel + 1, .choice, tokens => do
    let (condition, rest) ← readExpressionAt fuel .either tokens
    match rest with
    | .sign "?" :: rest =>
      let (first, rest) ← readExpressionAt fuel .whole rest
      match rest with
      | .sign ":" :: rest =>
        let (second, rest) ← readExpressionAt fuel .choice rest
        return (.choice condition first second, rest)
      | _ => throw (.expecting "':'")
    | _ => return (condition, rest)
  | fuel + 1, .either, tokens => do
    let (first, rest) ← readExpressionAt fuel .both tokens
    match rest with
    | .sign "||" :: rest =>
      let (second, rest) ← readExpressionAt fuel .either rest
      return (.either first second, rest)
    | _ => return (first, rest)
  | fuel + 1, .both, tokens => do
    let (first, rest) ← readLevels (readExpressionAt fuel .operand) calculationLevels tokens
    match rest with
    | .sign "&&" :: rest =>
      let (second, rest) ← readExpressionAt fuel .both rest
      return (.both first second, rest)
    | _ => return (first, rest)
  | fuel + 1, .operand, tokens => do
    match tokens with
    | .number n :: rest => return (.number n, rest)
    | .name name :: rest => return (.named name, rest)
    | .sign "(" :: rest =>
      let (e, rest) ← readExpressionAt fuel .whole rest
      match rest with
      | .sign ")" :: rest => return (e, rest)
      | _ => throw (.expecting "')'")
    | .sign "+" :: rest => readExpressionAt fuel .operand rest
    | .sign "-" :: rest =>
      let (e, rest) ← readExpressionAt fuel .operand rest
      return (.negative e, rest)
    | .sign "~" :: rest =>
      let (e, rest) ← readExpressionAt fuel .operand rest
      return (.complement e, rest)
    | .sign "!" :: rest =>
      let (e, rest) ← readExpressionAt fuel .operand rest
      return (.opposite e, rest)
    | _ => throw (.expecting "primary")

/-- The value of the expression that a text writes, and the variables that it gives new values, the
newest first. -/
def evaluate (old : String → String) (text : List Char) :
    Except ArithmeticFault (Int64 × Assigned) := do
  let tokens := arithmeticTokens text.length text
  let (e, rest) ← readExpressionAt (8 * tokens.length + 8) .whole tokens
  let result ← e.evaluate old []
  if rest.isEmpty then return result else throw (.expecting "EOF")

end StorageBroker.Shell
