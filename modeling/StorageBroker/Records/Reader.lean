import StorageBroker.Records.Pattern
import StorageBroker.Records.Program

/-! # Reading programs over records

Expressions are read by levels of operators, the loosest first. Values that stand side by side are
joined. -/

set_option autoImplicit false

namespace StorageBroker.Records

/-- What is left of a program while it is read: the tokens, whether a sign for "more" tells where
output goes to, and the last line. -/
structure Rest where
  tokens : List (Nat × Token)
  printing : Bool
  line : Nat

abbrev Reading (α : Type) : Type := EStateM ProgramFault Rest α

namespace Reading

variable {α : Type}

def peek : Reading (Option Token) := do return (← get).tokens.head?.map Prod.snd

def skip : Reading Unit := modify fun s =>
  { s with
    tokens := s.tokens.drop 1
    line := (s.tokens.head?.map Prod.fst).getD s.line }

def refuse : Reading α := do
  let s ← get
  match s.tokens with
  | [] => throw ⟨s.line + 1, "syntax error at or near end of file"⟩
  | (line, token) :: _ => throw ⟨line, "syntax error at or near " ++ token.shown⟩

def nextIs (sign : String) : Reading Bool := do
  match ← peek with
  | some (.sign s) => return s = sign
  | _ => return false

def nextIsWord (word : String) : Reading Bool := do
  match ← peek with
  | some (.word s) => return s = word
  | _ => return false

def take (sign : String) : Reading Bool := do
  let found ← nextIs sign
  if found then skip
  return found

def takeWord (word : String) : Reading Bool := do
  let found ← nextIsWord word
  if found then skip
  return found

def need (sign : String) : Reading Unit := do
  if !(← take sign) then
    let s ← get
    match s.tokens with
    | [] => throw ⟨s.line + 1, "missing " ++ sign ++ " near end of file"⟩
    | _ => refuse

def skipAll (p : Token → Bool) : Reading Unit := modify fun s =>
  { s with tokens := s.tokens.dropWhile fun row => p row.2 }

def newlines : Reading Unit := skipAll fun
  | .newline => true
  | _ => false

def separators : Reading Unit := skipAll fun
  | .newline | .sign ";" => true
  | _ => false

def needName : Reading String := do
  match ← peek with
  | some (.name s) => do
    skip
    return s
  | _ => refuse

def withPrinting (printing : Bool) (act : Reading α) : Reading α := do
  let before := (← get).printing
  modify fun s => { s with printing }
  let a ← act
  modify fun s => { s with printing := before }
  return a

end Reading

open Reading

/-! ## Operators -/

/-- The levels of operators between two operands, the loosest first. -/
inductive Level
  | or
  | and
  | key
  | like
  | relation
  | join
  | sum
  | product
  deriving DecidableEq, Repr

def levels : List Level := [.or, .and, .key, .like, .relation, .join, .sum, .product]

def relations : List (String × Relation) :=
  [("<", .less), ("<=", .atMost), ("==", .equal), ("!=", .unequal), (">", .more), (">=", .atLeast)]

def operations : List (String × Operation) :=
  [("+", .add), ("-", .subtract), ("*", .multiply), ("/", .divide), ("%", .remainder),
   ("^", .power)]

/-- Whether a value can start with a token where values stand side by side. -/
def startsValue : Token → Bool
  | .number _ | .text _ | .pattern _ | .name _ | .called _ | .known _ => true
  | .sign s => s ∈ ["(", "$", "!", "++", "--"]
  | .word _ | .newline => false

def operator? (level : Level) : Reading (Option (Expr → Expr → Expr)) := do
  let found (make : Expr → Expr → Expr) : Reading (Option (Expr → Expr → Expr)) := do
    skip
    return some make
  let printing := (← get).printing
  match level, ← peek with
  | .or, some (.sign "||") => do
    let made ← found .or
    newlines
    return made
  | .and, some (.sign "&&") => do
    let made ← found .and
    newlines
    return made
  | .like, some (.sign "~") => found fun a b => .isLike a b false
  | .like, some (.sign "!~") => found fun a b => .isLike a b true
  | .relation, some (.sign s) =>
    if printing && s = ">" then return none
    match relations.lookup s with
    | some r => found (.related r)
    | none => return none
  | .join, some token => return if startsValue token then some .joined else none
  | .sum, some (.sign s) =>
    if s = "+" || s = "-" then found (.operated (if s = "+" then .add else .subtract))
    else return none
  | .product, some (.sign s) =>
    match operations.lookup s with
    | some op => if s ∈ ["*", "/", "%"] then found (.operated op) else return none
    | none => return none
  | _, _ => return none

def changing? (sign : String) : Option Operation :=
  if sign.length = 2 && sign.endsWith "=" then
    operations.lookup (String.ofList (sign.toList.take 1))
  else none

/-! ## Expressions -/

mutual

def readExpr : (fuel : Nat) → Reading Expr
  | 0 => refuse
  | fuel + 1 => do
    let condition ← readLevel fuel levels
    if !(← take "?") then return condition
    newlines
    let yes ← readExpr fuel
    newlines
    need ":"
    newlines
    let no ← readExpr fuel
    return .choice condition yes no

def readLevel : (fuel : Nat) → List Level → Reading Expr
  | 0, _ => refuse
  | fuel + 1, [] => readSigned fuel
  | fuel + 1, level :: tighter => do
    readOn fuel level tighter (← readLevel fuel tighter)

def readOn : (fuel : Nat) → Level → List Level → Expr → Reading Expr
  | 0, _, _, left => return left
  | fuel + 1, level, tighter, left => do
    if level = .key then
      if !(← takeWord "in") then return left
      let array ← needName
      let keys := match left with
        | .group es => es
        | e => [e]
      readOn fuel level tighter (.isKey keys array)
    else
      match ← operator? level with
      | none => return left
      | some make => do
        let right ← readLevel fuel tighter
        readOn fuel level tighter (make left right)

/-- Reads an expression with signs in front, and what a command writes. -/
def readSigned : (fuel : Nat) → Reading Expr
  | 0 => refuse
  | fuel + 1 => do
    if ← take "!" then return .not (← readSigned fuel)
    if ← take "-" then return .negative (← readSigned fuel)
    if ← take "+" then return .positive (← readSigned fuel)
    readPiped fuel (← readPower fuel)

def readPiped : (fuel : Nat) → Expr → Reading Expr
  | 0, e => return e
  | fuel + 1, e => do
    match (← get).tokens with
    | (_, .sign "|") :: (_, .word "getline") :: _ => do
      skip
      skip
      readPiped fuel (.reading (.command e) (← readPlace? fuel))
    | _ => return e

/-- Reads a power; it binds to the right. -/
def readPower : (fuel : Nat) → Reading Expr
  | 0 => refuse
  | fuel + 1 => do
    let base ← readCounted fuel
    if ← take "^" then return .operated .power base (← readExponent fuel) else return base

def readExponent : (fuel : Nat) → Reading Expr
  | 0 => refuse
  | fuel + 1 => do
    if ← take "-" then return .negative (← readExponent fuel)
    if ← take "+" then return .positive (← readExponent fuel)
    if ← take "!" then return .not (← readExponent fuel)
    readPower fuel

/-- Reads a place that is counted up or down or gets a value, or else a simple expression. -/
def readCounted : (fuel : Nat) → Reading Expr
  | 0 => refuse
  | fuel + 1 => do
    if ← take "++" then
      match ← readSimple fuel with
      | .value place => return .count place 1 true
      | _ => refuse
    if ← take "--" then
      match ← readSimple fuel with
      | .value place => return .count place (-1) true
      | _ => refuse
    match ← readSimple fuel with
    | .value place => do
      match ← peek with
      | some (.sign s) =>
        if s = "++" || s = "--" then
          skip
          return .count place (if s = "++" then 1 else -1) false
        else if s = "=" then
          skip
          newlines
          return .assign place (← readExpr fuel)
        else
          match changing? s with
          | some op =>
            skip
            newlines
            return .change place op (← readExpr fuel)
          | none => return .value place
      | _ => return .value place
    | e => return e

def readList : (fuel : Nat) → (closing : String) → Reading (List Expr)
  | 0, _ => refuse
  | fuel + 1, closing => do
    newlines
    if ← take closing then return []
    let first ← readExpr fuel
    newlines
    if ← take closing then return [first]
    need ","
    return first :: (← readList fuel closing)

def readPlace? : (fuel : Nat) → Reading (Option Place)
  | 0 => return none
  | fuel + 1 => do
    match ← peek with
    | some (.name _) | some (.sign "$") =>
      match ← readSimple fuel with
      | .value place => return some place
      | _ => refuse
    | _ => return none

def readFieldNumber : (fuel : Nat) → Reading Expr
  | 0 => refuse
  | fuel + 1 => do
    if ← take "-" then return .negative (← readFieldNumber fuel)
    if ← take "+" then return .positive (← readFieldNumber fuel)
    if ← take "++" then
      match ← readSimple fuel with
      | .value place => return .count place 1 true
      | _ => refuse
    if ← take "--" then
      match ← readSimple fuel with
      | .value place => return .count place (-1) true
      | _ => refuse
    readSimple fuel

def readSimple : (fuel : Nat) → Reading Expr
  | 0 => refuse
  | fuel + 1 => do
    match ← peek with
    | some (.number x) => do
      skip
      return .number x
    | some (.text s) => do
      skip
      return .text s
    | some (.pattern s) => do
      skip
      return .pattern s
    | some (.sign "$") => do
      skip
      return .value (.field (← readFieldNumber fuel))
    | some (.sign "(") => do
      skip
      let es ← withPrinting false (readList fuel ")")
      if es.isEmpty then refuse
      return .group es
    | some (.name s) => do
      skip
      if ← take "[" then
        let keys ← withPrinting false (readList fuel "]")
        return .value (.element s keys)
      return .value (.variable s)
    | some (.called s) => do
      skip
      skip
      return .call s (← withPrinting false (readList fuel ")"))
    | some (.known s) => do
      skip
      if ← take "(" then return .known s (← withPrinting false (readList fuel ")"))
      if s = "length" then return .known s []
      refuse
    | some (.word "getline") => do
      skip
      let into ← readPlace? fuel
      if ← take "<" then return .reading (.file (← readSimple fuel)) into
      return .reading .input into
    | _ => refuse

end

/-! ## Statements -/

/-- Ends a statement: with a sign, an end of line, or the end of a block. -/
def endStatement : Reading Unit := do
  match ← peek with
  | some .newline | some (.sign ";") => skip
  | some (.sign "\x7d") | none => return ()
  | _ => refuse

def readSink? (fuel : Nat) : Reading (Option Sink) := do
  let sink (kind : SinkKind) : Reading (Option Sink) := do
    skip
    return some ⟨kind, ← withPrinting false (readExpr fuel)⟩
  match ← peek with
  | some (.sign ">") => sink .file
  | some (.sign ">>") => sink .appended
  | some (.sign "|") => sink .command
  | _ => return none

def readValues : (fuel : Nat) → Reading (List Expr)
  | 0 => refuse
  | fuel + 1 => do
    match ← peek with
    | some .newline | none => return []
    | some (.sign s) =>
      if s ∈ [";", "\x7d", ">", ">>", "|"] then return []
    | _ => pure ()
    let first ← readExpr (8 * fuel)
    if ← take "," then
      newlines
      return first :: (← readValues fuel)
    match first with
    | .group es => return es
    | e => return [e]

def readPlain (fuel : Nat) : Reading Statement := do
  let optional : Reading (Option Expr) := do
    match ← peek with
    | some .newline | some (.sign ";") | some (.sign "\x7d") | none => return none
    | _ => return some (← readExpr fuel)
  match ← peek with
  | some (.word "print") => do
    skip
    let values ← withPrinting true (readValues fuel)
    return .print values (← readSink? fuel)
  | some (.word "printf") => do
    skip
    let values ← withPrinting true (readValues fuel)
    if values.isEmpty then refuse
    return .printf values (← readSink? fuel)
  | some (.word "delete") => do
    skip
    let array ← needName
    if ← take "[" then return .erase array (← readList fuel "]")
    return .erase array []
  | some (.word "break") => do
    skip
    return .leave
  | some (.word "continue") => do
    skip
    return .again
  | some (.word "next") => do
    skip
    return .next
  | some (.word "nextfile") => do
    skip
    return .nextFile
  | some (.word "exit") => do
    skip
    return .exit (← optional)
  | some (.word "return") => do
    skip
    return .back (← optional)
  | _ => return .compute (← readExpr fuel)

mutual

def readStatement : (fuel : Nat) → Reading (List Statement)
  | 0 => refuse
  | fuel + 1 => do
    match ← peek with
    | some (.sign "\x7b") => readBlock fuel
    | some (.sign ";") => do
      skip
      return []
    | some (.word "if") => do
      skip
      need "("
      let condition ← readExpr (8 * fuel)
      need ")"
      newlines
      let yes ← readStatement fuel
      let before ← get
      separators
      if ← takeWord "else" then
        newlines
        return [.branch condition yes (← readStatement fuel)]
      set before
      return [.branch condition yes []]
    | some (.word "while") => do
      skip
      need "("
      let condition ← readExpr (8 * fuel)
      need ")"
      if ← take ";" then return [.loop (some condition) false [] []]
      newlines
      return [.loop (some condition) false [] (← readStatement fuel)]
    | some (.word "do") => do
      skip
      newlines
      let body ← readStatement fuel
      separators
      if !(← takeWord "while") then refuse
      need "("
      let condition ← readExpr (8 * fuel)
      need ")"
      endStatement
      return [.loop (some condition) true [] body]
    | some (.word "for") => do
      skip
      need "("
      match (← get).tokens with
      | (_, .name name) :: (_, .word "in") :: (_, .name array) :: (_, .sign ")") :: rest => do
        modify fun s => { s with tokens := rest }
        newlines
        return [.each name array (← readStatement fuel)]
      | _ => do
        let first ← readPart fuel ";"
        newlines
        let condition ← if ← take ";" then pure none else do
          let e ← readExpr (8 * fuel)
          need ";"
          pure (some e)
        newlines
        let after ← readPart fuel ")"
        if ← take ";" then return first ++ [.loop condition false after []]
        newlines
        return first ++ [.loop condition false after (← readStatement fuel)]
    | _ => do
      let statement ← readPlain (8 * fuel)
      endStatement
      return [statement]

/-- Reads a part of the head of a loop, up to a sign. -/
def readPart : (fuel : Nat) → (closing : String) → Reading (List Statement)
  | 0, _ => refuse
  | fuel + 1, closing => do
    if ← take closing then return []
    let statement ← readPlain (8 * fuel)
    need closing
    return [statement]

def readBlock : (fuel : Nat) → Reading (List Statement)
  | 0 => refuse
  | fuel + 1 => do
    need "\x7b"
    readStatements fuel

def readStatements : (fuel : Nat) → Reading (List Statement)
  | 0 => refuse
  | fuel + 1 => do
    separators
    if ← take "\x7d" then return []
    if (← peek).isNone then need "\x7d"
    let first ← readStatement fuel
    return first ++ (← readStatements fuel)

end

/-! ## Programs -/

def readParameters : (fuel : Nat) → Reading (List String)
  | 0 => refuse
  | fuel + 1 => do
    newlines
    if ← take ")" then return []
    let name ← needName
    newlines
    if ← take ")" then return [name]
    need ","
    return name :: (← readParameters fuel)

def readDefinition (fuel : Nat) : Reading Definition := do
  let name ← match ← peek with
    | some (.called s) | some (.name s) => do
      skip
      pure s
    | _ => refuse
  need "("
  let parameters ← readParameters fuel
  newlines
  return ⟨name, parameters, ← readBlock fuel⟩

def readRule (fuel : Nat) : Reading Rule := do
  if ← takeWord "BEGIN" then return ⟨.start, some (← readBlock fuel)⟩
  if ← takeWord "END" then return ⟨.finish, some (← readBlock fuel)⟩
  if ← nextIs "\x7b" then return ⟨.always, some (← readBlock fuel)⟩
  let first ← readExpr (8 * fuel)
  let occasion ← if ← take "," then do
      newlines
      pure (Occasion.between first (← readExpr (8 * fuel)))
    else pure (Occasion.when_ first)
  if ← nextIs "\x7b" then return ⟨occasion, some (← readBlock fuel)⟩
  endStatement
  return ⟨occasion, none⟩

def readProgramFrom : (fuel : Nat) → Reading Program
  | 0 => return ⟨[], []⟩
  | fuel + 1 => do
    separators
    if (← peek).isNone then return ⟨[], []⟩
    let isDefinition ← if ← takeWord "function" then pure true else takeWord "func"
    if isDefinition then
      let definition ← readDefinition (4 * fuel)
      let more ← readProgramFrom fuel
      return { more with definitions := definition :: more.definitions }
    let rule ← readRule (4 * fuel)
    let more ← readProgramFrom fuel
    return { more with rules := rule :: more.rules }

def patternFault? (found : List (Nat × Token)) : Option ProgramFault :=
  found.findSome? fun (line, token) =>
    match token with
    | .pattern source =>
      match readPattern source with
      | .ok _ => none
      | .error fault =>
        some ⟨line, "regular expression compile failed (" ++ fault.message ++ ")\n" ++ source⟩
    | _ => none

def missingFunction? (found : List (Nat × Token)) (program : Program) : Option String :=
  found.findSome? fun (_, token) =>
    match token with
    | .called name => if program.definitions.any fun d => d.name = name then none else some name
    | _ => none

def readProgram (text : List Char) : Except ProgramFault Program := do
  let found ← tokens text
  for fault in (patternFault? found).toList do throw fault
  match (readProgramFrom (2 * found.length + 8)).run ⟨found, false, 1⟩ with
  | .error fault _ => throw fault
  | .ok program rest =>
    match missingFunction? found program with
    | some name => throw ⟨rest.line + 1, "function " ++ name ++ " never defined"⟩
    | none => return program

end StorageBroker.Records
