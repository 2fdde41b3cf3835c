import StorageBroker.Records.Association
import StorageBroker.Records.Pattern
import StorageBroker.Records.Reader
import StorageBroker.Shell.Utility.Launching

/-! # Programs over records

The command that reads its input record by record and carries out a program for each of them. -/

set_option autoImplicit false

namespace StorageBroker.Shell

open Act Records

/-- What a name stands for: a value, or an array by its number. -/
inductive Binding
  | value (v : Value)
  | array (number : Nat)

/-- A place that output goes to: a file, or a command that gets it as its input. -/
inductive OpenSink
  | file (path : String)
  | command (written : String)

/-- What is known while a program over records is carried out: the program, how commands are run, and
its name; what names stand for, within a function too; the arrays; the record and its fields; what is
left of the input, and which argument names the next file; what is left of other files and of what
commands wrote; where output goes to, what was used last first; what is still to be written; the
rules whose records have started; a number that random ones are made from; and the status. -/
structure Processor where
  program : Program
  run : Runner
  name : String
  globals : Table String Binding
  locals : Option (Table String Binding)
  arrays : Table Nat Association
  record : Value
  fields : List Value
  input : Option (List Char)
  nextArgument : Nat
  hasInput : Bool
  sources : Table String (List Char)
  sinks : List (String × OpenSink)
  waiting : String
  started : List Nat
  seed : Nat
  status : Nat

/-- What ends statements: a loop or one round of it, a record or the rest of a file, a function, or
the program, with a message of its own perhaps. -/
inductive Leap
  | leave
  | again
  | next
  | nextFile
  | back (v : Value)
  | exit
  | failure

/-- Something that is done while a program over records is carried out. -/
abbrev Processing (α : Type) : Type := ExceptT Leap (StateT Processor Act) α

namespace Processing

/-! ## Names -/

def global (name : String) : Processing Value := do
  match (← get).globals.get? name with
  | some (.value v) => return v
  | _ => return .unset

def globalText (name : String) : Processing String := do
  return (← global name).toText "%.6g"

def setGlobal (name : String) (v : Value) : Processing Unit :=
  modify fun p => { p with globals := p.globals.insert name (.value v) }

def textOf (v : Value) : Processing String := do return v.toText (← globalText "CONVFMT")

def binding? (name : String) : Processing (Option Binding) := do
  let p ← get
  match p.locals.bind fun t => t.get? name with
  | some b => return some b
  | none => return p.globals.get? name

def bind_ (name : String) (b : Binding) : Processing Unit := modify fun p =>
  match p.locals with
  | some t =>
    if t.contains name then { p with locals := some (t.insert name b) }
    else { p with globals := p.globals.insert name b }
  | none => { p with globals := p.globals.insert name b }

/-- The number of the array that a name stands for; it becomes one if it has no value. -/
def arrayNumber (name : String) : Processing Nat := do
  match ← binding? name with
  | some (.array n) => return n
  | _ => do
    let n := (← get).arrays.size
    modify fun p => { p with arrays := p.arrays.insert n .empty }
    bind_ name (.array n)
    return n

def array (name : String) : Processing Association := do
  let n ← arrayNumber name
  return ((← get).arrays.get? n).getD .empty

def setArray (name : String) (a : Association) : Processing Unit := do
  let n ← arrayNumber name
  modify fun p => { p with arrays := p.arrays.insert n a }

/-! ## Messages and output -/

def failWith {α : Type} (text : String) : Processing α := do
  complain ((← get).name ++ ": " ++ text)
  modify fun p => { p with status := 2 }
  throw .failure

/-- Ends the program because of something that went wrong at a record. -/
def failAtRecord {α : Type} (text : String) : Processing α := do
  let place := "\n\tFILENAME=\"" ++ (← globalText "FILENAME") ++ "\" FNR=" ++
    (← globalText "FNR") ++ " NR=" ++ (← globalText "NR")
  failWith ("run time error: " ++ text ++ place)

/-- Takes over a pattern, or ends the program because there is none. -/
def ofPattern {α : Type} (text : String) (found : Except PatternFault α) : Processing α :=
  match found with
  | .ok a => return a
  | .error fault =>
    failWith ("run time error: regular expression compile failed (" ++ fault.message ++ ")\n" ++ text)

def flush : Processing Unit := do
  let p ← get
  set { p with waiting := "" }
  if !p.waiting.isEmpty then print p.waiting

def runCommand (command : String) : Processing Nat := do
  flush
  let run := (← get).run
  (spawned run (fun _ status => return status) ["sh", "-c", command] : Act Nat)

def feed (command input : String) : Processing Nat := do
  let run := (← get).run
  (withInput input (spawned run (fun _ status => return status) ["sh", "-c", command]) : Act Nat)

def writeTo (kind : SinkKind) (name text : String) : Processing Unit := do
  if kind ≠ .command && (name = "/dev/stdout" || name = "-") then
    modify fun p => { p with waiting := p.waiting ++ text }
  else if kind ≠ .command && name = "/dev/stderr" then emit 2 text
  else
    let p ← get
    let others := p.sinks.filter fun row => row.1 ≠ name
    match kind, p.sinks.lookup name with
    | _, some (.command written) =>
      set { p with sinks := (name, .command (written ++ text)) :: others }
    | .command, none =>
      flush
      modify fun p => { p with sinks := (name, .command text) :: others }
    | kind, known =>
      set { p with sinks := (name, .file name) :: others }
      match ← (writePath name (known.isSome || kind = .appended) text : Act _) with
      | none => return ()
      | some e => failWith ("cannot open \"" ++ name ++ "\" for output (" ++ reason e ++ ")")

/-- Closes a place that output goes to or comes from, and tells the status of that. -/
def close (name : String) : Processing Int := do
  let p ← get
  set { p with
    sinks := p.sinks.filter fun row => row.1 ≠ name
    sources := p.sources.erase name }
  match p.sinks.lookup name with
  | some (.command written) => return (← feed name written)
  | some (.file _) => return 0
  | none => return if p.sources.contains name then 0 else -1

/-! ## Records -/

def setRecord (v : Value) : Processing Unit := do
  let text ← textOf v
  let fs ← globalText "FS"
  let separator ← ofPattern fs (Separator.ofText fs)
  modify fun p =>
    { p with
      record := v
      fields := (separator.cut text.toList).map fun field => .read (String.ofList field) }

def joinFields : Processing Unit := do
  let texts ← (← get).fields.mapM textOf
  let ofs ← globalText "OFS"
  modify fun p => { p with record := .read (ofs.intercalate texts) }

def fieldIndex (x : Float) : Processing Nat := do
  let n := wholePart x
  if n < 0 then failAtRecord ("negative field index $" ++ toString n)
  return n.toNat

def field (n : Nat) : Processing Value := do
  let p ← get
  match n with
  | 0 => return p.record
  | n + 1 => return (p.fields[n]?).getD .unset

def widened (count : Nat) (fields : List Value) : List Value :=
  fields ++ List.replicate (count - fields.length) (.text "")

def setField (n : Nat) (v : Value) : Processing Unit := do
  match n with
  | 0 => setRecord (match v with | .text s => .read s | v => v)
  | n + 1 =>
    modify fun p => { p with fields := (widened (n + 1) p.fields).set n v }
    joinFields

def variable_ (name : String) : Processing Value := do
  if name = "NF" then return .ofNat (← get).fields.length
  match ← binding? name with
  | some (.value v) => return v
  | _ => return .unset

def setVariable (name : String) (v : Value) : Processing Unit := do
  if name = "NF" then
    let n := wholePart v.toNumber
    if n < 0 then failAtRecord "negative value assigned to NF"
    modify fun p => { p with fields := (widened n.toNat p.fields).take n.toNat }
    joinFields
  else bind_ name (.value v)

/-! ## Input -/

def assignment? (argument : String) : Option (String × String) :=
  match cutAtEquals argument with
  | (name, some value) =>
    if name.toList.head?.any startsName && name.toList.all fun c => startsName c || c.isDigit then
      some (name, value)
    else none
  | _ => none

def givenValue (text : String) : Value :=
  .read (String.ofList (unhidden (text.length + 1) text.toList))

/-- Reads a file; a hyphen stands for the input. -/
def contentOf (path : String) : Processing (Except IoError String) := do
  match ← (readOperand (if path = "/dev/stdin" then "-" else path) : Act _) with
  | .error .isADirectory => failWith "read error (Is a directory)"
  | found => return found

/-- Opens the next file that the arguments name, at most so many, or the input if they name none. -/
def openNext : (fuel : Nat) → Processing Bool
  | 0 => return false
  | fuel + 1 => do
    let p ← get
    let count := wholePart (← global "ARGC").toNumber
    if (p.nextArgument : Int) < count then
      set { p with nextArgument := p.nextArgument + 1 }
      let (value, _) := (← array "ARGV").find (.whole p.nextArgument)
      let argument ← textOf (value.getD .unset)
      if argument.isEmpty then openNext fuel
      else
        match assignment? argument with
        | some (name, value) => do
          setVariable name (givenValue value)
          openNext fuel
        | none =>
          match ← contentOf argument with
          | .error e => failWith ("cannot open \"" ++ argument ++ "\" (" ++ reason e ++ ")")
          | .ok content => do
            setGlobal "FILENAME" (.text argument)
            setGlobal "FNR" (.number 0)
            modify fun p => { p with input := some content.toList, hasInput := true }
            return true
    else if p.hasInput then return false
    else
      let content ← (readAll : Act _)
      setGlobal "FNR" (.number 0)
      modify fun p => { p with input := some content.toList, hasInput := true }
      return true

def takeRecord : (fuel : Nat) → Processing (Option Value)
  | 0 => return none
  | fuel + 1 => do
    match (← get).input with
    | none => if ← openNext 100000 then takeRecord fuel else return none
    | some text => do
      let rs ← globalText "RS"
      match ← ofPattern rs (takeRecord? rs text) with
      | none => do
        modify fun p => { p with input := none }
        takeRecord fuel
      | some (record, rest) => do
        modify fun p => { p with input := some rest }
        for name in ["NR", "FNR"] do
          setGlobal name (.number ((← global name).toNumber + 1))
        return some (.read (String.ofList record))

/-- Takes the next record of something that was opened, or that is opened by reading it. -/
def takeFrom (name : String) (content : Processing (Except IoError String)) :
    Processing (Option (Option Value)) := do
  let text? ← match (← get).sources.get? name with
    | some text => pure (some text)
    | none => pure ((← content).toOption.map String.toList)
  match text? with
  | none => return none
  | some text => do
    let rs ← globalText "RS"
    match ← ofPattern rs (takeRecord? rs text) with
    | none => do
      modify fun p => { p with sources := p.sources.insert name [] }
      return some none
    | some (record, rest) => do
      modify fun p => { p with sources := p.sources.insert name rest }
      return some (some (.read (String.ofList record)))

/-! ## Functions that there are in every program -/

def operate (op : Operation) (x y : Float) : Float :=
  match op with
  | .add => x + y
  | .subtract => x - y
  | .multiply => x * y
  | .divide => x / y
  | .remainder =>
    if y == 0 then 0 / 0
    else if x == truncated x && y == truncated y && x.abs < 9000000000000000000 &&
        y.abs < 9000000000000000000 then
      Float.ofInt (Int.tmod (wholePart x) (wholePart y))
    else x - y * truncated (x / y)
  | .power => Float.pow x y

def holdsBetween (r : Relation) (a b : Value) : Processing Bool := do
  let format ← globalText "CONVFMT"
  return match r with
  | .less => isRelated format (· < ·) (· == .lt) a b
  | .atMost => isRelated format (· ≤ ·) (· != .gt) a b
  | .equal => isRelated format (· == ·) (· == .eq) a b
  | .unequal => isRelated format (· != ·) (· != .eq) a b
  | .more => isRelated format (· > ·) (· == .gt) a b
  | .atLeast => isRelated format (· ≥ ·) (· != .lt) a b

/-- A part of a text, from a character on; where it starts too early, it ends later. -/
def partOf (text : String) (start : Float) (size : Option Float) : String :=
  let first := wholePart start
  let from_ := dropBytes (first - 1).toNat text.toList
  match size with
  | none => String.ofList from_
  | some size =>
    let n := wholePart size + if first < 0 then -first else 0
    String.ofList (takeBytes n.toNat from_)

def bytesIn (cs : List Char) : Nat := (String.ofList cs).utf8ByteSize

/-- The place of a text in another, in bytes from 1, or 0. -/
def placeIn (sought : List Char) : (before : Nat) → List Char → Nat
  | before, [] => if sought.isEmpty then before + 1 else 0
  | before, c :: rest =>
    if sought.isPrefixOf (c :: rest) then before + 1 else placeIn sought (before + c.utf8Size) rest

/-- What a function that there is in every program makes of values. -/
def knownValue (name : String) (values : List Value) : Processing Value := do
  let first := values.headD .unset
  let second := (values[1]?).getD .unset
  let x := first.toNumber
  match name with
  | "length" => return .ofNat (← textOf first).utf8ByteSize
  | "substr" =>
    return .text (partOf (← textOf first) second.toNumber ((values[2]?).map Value.toNumber))
  | "index" => return .ofNat (placeIn (← textOf second).toList 0 (← textOf first).toList)
  | "sprintf" =>
    let format ← textOf first
    let conversion ← globalText "CONVFMT"
    let (made, enough) := formatted (Value.toText conversion) format values.tail
    if !enough then
      failAtRecord ("not enough arguments passed to sprintf(\"" ++ format ++ "\")")
    return .text made
  | "sin" => return .number x.sin
  | "cos" => return .number x.cos
  | "atan2" => return .number (Float.atan2 x second.toNumber)
  | "exp" => return .number x.exp
  | "log" => return .number x.log
  | "sqrt" => return .number x.sqrt
  | "int" => return .number (truncated x)
  | "rand" =>
    let seed := ((← get).seed * 1103515245 + 12345) % 2147483648
    modify fun p => { p with seed }
    return .number (Float.ofNat seed / 2147483648)
  | "srand" =>
    let before := (← get).seed
    modify fun p => { p with seed := (wholePart x).toNat }
    return .ofNat before
  | "tolower" => return .text (← textOf first).toLower
  | "toupper" => return .text (← textOf first).toUpper
  | "system" => return .ofNat (← runCommand (← textOf first))
  | "close" => return .number (Float.ofInt (← close (← textOf first)))
  | "fflush" =>
    flush
    return .number 0
  | _ => return .unset

/-! ## Expressions -/

inductive Spot
  | variable (name : String)
  | field (n : Nat)
  | element (array : String) (key : Key)

/-- The value at a spot; an element that is asked for is there from then on. -/
def valueAt : Spot → Processing Value
  | .variable name => variable_ name
  | .field n => field n
  | .element name key => do
    match (← array name).find key with
    | (some v, a) => do
      setArray name a
      return v
    | (none, a) => do
      setArray name (a.insert key .unset)
      return .unset

def setAt (spot : Spot) (v : Value) : Processing Unit :=
  match spot with
  | .variable name => setVariable name v
  | .field n => setField n v
  | .element name key => do setArray name ((← array name).insert key v)

mutual

def valueOf : (fuel : Nat) → Expr → Processing Value
  | 0, _ => throw .exit
  | fuel + 1, e => do
    match e with
    | .number x => return .number x
    | .text s => return .text s
    | .pattern _ => return .ofBool (← isLike fuel (.value (.field (.number 0))) e)
    | .value place => do valueAt (← spotOf fuel place)
    | .assign place e => do
      let spot ← spotOf fuel place
      let v ← valueOf fuel e
      setAt spot v
      return v
    | .change place op e => do
      let spot ← spotOf fuel place
      let y := (← valueOf fuel e).toNumber
      let v := Value.number (operate op (← valueAt spot).toNumber y)
      setAt spot v
      return v
    | .count place by_ first => do
      let spot ← spotOf fuel place
      let x := (← valueAt spot).toNumber
      setAt spot (.number (x + by_))
      return .number (if first then x + by_ else x)
    | .choice condition yes no => do
      if (← valueOf fuel condition).holds then valueOf fuel yes else valueOf fuel no
    | .or a b => do
      if (← valueOf fuel a).holds then return .ofBool true
      return .ofBool (← valueOf fuel b).holds
    | .and a b => do
      if !(← valueOf fuel a).holds then return .ofBool false
      return .ofBool (← valueOf fuel b).holds
    | .not e => return .ofBool (!(← valueOf fuel e).holds)
    | .negative e => return .number (-(← valueOf fuel e).toNumber)
    | .positive e => return .number (← valueOf fuel e).toNumber
    | .isKey keys name => do
      let key ← keyOf fuel keys
      let (found, a) := (← array name).find key
      setArray name a
      return .ofBool found.isSome
    | .isLike e pattern negated => return .ofBool ((← isLike fuel e pattern) != negated)
    | .related r a b => do
      let x ← valueOf fuel a
      let y ← valueOf fuel b
      return .ofBool (← holdsBetween r x y)
    | .joined a b => do
      let s ← textOf (← valueOf fuel a)
      return .text (s ++ (← textOf (← valueOf fuel b)))
    | .operated op a b => do
      let x := (← valueOf fuel a).toNumber
      let y := (← valueOf fuel b).toNumber
      return .number (operate op x y)
    | .call name arguments => do callDefined fuel name arguments
    | .known name arguments => do callKnown fuel name arguments
    | .reading source into => do readInto fuel source into
    | .group [e] => valueOf fuel e
    | .group es => do
      let texts ← es.mapM fun e => do textOf (← valueOf fuel e)
      return .text ((← globalText "SUBSEP").intercalate texts)

def spotOf : (fuel : Nat) → Place → Processing Spot
  | 0, _ => throw .exit
  | fuel + 1, place => do
    match place with
    | .variable name => return .variable name
    | .field n => return .field (← fieldIndex (← valueOf fuel n).toNumber)
    | .element name keys => return .element name (← keyOf fuel keys)

def keyOf : (fuel : Nat) → List Expr → Processing Key
  | 0, _ => throw .exit
  | fuel + 1, keys => do
    match keys with
    | [e] => return .ofValue (← globalText "CONVFMT") (← valueOf fuel e)
    | _ => do
      let texts ← keys.mapM fun e => do textOf (← valueOf fuel e)
      return .text ((← globalText "SUBSEP").intercalate texts)

def regexOf : (fuel : Nat) → Expr → Processing Regex
  | 0, _ => throw .exit
  | fuel + 1, e => do
    let text ← match e with
      | .pattern s => pure s
      | e => do textOf (← valueOf fuel e)
    ofPattern text (readPattern text)

def isLike : (fuel : Nat) → Expr → Expr → Processing Bool
  | 0, _, _ => throw .exit
  | fuel + 1, e, pattern => do
    let text ← textOf (← valueOf fuel e)
    let r ← regexOf fuel pattern
    return r.occursIn plainMatching text.toList

/-- Reads a record and tells whether there was one; if it cannot be read, that is -1. -/
def readInto : (fuel : Nat) → Source → Option Place → Processing Value
  | 0, _, _ => throw .exit
  | fuel + 1, source, into => do
    let found? ← match source with
      | .input => do pure (some (← takeRecord 100000))
      | .file path => do
        let path ← textOf (← valueOf fuel path)
        takeFrom path (contentOf path)
      | .command text => do
        let command ← textOf (← valueOf fuel text)
        takeFrom command do
          flush
          let run := (← get).run
          let written ← (capturing (discard
            (spawned run (fun _ status => return status) ["sh", "-c", command])) : Act _)
          return .ok written
    match found?, into with
    | none, _ => return .number (-1)
    | some none, _ => return .number 0
    | some (some v), none => do
      setRecord v
      return .number 1
    | some (some v), some place => do
      setAt (← spotOf fuel place) v
      return .number 1

def callKnown : (fuel : Nat) → String → List Expr → Processing Value
  | 0, _, _ => throw .exit
  | fuel + 1, name, arguments => do
    match name, arguments with
    | "length", [] => return .ofNat (← textOf (← field 0)).utf8ByteSize
    | "length", [.value (.variable x)] =>
      match ← binding? x with
      | some (.array n) => return .ofNat (((← get).arrays.get? n).getD .empty).entries.size
      | _ => knownValue name [← variable_ x]
    | "split", text :: .value (.variable x) :: rest => do
      let text ← textOf (← valueOf fuel text)
      let separator ← match rest with
        | .pattern s :: _ => do pure (Separator.regex (← ofPattern s (readPattern s)))
        | e :: _ => do
          let s ← textOf (← valueOf fuel e)
          ofPattern s (Separator.ofText s)
        | [] => do
          let s ← globalText "FS"
          ofPattern s (Separator.ofText s)
      let pieces := (separator.cut text.toList).map fun piece => Value.read (String.ofList piece)
      setArray x (.ofPieces pieces)
      return .ofNat pieces.length
    | "match", [text, pattern] => do
      let text ← textOf (← valueOf fuel text)
      let r ← regexOf fuel pattern
      match r.search plainMatching text.toList with
      | none =>
        setGlobal "RSTART" (.number 0)
        setGlobal "RLENGTH" (.number (-1))
        return .number 0
      | some found =>
        let start := Value.ofNat (bytesIn found.skipped + 1)
        setGlobal "RSTART" start
        setGlobal "RLENGTH" (.ofNat (bytesIn found.text))
        return start
    | _, pattern :: made :: rest =>
      if name = "sub" || name = "gsub" then
        let r ← regexOf fuel pattern
        let made ← textOf (← valueOf fuel made)
        let spot? ← match rest with
          | [] => pure (some (Spot.field 0))
          | .value place :: _ => do pure (some (← spotOf fuel place))
          | _ => pure none
        let text ← match spot?, rest with
          | some spot, _ => do textOf (← valueAt spot)
          | none, e :: _ => do textOf (← valueOf fuel e)
          | none, [] => pure ""
        let (text, count) := replaceMatches r (name = "gsub") made.toList text.toList
        if 0 < count then
          for spot in spot?.toList do setAt spot (.text (String.ofList text))
        return .ofNat count
      else
        let mut values := #[]
        for e in arguments do values := values.push (← valueOf fuel e)
        knownValue name values.toList
    | _, _ => do
      let mut values := #[]
      for e in arguments do values := values.push (← valueOf fuel e)
      knownValue name values.toList

def callDefined : (fuel : Nat) → String → List Expr → Processing Value
  | 0, _, _ => throw .exit
  | fuel + 1, name, arguments => do
    match (← get).program.definitions.find? fun d => d.name = name with
    | none => failWith ("function " ++ name ++ " never defined")
    | some definition => do
      let mut given := #[]
      for e in arguments do
        let passed ← match e with
          | .value (.variable x) => do
            match ← binding? x with
            | some (.value .unset) | none =>
              if x = "NF" then pure (Binding.value (← variable_ x))
              else pure (Binding.array (← arrayNumber x))
            | some b => pure b
          | e => do pure (Binding.value (← valueOf fuel e))
        given := given.push passed
      let rows := definition.parameters.zipIdx.map fun (parameter, n) =>
        (parameter, (given[n]?).getD (.value .unset))
      let before := (← get).locals
      modify fun p =>
        { p with locals := some (rows.foldl (fun t (key, b) => t.insert key b) .empty) }
      let result ← (try
          carryOut fuel definition.body
          pure (Except.ok Value.unset)
        catch
          | .back v => pure (.ok v)
          | leap => pure (.error leap) : Processing (Except Leap Value))
      modify fun p => { p with locals := before }
      match result with
      | .ok v => return v
      | .error leap => throw leap

def carryOut : (fuel : Nat) → List Statement → Processing Unit
  | 0, _ => throw .exit
  | fuel + 1, statements => do
    for statement in statements do perform fuel statement

def goRound : (fuel : Nat) → (condition : Option Expr) → (late : Bool) →
    (after body : List Statement) → Processing Unit
  | 0, _, _, _, _ => throw .exit
  | fuel + 1, condition, late, after, body => do
    let goesOn ← match condition with
      | some e => if late then pure true else do pure (← valueOf fuel e).holds
      | none => pure true
    if goesOn then
      let stays ← (try
          carryOut fuel body
          pure true
        catch
          | .leave => pure false
          | .again => pure true
          | leap => throw leap : Processing Bool)
      if stays then
        carryOut fuel after
        goRound fuel condition false after body

def perform : (fuel : Nat) → Statement → Processing Unit
  | 0, _ => throw .exit
  | fuel + 1, statement => do
    match statement with
    | .compute e => discard (valueOf fuel e)
    | .print values sink => do
      let format ← globalText "OFMT"
      let mut texts := #[]
      if values.isEmpty then texts := #[(← field 0).toText format]
      for e in values do texts := texts.push ((← valueOf fuel e).toText format)
      let text := (← globalText "OFS").intercalate texts.toList ++ (← globalText "ORS")
      sendTo fuel sink text
    | .printf values sink => do
      let mut found := #[]
      for e in values do found := found.push (← valueOf fuel e)
      let format ← textOf (found.toList.headD .unset)
      let conversion ← globalText "CONVFMT"
      let (text, enough) := formatted (Value.toText conversion) format found.toList.tail
      sendTo fuel sink text
      if !enough then
        failAtRecord ("not enough arguments passed to printf(\"" ++ format ++ "\")")
    | .erase name [] => setArray name .empty
    | .erase name keys => do
      let key ← keyOf fuel keys
      setArray name ((← array name).erase key)
    | .branch condition yes no => do
      if (← valueOf fuel condition).holds then carryOut fuel yes else carryOut fuel no
    | .loop condition late after body => goRound fuel condition late after body
    | .each name arrayName body => do
      let (keys, a) := (← array arrayName).keys
      setArray arrayName a
      (try
        for key in keys do
          setVariable name (.text key)
          (try carryOut fuel body
            catch
            | .again => pure ()
            | leap => throw leap : Processing Unit)
        catch
        | .leave => pure ()
        | leap => throw leap : Processing Unit)
    | .leave => throw .leave
    | .again => throw .again
    | .next => throw .next
    | .nextFile => throw .nextFile
    | .exit status => do
      for e in status.toList do
        let n := wholePart (← valueOf fuel e).toNumber
        modify fun p => { p with status := (n % 256).toNat }
      throw .exit
    | .back value => do
      match value with
      | none => throw (.back .unset)
      | some e => throw (.back (← valueOf fuel e))

def sendTo : (fuel : Nat) → Option Sink → String → Processing Unit
  | 0, _, _ => throw .exit
  | fuel + 1, sink, text => do
    match sink with
    | none => modify fun p => { p with waiting := p.waiting ++ text }
    | some sink => do
      let name ← textOf (← valueOf fuel sink.name)
      writeTo sink.kind name text

end

/-! ## Programs -/

def limit : Nat := 100000000

/-- Whether a rule is carried out for the record; it has a number. -/
def isDue (number : Nat) : Occasion → Processing Bool
  | .start | .finish => return false
  | .always => return true
  | .when_ condition => do return (← valueOf limit condition).holds
  | .between first last => do
    let p ← get
    let inside ← if number ∈ p.started then pure true else do
      pure (← valueOf limit first).holds
    if !inside then return false
    let ends := (← valueOf limit last).holds
    modify fun p =>
      { p with
        started := p.started.filter (· ≠ number) ++ if ends then [] else [number] }
    return true

def carryOutRule (rule : Rule) : Processing Unit :=
  carryOut limit (rule.body.getD [.print [] none])

def isAt (start : Bool) (rule : Rule) : Bool :=
  match rule.occasion with
  | .start => start
  | .finish => !start
  | _ => false

def goThrough : (fuel : Nat) → Processing Unit
  | 0 => return ()
  | fuel + 1 => do
    match ← takeRecord 100000 with
    | none => return ()
    | some record => do
      setRecord record
      (try
        for (rule, number) in (← get).program.rules.zipIdx do
          if ← isDue number rule.occasion then carryOutRule rule
        catch
        | .next => pure ()
        | .nextFile => modify fun p => { p with input := none }
        | leap => throw leap : Processing Unit)
      goThrough fuel

def unlessEnded (act : Processing Unit) : Processing Bool :=
  tryCatch (do
    act
    return true) fun
    | .failure => throw .failure
    | _ => return false

def processAll : Processing Unit := do
  let rules := (← get).program.rules
  let goesOn ← unlessEnded do
    for rule in rules.filter (isAt true) do carryOutRule rule
  if goesOn && rules.any fun rule => !isAt true rule then
    discard (unlessEnded (goThrough limit))
  discard (unlessEnded do
    for rule in rules.filter (isAt false) do carryOutRule rule)

/-- Closes everything that is open and writes what is waiting. -/
def finish : Processing Unit := do
  for (name, _) in (← get).sinks do discard (close name)
  flush

end Processing

/-! ## Arguments -/

def argumentArray (texts : List String) : Association :=
  texts.zipIdx.foldl (fun a (text, n) => a.insert (.whole n) (.read text)) .empty

/-- The options of `awk`. -/
def recordOptions : OptionTable := ⟨"", "FfvW", "", [("version", 'V')], false⟩

def processRecords (run : Runner) (source : String) (given : Given) (operands : List String) :
    Act Nat := do
  match readProgram source.toList with
  | .error fault =>
    failing 2 ("awk: line " ++ toString fault.line ++ ": " ++ fault.message)
  | .ok program =>
    let s ← get
    let known := s.bindings.filter fun name _ => name ∈ s.exported
    let surroundings := known.rows.foldl (fun a (name, value) =>
      a.insert (.text name) (.read value)) Association.empty
    let separator := match given.value? 'F' with
      | none => Value.text " "
      | some text => Processing.givenValue text
    let texts : List (String × Value) :=
      [("FS", separator), ("OFS", .text " "), ("ORS", .text "\n"), ("RS", .text "\n"),
       ("SUBSEP", .text "\x1c"), ("CONVFMT", .text "%.6g"), ("OFMT", .text "%.6g"),
       ("NR", .number 0), ("FNR", .number 0), ("RSTART", .number 0), ("RLENGTH", .number (-1)),
       ("FILENAME", .text ""), ("ARGC", .ofNat (operands.length + 1))]
    let globals := texts.foldl (fun t (name, v) => t.insert name (Binding.value v)) Table.empty
    let globals := (globals.insert "ENVIRON" (.array 0)).insert "ARGV" (.array 1)
    let processor : Processor :=
      { program, run, name := "awk", globals, locals := none
        arrays := (Table.empty.insert 0 surroundings).insert 1 (argumentArray ("awk" :: operands))
        record := .unset, fields := [], input := none, nextArgument := 1, hasInput := false
        sources := .empty, sinks := [], waiting := "", started := [], seed := 0, status := 0 }
    let assigned : Processing Unit := do
      match Separator.ofText (separator.toText "%.6g") with
      | .ok _ => pure ()
      | .error fault =>
        Processing.failWith ("line 0: regular expression compile failed (" ++ fault.message ++ ")\n" ++
          separator.toText "%.6g")
      for text in given.values 'v' do
        match Processing.assignment? text with
        | some (name, value) => Processing.setVariable name (Processing.givenValue value)
        | none => Processing.failWith ("improper assignment: -v " ++ text)
    let all : Processing Unit := do
      let ended ← (tryCatch (do
        assigned
        Processing.processAll
        return none) fun leap => return some leap : Processing (Option Leap))
      Processing.finish
      for leap in ended.toList do throw leap
    let (_, p) ← (all.run.run processor)
    return p.status

def awk : Launcher := fun run arguments => do
  match recordOptions.read arguments with
  | .error (.noValue letter) => failing 2 ("awk: option -" ++ letter.toString ++ " lacks argument")
  | .error (.unknown letter) => failing 2 ("awk: not an option: -" ++ letter.toString)
  | .error fault => failing 2 ("awk: " ++ fault.message)
  | .ok given =>
    if given.hasAny "VW" then
      print "mawk 1.3.4 20240123\n"
      return 0
    let files := given.values 'f'
    match files, given.operands with
    | [], [] =>
      complain "Usage: awk [Options] [Program] [file ...]"
      return 0
    | [], source :: operands => processRecords run source given operands
    | _, operands => do
      let found ← files.mapM fun path => do return (path, ← readOperand path)
      let missing := found.find? fun (_, content) => content.toOption.isNone
      match missing with
      | some (path, .error e) =>
        failing 2 ("awk: cannot open \"" ++ path ++ "\" (" ++ reason e ++ ")")
      | _ =>
        let parts := found.filterMap fun (_, content) => content.toOption
        processRecords run (String.join parts) given operands

end StorageBroker.Shell
