import StorageBroker.Text.Alphanumeric
import StorageBroker.Text.Blank
import StorageBroker.Text.Decimal

/-! # Log filters

A filter says from which level on the lines of a part of a program are logged. It is a list of
directives separated by commas: `part[span{field=value}]=level`, of which much may be left out. -/

set_option autoImplicit false

namespace StorageBroker

/-- One directive: the part that it is about, if not about all; the span that lines must be in; the
fields that lines must have, and whether they must have a value of some kind; and the level up to
which lines are logged. -/
structure LogDirective where
  part : Option String
  span : Option String
  fields : List (String × Bool)
  level : Nat
  deriving DecidableEq, Repr

inductive LogDirectiveError
  | malformed
  | level
  | pattern
  deriving DecidableEq, Repr

def LogDirectiveError.message : LogDirectiveError → String
  | .malformed => "invalid filter directive"
  | .level => "error parsing level filter: expected one of \"off\", \"error\", \"warn\", " ++
      "\"info\", \"debug\", \"trace\", or a number 0-5"
  | .pattern => "invalid field filter: error building NFA"

namespace LogDirective

/-! ## Levels and fields -/

def levels : List String := ["off", "error", "warn", "info", "debug", "trace"]

def everything : Nat := 5

def level? (s : String) : Option Nat :=
  Text.natBelow? levels.length s <|>
    levels.idxOf? (String.ofList (s.toList.map Char.toLower))

/-- The level that a directive ends with; everything if it is left out. -/
def levelAtEnd (s : String) : Except LogDirectiveError Nat :=
  if s.isEmpty then .ok everything
  else match level? s with
    | some level => .ok level
    | none => .error .level

/-- Whether the brackets of a pattern match and its signs of repetition have something to repeat;
`depth` parentheses are open, and `fresh` says that nothing stands before. -/
def isPattern : (depth : Nat) → (fresh : Bool) → List Char → Bool
  | depth, _, [] => depth = 0
  | _, _, ['\\'] => false
  | depth, _, '\\' :: _ :: rest => isPattern depth false rest
  | depth, _, '(' :: rest => isPattern (depth + 1) true rest
  | 0, _, ')' :: _ => false
  | depth + 1, _, ')' :: rest => isPattern depth false rest
  | depth, fresh, c :: rest =>
    if c = '|' then isPattern depth true rest
    else if c ∈ ['*', '+', '?'] then !fresh && isPattern depth false rest
    else if c = '\x7b' || (c = '[' && !rest.contains ']') then false
    else isPattern depth false rest

def field (s : String) : Except LogDirectiveError (String × Bool) :=
  match s.splitOn "=" with
  | name :: value :: _ =>
    if (Text.natBelow? UInt64.size value).isSome || isPattern 0 true value.toList then
      .ok (name, true)
    else .error .pattern
  | parts => if s.isEmpty then .error .malformed else .ok (parts.headD "", false)

/-! ## Reading -/

/-- What of a directive is being read, with the byte where that began. -/
inductive Reading
  | start
  | part (first : Nat)
  | span (first : Nat)
  | field (first : Nat)
  | fieldsEnd
  | spanEnd
  | level (first : Nat)
  deriving DecidableEq, Repr

def between (text : ByteArray) (first last : Nat) : Except LogDirectiveError String :=
  match String.fromUTF8? (text.extract first last) with
  | some s => .ok s
  | none => .error .malformed

def step (text : ByteArray) (d : LogDirective) (place : Nat) :
    Reading → Char → Except LogDirectiveError (LogDirective × Reading)
  | .start, '[' => .ok (d, .span (place + 1))
  | .start, c =>
    if c ∈ ['-', ':', '_'] || Text.isAlphanumeric c then .ok (d, .part place) else .error .malformed
  | .part first, '=' => do
    return ({ d with part := some (← between text first place) }, .level (place + 1))
  | .part first, '[' => do
    return ({ d with part := some (← between text first place) }, .span (place + 1))
  | .span first, ']' => do return ({ d with span := some (← between text first place) }, .spanEnd)
  | .span first, '\x7b' => do
    let name ← between text first place
    return ({ d with span := if name.isEmpty then none else some name }, .field (place + 1))
  | .field first, '\x7d' => do
    let found ← field (← between text first place)
    return ({ d with fields := d.fields ++ [found] }, .fieldsEnd)
  | .fieldsEnd, ']' => .ok (d, .spanEnd)
  | .spanEnd, '=' => .ok (d, .level (place + 1))
  | .fieldsEnd, _ | .spanEnd, _ => .error .malformed
  | reading, _ => .ok (d, reading)

def steps (text : ByteArray) (d : LogDirective) :
    Nat → Reading → List Char → Except LogDirectiveError (LogDirective × Reading)
  | _, reading, [] => .ok (d, reading)
  | place, reading, c :: rest => do
    let (d, reading) ← step text d place reading c
    steps text d (place + c.utf8Size) reading rest

/-- Reads a directive. Where it is cut is counted without the white space around it, but what is cut
is the text with that white space. A part without a level is logged to the last. -/
def ofText (s : String) : Except LogDirectiveError LogDirective := do
  let text := s.toUTF8
  let inner := ((s.toList.dropWhile Text.isWhiteSpace).reverse.dropWhile Text.isWhiteSpace).reverse
  let (d, reading) ← steps text ⟨none, none, [], everything⟩ 0 .start inner
  match reading with
  | .part first =>
    let name ← between text first text.size
    match level? name with
    | some level => return { d with level }
    | none => return { d with part := some name }
  | .level first => return { d with level := ← levelAtEnd (← between text first text.size) }
  | .spanEnd => return d
  | _ => .error .malformed

/-! ## Lines -/

/-- Whether a directive can decide about lines by what is known before they are written: it asks
for no span and no value. -/
def isStatic (d : LogDirective) : Bool := d.span.isNone && d.fields.all fun field => !field.2

/-- Whether a directive is about the lines of a part that have certain fields. -/
def isAbout (d : LogDirective) (part : String) (fields : List String) : Bool :=
  (match d.part with
    | none => true
    | some named => part.startsWith named) && d.fields.all fun field => field.1 ∈ fields

def precede : List String → List String → Bool
  | [], _ => true
  | _ :: _, [] => false
  | a :: as, b :: bs => a < b || (a = b && precede as bs)

/-- Whether a directive says at least as much about its lines as another one: it names more of their
part, or as much of it and more fields. -/
def isAtLeast (d other : LogDirective) : Bool :=
  let size (d : LogDirective) : Nat :=
    match d.part with
    | none => 0
    | some named => named.utf8ByteSize + 1
  let names (d : LogDirective) : List String := d.fields.map Prod.fst
  size other < size d || (size d = size other && (other.fields.length < d.fields.length ||
    (d.fields.length = other.fields.length && precede (names other) (names d))))

end LogDirective

abbrev LogFilter : Type := List LogDirective

namespace LogFilter

def pieces (s : String) : List String := (s.splitOn ",").filter fun piece => !piece.isEmpty

/-- Reads a filter; nothing comes of one with a piece that is no directive. -/
def ofText? (s : String) : Option LogFilter :=
  (pieces s).mapM fun piece => (LogDirective.ofText piece).toOption

/-- Reads what can be read of a filter: its directives, and the other pieces with what is wrong. -/
def ofTextInPart (s : String) : LogFilter × List (String × LogDirectiveError) :=
  ((pieces s).filterMap fun piece => (LogDirective.ofText piece).toOption,
    (pieces s).filterMap fun piece =>
      match LogDirective.ofText piece with
      | .ok _ => none
      | .error e => some (piece, e))

/-- Whether lines of a part that have certain fields, outside any span, are logged at a level. Of
the directives about them the one that says most decides, and the last of several. -/
def shows (f : LogFilter) (part : String) (fields : List String) (level : Nat) : Bool :=
  let fitting := f.filter fun d => d.isStatic && d.isAbout part fields
  let best := fitting.foldl (fun (best : Option LogDirective) d =>
    match best with
    | none => some d
    | some other => if d.isAtLeast other then some d else best) none
  match best with
  | none => false
  | some d => level ≤ d.level

end LogFilter

end StorageBroker
