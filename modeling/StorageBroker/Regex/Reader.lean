import StorageBroker.Regex.Basic

/-! # Reading regular expressions

The basic form of expressions gives most signs their meaning by a backslash before them, the
extended form takes it away. -/

set_option autoImplicit false

namespace StorageBroker

inductive RegexError
  | openBracket
  | openGroup
  | openInterval
  | closedGroup
  | badInterval
  | badRange
  | badClass
  | nothingToRepeat
  | noSuchGroup
  | trailingBackslash
  deriving DecidableEq, Repr

def RegexError.message : RegexError → String
  | .openBracket => "Unmatched [, [^, [:, [., or [="
  | .openGroup => "Unmatched ( or \\("
  | .openInterval => "Unmatched \\\x7b"
  | .closedGroup => "Unmatched ) or \\)"
  | .badInterval => "Invalid content of \\\x7b\\\x7d"
  | .badRange => "Invalid range end"
  | .badClass => "Invalid character class name"
  | .nothingToRepeat => "Invalid preceding regular expression"
  | .noSuchGroup => "Invalid back reference"
  | .trailingBackslash => "Trailing backslash"

/-- What a form of expressions allows: the extended form; letters after a backslash that stand for
characters; a backslash that hides the next character also within brackets; word edges, classes and
groups after a backslash; digits by a letter after a backslash; and signs that stand for themselves
where they have nothing to repeat or to end. -/
structure RegexForm where
  extended : Bool
  letters : Bool
  hidesInBrackets : Bool
  edges : Bool
  digits : Bool
  lenient : Bool
  deriving DecidableEq, Repr

namespace RegexForm

def basic : RegexForm := ⟨false, false, false, true, false, true⟩

def extendedForm : RegexForm := ⟨true, false, false, true, false, true⟩

end RegexForm

namespace Regex

/-! ## Sets -/

def classes : List (String × List (Char × Char)) :=
  [("alpha", [('A', 'Z'), ('a', 'z')]), ("digit", [('0', '9')]),
   ("alnum", [('0', '9'), ('A', 'Z'), ('a', 'z')]), ("upper", [('A', 'Z')]),
   ("lower", [('a', 'z')]), ("space", [('\t', '\r'), (' ', ' ')]),
   ("blank", [('\t', '\t'), (' ', ' ')]), ("xdigit", [('0', '9'), ('A', 'F'), ('a', 'f')]),
   ("punct", [('!', '/'), (':', '@'), ('[', '`'), ('\x7b', '~')]), ("print", [(' ', '~')]),
   ("graph", [('!', '~')]), ("cntrl", [('\x00', '\x1f'), ('\x7f', '\x7f')])]

def class? (name : List Char) : Option (List (Char × Char)) := classes.lookup (String.ofList name)

def letter? : Char → Option Char
  | 'a' => some '\x07'
  | 'f' => some '\x0c'
  | 'n' => some '\n'
  | 'r' => some '\r'
  | 't' => some '\t'
  | 'v' => some '\x0b'
  | _ => none

/-- A name between a sign and the same sign with a bracket, and the text after that. -/
def bracketName? (sign : Char) (text : List Char) : Option (List Char × List Char) :=
  let name := text.takeWhile (· ≠ sign)
  match text.drop name.length with
  | _ :: ']' :: rest => some (name, rest)
  | _ => none

/-- An element of a set at the front of a text: a character or the ranges of a class, and the text
after it. -/
def bracketElement (form : RegexForm) :
    List Char → Except RegexError ((Char ⊕ List (Char × Char)) × List Char)
  | [] => .error .openBracket
  | '[' :: ':' :: rest =>
    match bracketName? ':' rest with
    | none => .error .openBracket
    | some (name, after) =>
      match class? name with
      | none => .error .badClass
      | some ranges => .ok (.inr ranges, after)
  | '[' :: sign :: rest =>
    if sign = '.' || sign = '=' then
      match bracketName? sign rest with
      | some ([c], after) => .ok (.inl c, after)
      | _ => .error .openBracket
    else .ok (.inl '[', sign :: rest)
  | '\\' :: c :: rest =>
    if form.hidesInBrackets then .ok (.inl ((letter? c).getD c), rest)
    else
      match if form.letters then letter? c else none with
      | some made => .ok (.inl made, rest)
      | none => .ok (.inl '\\', c :: rest)
  | c :: rest => .ok (.inl c, rest)

/-- The ranges of a set up to its closing bracket, which is an element if it comes first, and the
text after it. -/
def bracketRanges (form : RegexForm) : (fuel : Nat) → (first : Bool) → List Char →
    Except RegexError (List (Char × Char) × List Char)
  | 0, _, _ => .error .openBracket
  | fuel + 1, first, text =>
    match first, text with
    | false, ']' :: rest => .ok ([], rest)
    | _, _ => do
      let (element, rest) ← bracketElement form text
      match element, rest with
      | .inr ranges, _ =>
        let (more, after) ← bracketRanges form fuel false rest
        return (ranges ++ more, after)
      | .inl a, '-' :: ']' :: after => return ([(a, a), ('-', '-')], after)
      | .inl a, '-' :: ending =>
        match ← bracketElement form ending with
        | (.inl b, rest) =>
          if b < a && !form.hidesInBrackets then throw .badRange
          let (more, after) ← bracketRanges form fuel false rest
          return ((a, b) :: more, after)
        | (.inr _, _) => throw .badRange
      | .inl a, _ =>
        let (more, after) ← bracketRanges form fuel false rest
        return ((a, a) :: more, after)

def bracketSet (form : RegexForm) (text : List Char) : Except RegexError (CharSet × List Char) := do
  let (negated, text) := match text with
    | '^' :: rest => (true, rest)
    | _ => (false, text)
  let (ranges, after) ← bracketRanges form (text.length + 1) true text
  return (⟨negated, ranges⟩, after)

/-! ## Intervals -/

def interval (ending : List Char) (text : List Char) :
    Except RegexError ((Nat × Option Nat) × List Char) := do
  let number (ds : List Char) : Option Nat := (String.ofList ds).toNat?
  let first := text.takeWhile Char.isDigit
  let finish (least : Nat) (most : Option Nat) (rest : List Char) :
      Except RegexError ((Nat × Option Nat) × List Char) :=
    if ending.isPrefixOf rest then
      if most.any (· < least) then throw .badInterval
      else return ((least, most), rest.drop ending.length)
    else throw (if rest.isEmpty then .openInterval else .badInterval)
  match text.drop first.length with
  | ',' :: rest =>
    let second := rest.takeWhile Char.isDigit
    finish ((number first).getD 0) (number second) (rest.drop second.length)
  | rest =>
    match number first with
    | some n => finish n (some n) rest
    | none => throw (if rest.isEmpty then .openInterval else .badInterval)

/-! ## Expressions -/

/-- A group that is being read: its number, the alternatives before the present one, and the items of
that, the last one first. -/
structure Level where
  number : Nat
  alternatives : List Regex
  items : List Regex

def ofItems (items : List Regex) : Regex :=
  match items with
  | [] => .empty
  | last :: before => before.foldl (fun r item => .both item r) last

def Level.regex (l : Level) : Regex := l.alternatives.foldr (fun a r => .either a r) (ofItems l.items)

/-- The groups that are being read, the innermost first, and how many there have been. -/
structure Progress where
  level : Level
  above : List Level
  count : Nat

namespace Progress

def start : Progress := ⟨⟨0, [], []⟩, [], 0⟩

def push (p : Progress) (r : Regex) : Progress :=
  { p with level := { p.level with items := r :: p.level.items } }

def char (p : Progress) (c : Char) : Progress := p.push (.one (.single c))

def opened (p : Progress) : Progress :=
  ⟨⟨p.count + 1, [], []⟩, p.level :: p.above, p.count + 1⟩

def closed (p : Progress) : Except RegexError Progress :=
  match p.above with
  | [] => .error .closedGroup
  | outer :: above =>
    .ok (Progress.push { p with level := outer, above } (.group p.level.number p.level.regex))

def parted (p : Progress) : Progress :=
  { p with
    level := { p.level with
      alternatives := p.level.alternatives ++ [ofItems p.level.items], items := [] } }

/-- Whether the last item cannot be repeated, because there is none or it is a start. -/
def atStart (p : Progress) : Bool :=
  match p.level.items with
  | [] | [.edge .lineStart] => true
  | _ => false

def repeated (p : Progress) (least : Nat) (most : Option Nat) : Except RegexError Progress :=
  match p.level.items with
  | [] => .error .nothingToRepeat
  | last :: before =>
    .ok { p with level := { p.level with items := .many least most last :: before } }

def finished (p : Progress) : Except RegexError Regex :=
  if p.above.isEmpty then .ok p.level.regex else .error .openGroup

/-- Asks for a group again. A group that has not been closed cannot be asked for. -/
def asked (p : Progress) (number : Nat) : Except RegexError Progress :=
  if p.count < number || p.level.number = number || p.above.any fun l => l.number = number then
    .error .noSuchGroup
  else .ok (p.push (.again number))

end Progress

def repetition? : Char → Option (Nat × Option Nat)
  | '*' => some (0, none)
  | '+' => some (1, none)
  | '?' => some (0, some 1)
  | _ => none

def hiddenItem? (form : RegexForm) (c : Char) : Option Regex :=
  let word : List (Char × Char) := [('0', '9'), ('A', 'Z'), ('a', 'z'), ('_', '_')]
  let blank : List (Char × Char) := [('\t', '\r'), (' ', ' ')]
  let special := if !form.edges then none else match c with
    | 'w' => some (.one ⟨false, word⟩)
    | 'W' => some (.one ⟨true, word⟩)
    | 's' => some (.one ⟨false, blank⟩)
    | 'S' => some (.one ⟨true, blank⟩)
    | 'b' => some (.edge .wordEdge)
    | 'B' => some (.edge .noWordEdge)
    | '<' => some (.edge .wordStart)
    | '>' => some (.edge .wordEnd)
    | '`' => some (.edge .textStart)
    | '\'' => some (.edge .textEnd)
    | _ => none
  let number := if !form.digits then none else match c with
    | 'd' => some (Regex.one ⟨false, [('0', '9')]⟩)
    | 'D' => some (.one ⟨true, [('0', '9')]⟩)
    | _ => none
  special <|> number <|> if form.letters then (letter? c).map fun made => .one (.single made) else none

/-- Repeats the last item, or takes the sign for itself if there is none and the form allows that. -/
def repeatOr (form : RegexForm) (p : Progress) (bounds : Nat × Option Nat) (sign : List Char) :
    Except RegexError Progress :=
  if !form.extended && p.atStart then .ok (sign.foldl Progress.char p)
  else if !form.lenient && p.atStart then .error .nothingToRepeat
  else if p.level.items.isEmpty && form.lenient then .ok p
  else p.repeated bounds.1 bounds.2

def extendedFrom (form : RegexForm) : (fuel : Nat) → Progress → List Char → Except RegexError Regex
  | 0, p, _ => p.finished
  | _ + 1, p, [] => p.finished
  | fuel + 1, p, c :: rest =>
    match c with
    | '\\' =>
      match rest with
      | [] => .error .trailingBackslash
      | d :: after =>
        if form.edges && '1' ≤ d && d ≤ '9' then do
          extendedFrom form fuel (← p.asked (d.toNat - 48)) after
        else extendedFrom form fuel
          (p.push ((hiddenItem? form d).getD (.one (.single d)))) after
    | '(' => extendedFrom form fuel p.opened rest
    | ')' =>
      if form.lenient && p.above.isEmpty then extendedFrom form fuel (p.char c) rest
      else do extendedFrom form fuel (← p.closed) rest
    | '|' => extendedFrom form fuel p.parted rest
    | '^' => extendedFrom form fuel (p.push (.edge .lineStart)) rest
    | '$' => extendedFrom form fuel (p.push (.edge .lineEnd)) rest
    | '.' => extendedFrom form fuel (p.push (.one .all)) rest
    | '[' => do
      let (set, after) ← bracketSet form rest
      extendedFrom form fuel (p.push (.one set)) after
    | '\x7b' =>
      if !form.lenient && p.atStart then .error .nothingToRepeat
      else match interval ['\x7d'] rest with
      | .ok (bounds, after) => do
        extendedFrom form fuel (← repeatOr form p bounds [c]) after
      | .error e =>
        if form.lenient && e ≠ .badInterval || form.lenient && !(rest.head?.any Char.isDigit) then
          extendedFrom form fuel (p.char c) rest
        else .error e
    | _ =>
      match repetition? c with
      | some bounds => do extendedFrom form fuel (← repeatOr form p bounds [c]) rest
      | none => extendedFrom form fuel (p.char c) rest

def basicFrom (form : RegexForm) : (fuel : Nat) → Progress → List Char → Except RegexError Regex
  | 0, p, _ => p.finished
  | _ + 1, p, [] => p.finished
  | fuel + 1, p, c :: rest =>
    match c with
    | '\\' =>
      match rest with
      | [] => .error .trailingBackslash
      | d :: after =>
        match d with
        | '(' => basicFrom form fuel p.opened after
        | ')' => do basicFrom form fuel (← p.closed) after
        | '|' => basicFrom form fuel p.parted after
        | '\x7b' =>
          if p.atStart then .error .nothingToRepeat
          else do
            let (bounds, after) ← interval ['\\', '\x7d'] after
            basicFrom form fuel (← p.repeated bounds.1 bounds.2) after
        | '+' | '?' => do
          basicFrom form fuel (← repeatOr form p ((repetition? d).getD (0, none)) [d]) after
        | _ =>
          if '1' ≤ d && d ≤ '9' then do
            basicFrom form fuel (← p.asked (d.toNat - 48)) after
          else basicFrom form fuel
            (p.push ((hiddenItem? form d).getD (.one (.single d)))) after
    | '*' => do basicFrom form fuel (← repeatOr form p (0, none) [c]) rest
    | '^' =>
      let item : Regex := if p.level.items.isEmpty then .edge .lineStart else .one (.single c)
      basicFrom form fuel (p.push item) rest
    | '$' =>
      let ends := match rest with
        | [] | '\\' :: ')' :: _ | '\\' :: '|' :: _ => true
        | _ => false
      basicFrom form fuel (p.push (if ends then .edge .lineEnd else .one (.single c))) rest
    | '.' => basicFrom form fuel (p.push (.one .all)) rest
    | '[' => do
      let (set, after) ← bracketSet form rest
      basicFrom form fuel (p.push (.one set)) after
    | _ => basicFrom form fuel (p.char c) rest

def read (form : RegexForm) (text : List Char) : Except RegexError Regex :=
  if form.extended then extendedFrom form (text.length + 1) .start text
  else basicFrom form (text.length + 1) .start text

def ofText (text : List Char) : Regex := ofItems (text.reverse.map fun c => .one (.single c))

end Regex

end StorageBroker
