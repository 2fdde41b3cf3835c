/-! # Patterns

Texts with wildcards: any text, any character, and any character of a set. Quoted characters stand
for themselves. -/

set_option autoImplicit false

namespace StorageBroker.Shell

/-- A field: its characters, and which of them are quoted. -/
abbrev Field : Type := List (Char × Bool)

inductive PatternItem
  | any
  | one
  | member (negated : Bool) (ranges : List (Char × Char))
  | exactly (c : Char)
  deriving DecidableEq, Repr

namespace PatternItem

def fits : PatternItem → Char → Bool
  | .any, _ | .one, _ => true
  | .member negated ranges, c => ranges.any (fun range => range.1 ≤ c && c ≤ range.2) != negated
  | .exactly d, c => d = c

end PatternItem

/-- The characters of a class that has a name, as ranges. -/
def classRanges? (name : String) : Option (List (Char × Char)) :=
  let letters := [('A', 'Z'), ('a', 'z')]
  match name with
  | "alpha" => some letters
  | "digit" => some [('0', '9')]
  | "alnum" => some (('0', '9') :: letters)
  | "upper" => some [('A', 'Z')]
  | "lower" => some [('a', 'z')]
  | "space" => some [(' ', ' '), ('\t', '\r')]
  | "blank" => some [(' ', ' '), ('\t', '\t')]
  | "punct" => some [('!', '/'), (':', '@'), ('[', '`'), ('\x7b', '~')]
  | "print" => some [(' ', '~')]
  | "graph" => some [('!', '~')]
  | "cntrl" => some [('\x00', '\x1f'), ('\x7f', '\x7f')]
  | "xdigit" => some [('0', '9'), ('A', 'F'), ('a', 'f')]
  | _ => none

/-- The class whose name stands between colons at the front of a field, up to the bracket after it. -/
def namedClass? (f : Field) : Option (List (Char × Char) × Field) :=
  match f with
  | (':', false) :: rest =>
    let name := rest.takeWhile fun c => c.1.isAlpha
    match rest.drop name.length with
    | (':', false) :: (']', false) :: after =>
      (classRanges? (String.ofList (name.map Prod.fst))).map fun ranges => (ranges, after)
    | _ => none
  | _ => none

/-- The ranges of a set up to its closing bracket, and the field after it: single characters,
characters with a hyphen between them, and classes. A bracket that comes first closes nothing. -/
def rangesFrom? : (fuel : Nat) → (first : Bool) → Field → Option (List (Char × Char) × Field)
  | 0, _, _ => none
  | _ + 1, _, [] => none
  | fuel + 1, first, (c, quoted) :: rest =>
    let joining (ranges : List (Char × Char)) (f : Field) : Option (List (Char × Char) × Field) :=
      (rangesFrom? fuel false f).map fun (more, after) => (ranges ++ more, after)
    if c = ']' && !quoted && !first then some ([], rest)
    else
      match if c = '[' && !quoted then namedClass? rest else none, rest with
      | some (ranges, after), _ => joining ranges after
      | none, ('-', false) :: (d, hidden) :: after =>
        if d = ']' && !hidden then joining [(c, c)] rest else joining [(c, d)] after
      | none, _ => joining [(c, c)] rest

/-- The set at the front of a field that follows an opening bracket, and the field after it; one of
some signs in front stands for all other characters. -/
def setOf? (negations : List Char) (f : Field) : Option (PatternItem × Field) :=
  let negated := f.head?.any fun c => c.1 ∈ negations && !c.2
  let inside := if negated then f.drop 1 else f
  (rangesFrom? (inside.length + 1) true inside).map fun (ranges, after) =>
    (.member negated ranges, after)

/-- A pattern; `passed` characters are left out, for they belong to a set. -/
def patternFrom (negations : List Char) : (passed : Nat) → Field → List PatternItem
  | _, [] => []
  | passed + 1, _ :: rest => patternFrom negations passed rest
  | 0, (c, quoted) :: rest =>
    if quoted then .exactly c :: patternFrom negations 0 rest
    else if c = '*' then .any :: patternFrom negations 0 rest
    else if c = '?' then .one :: patternFrom negations 0 rest
    else if c = '[' then
      match setOf? negations rest with
      | some (item, after) => item :: patternFrom negations (rest.length - after.length) rest
      | none => .exactly c :: patternFrom negations 0 rest
    else .exactly c :: patternFrom negations 0 rest

def Field.withHidden : Field → Field
  | ('\\', false) :: (c, _) :: rest => (c, true) :: Field.withHidden rest
  | c :: rest => c :: Field.withHidden rest
  | [] => []

def Field.pattern (f : Field) : List PatternItem := patternFrom ['!'] 0 f.withHidden

def textPattern (text : String) : List PatternItem :=
  patternFrom ['!', '^'] 0 (Field.withHidden (text.toList.map fun c => (c, false)))

def matchesText : List PatternItem → List Char → Bool
  | [], text => text.isEmpty
  | .any :: items, [] => matchesText items []
  | .any :: items, c :: text => matchesText items (c :: text) || matchesText (.any :: items) text
  | item :: items, c :: text => item.fits c && matchesText items text
  | _ :: _, [] => false
termination_by items text => items.length + text.length

/-- A text without a front that matches a pattern: the longest one, or the shortest. -/
def withoutFront (longest : Bool) (items : List PatternItem) (text : List Char) : List Char :=
  let sizes := List.range (text.length + 1)
  let fitting := sizes.filter fun n => matchesText items (text.take n)
  match if longest then fitting.getLast? else fitting.head? with
  | none => text
  | some n => text.drop n

/-- A text without an end that matches a pattern: the longest one, or the shortest. -/
def withoutEnd (longest : Bool) (items : List PatternItem) (text : List Char) : List Char :=
  let sizes := List.range (text.length + 1)
  let fitting := sizes.filter fun n => matchesText items (text.drop n)
  match if longest then fitting.head? else fitting.getLast? with
  | none => text
  | some n => text.take n

end StorageBroker.Shell
