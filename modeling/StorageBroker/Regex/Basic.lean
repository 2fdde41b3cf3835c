/-! # Regular expressions

What an expression matches in a text. From a place in a text, an expression leads to other places,
the farthest first; of those that are found along several ways, the way counts on which each part of
the expression, from left to right, takes as much as it can. -/

set_option autoImplicit false

namespace StorageBroker

/-- A set of characters: those in one of some ranges, or all others. -/
structure CharSet where
  negated : Bool
  ranges : List (Char × Char)
  deriving DecidableEq, Repr

namespace CharSet

def all : CharSet := ⟨true, []⟩

def single (c : Char) : CharSet := ⟨false, [(c, c)]⟩

def inRanges (s : CharSet) (c : Char) : Bool := s.ranges.any fun (a, b) => a ≤ c && c ≤ b

def has (s : CharSet) (foldCase : Bool) (c : Char) : Bool :=
  (s.inRanges c || (foldCase && (s.inRanges c.toLower || s.inRanges c.toUpper))) != s.negated

end CharSet

/-- A place between two characters that an expression can ask for. -/
inductive Edge
  | textStart
  | textEnd
  | lineStart
  | lineEnd
  | wordStart
  | wordEnd
  | wordEdge
  | noWordEdge
  deriving DecidableEq, Repr

/-- A regular expression. Groups have numbers, and what a group has matched can be asked for
again. -/
inductive Regex
  | empty
  | one (set : CharSet)
  | edge (e : Edge)
  | both (first second : Regex)
  | either (first second : Regex)
  | many (least : Nat) (most : Option Nat) (r : Regex)
  | group (number : Nat) (r : Regex)
  | again (number : Nat)
  deriving Repr

/-- How an expression is used: whether cases are the same, and whether each line of a text has a
start and an end of its own. -/
structure Matching where
  foldCase : Bool
  byLine : Bool
  deriving DecidableEq, Repr

/-- A place in a text: the character before it, the text after it and the length of that, and what
groups have matched on the way there, the latest first. -/
structure Cursor where
  before : Option Char
  rest : List Char
  left : Nat
  groups : List (Nat × List Char)
  deriving DecidableEq, Repr

namespace Cursor

def ofText (before : Option Char) (text : List Char) : Cursor := ⟨before, text, text.length, []⟩

def forward (c : Cursor) (n : Nat) : Cursor :=
  if n = 0 then c
  else
    { c with
      before := (c.rest.drop (n - 1)).head?
      rest := c.rest.drop n
      left := c.left - n }

def textTo (c later : Cursor) : List Char := c.rest.take (c.left - later.left)

def group (c : Cursor) (number : Nat) : List Char := (c.groups.lookup number).getD []

end Cursor

def isWordChar (c : Char) : Bool := c.isAlphanum || c = '_'

def Edge.holds (m : Matching) (e : Edge) (c : Cursor) : Bool :=
  let inWord (c : Option Char) : Bool := c.any isWordChar
  let wordBefore := inWord c.before
  let wordAfter := inWord c.rest.head?
  match e with
  | .textStart => c.before.isNone
  | .textEnd => c.rest.isEmpty
  | .lineStart => c.before.isNone || (m.byLine && c.before = some '\n')
  | .lineEnd => c.rest.isEmpty || (m.byLine && c.rest.head? = some '\n')
  | .wordStart => !wordBefore && wordAfter
  | .wordEnd => wordBefore && !wordAfter
  | .wordEdge => wordBefore != wordAfter
  | .noWordEdge => wordBefore == wordAfter

/-- Drops places that are the same as one before them, whatever the way there, unless ways are
kept. -/
def distinct (keepWays : Bool) : (known : List Cursor) → List Cursor → List Cursor
  | _, [] => []
  | known, c :: rest =>
    if known.any fun d => d.left = c.left && (!keepWays || d.groups == c.groups) then
      distinct keepWays known rest
    else c :: distinct keepWays (c :: known) rest

def farthestFirst (keepWays : Bool) (places : List Cursor) : List Cursor :=
  match places with
  | [] | [_] => places
  | _ => distinct keepWays [] (places.mergeSort fun c d => c.left ≤ d.left)

/-- All places that are reached from some by any number of steps, those of fewer steps first. -/
def reached (keepWays : Bool) (step : Cursor → List Cursor) :
    (steps : Nat) → (known newest : List Cursor) → List Cursor
  | 0, known, _ => known
  | steps + 1, known, newest =>
    match distinct keepWays known (newest.flatMap fun c =>
        (step c).filter fun d => d.left < c.left) with
    | [] => known
    | next => reached keepWays step steps (known ++ next) next

def afterSteps (keepWays : Bool) (step : Cursor → List Cursor) : Nat → List Cursor → List Cursor
  | 0, places => places
  | n + 1, places =>
    match places with
    | [] => []
    | _ => afterSteps keepWays step n (distinct keepWays [] (places.flatMap step))

namespace Regex

def asksAgain : Regex → Bool
  | .again _ => true
  | .both a b | .either a b => a.asksAgain || b.asksAgain
  | .many _ _ r | .group _ r => r.asksAgain
  | .empty | .one _ | .edge _ => false

def lastGroup : Regex → Nat
  | .both a b | .either a b => max a.lastGroup b.lastGroup
  | .many _ _ r => r.lastGroup
  | .group number r => max number r.lastGroup
  | .empty | .one _ | .edge _ | .again _ => 0

def places (m : Matching) (keepWays : Bool) : Regex → Cursor → List Cursor
  | .empty, c => [c]
  | .one set, c => if c.rest.head?.any (set.has m.foldCase) then [c.forward 1] else []
  | .edge e, c => if e.holds m c then [c] else []
  | .both a b, c => farthestFirst keepWays ((a.places m keepWays c).flatMap (b.places m keepWays))
  | .either a b, c => farthestFirst keepWays (a.places m keepWays c ++ b.places m keepWays c)
  | .many least most (.one set), c =>
    let fitting := (c.rest.takeWhile (set.has m.foldCase)).length
    let most := match most with
      | none => fitting
      | some n => min n fitting
    (List.range (most + 1 - least)).map fun n => c.forward (most - n)
  | .many least most r, c =>
    let step := r.places m keepWays
    let first := afterSteps keepWays step least [c]
    let more := match most with
      | none => c.left + 1
      | some n => n - least
    farthestFirst keepWays (reached keepWays step more first first)
  | .group number r, c =>
    (r.places m keepWays c).map fun d => { d with groups := (number, c.textTo d) :: d.groups }
  | .again number, c =>
    match c.groups.lookup number with
    | none => []
    | some text =>
      let fold (x : Char) : Char := if m.foldCase then x.toLower else x
      if (text.map fold).isPrefixOf (c.rest.map fold) then [c.forward text.length] else []

end Regex

/-- Where an expression matches in a text: what is before that, the place where it starts, and the
place where it ends. -/
structure Match where
  skipped : List Char
  start : Cursor
  ending : Cursor
  deriving DecidableEq, Repr

def Match.text (found : Match) : List Char := found.start.textTo found.ending

/-- Whether a match from one place to another is one that is looked for. -/
abbrev Choice : Type := Cursor → Cursor → Bool

def anyMatch : Choice := fun _ _ => true

def wholeWords : Choice := fun start ending =>
  !start.before.any isWordChar && !ending.rest.head?.any isWordChar

def toTheEnd : Choice := fun start ending => start.before.isNone && ending.left = 0

namespace Regex

def matchAt? (r : Regex) (m : Matching) (choice : Choice) (c : Cursor) : Option Cursor :=
  (r.places m r.asksAgain c).find? (choice c)

def searchFrom (r : Regex) (m : Matching) (choice : Choice) (before : Option Char)
    (text : List Char) : Option Match :=
  let here := Cursor.ofText before text
  match r.matchAt? m choice here with
  | some ending => some ⟨[], here, ending⟩
  | none =>
    match text with
    | [] => none
    | c :: rest =>
      (r.searchFrom m choice (some c) rest).map fun found =>
        { found with skipped := c :: found.skipped }

def search (r : Regex) (m : Matching) (text : List Char) : Option Match :=
  r.searchFrom m anyMatch none text

def occursIn (r : Regex) (m : Matching) (text : List Char) : Bool := (r.search m text).isSome

/-- Puts a character in front of the first match, or of what is after the last one if there is
none. -/
def pushSkipped (c : Char) : List Match × List Char → List Match × List Char
  | ([], ending) => ([], c :: ending)
  | (first :: more, ending) => ({ first with skipped := c :: first.skipped } :: more, ending)

/-- The matches in a text from left to right, and what is after the last one. An empty match counts
unless it follows another match directly. -/
def matchesFrom (r : Regex) (m : Matching) (choice : Choice) : (fuel : Nat) →
    (afterMatch : Bool) → Option Char → List Char → List Match × List Char
  | 0, _, _, text => ([], text)
  | fuel + 1, afterMatch, before, text =>
    match r.searchFrom m choice before text with
    | none => ([], text)
    | some found =>
      let isEmpty := found.text.isEmpty
      let counted := if isEmpty && afterMatch && found.skipped.isEmpty then [] else [found]
      let (more, ending) :=
        if isEmpty then
          match found.start.rest with
          | [] => ([], [])
          | c :: rest => pushSkipped c (r.matchesFrom m choice fuel false (some c) rest)
        else r.matchesFrom m choice fuel true found.ending.before found.ending.rest
      (counted ++ more, ending)

def allMatches (r : Regex) (m : Matching) (choice : Choice) (text : List Char) :
    List Match × List Char :=
  r.matchesFrom m choice (text.length + 2) false none text

end Regex

end StorageBroker
