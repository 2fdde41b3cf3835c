import StorageBroker.Shell.Pattern
import StorageBroker.Shell.State

/-! # Expansion

How the pieces of a word become fields: unquoted values are split at separators, and fields with
unquoted wildcards become the names of the files that they match. -/

set_option autoImplicit false

namespace StorageBroker.Shell

/-- A part of an expanded word: a character, a place where fields are split, the end of a field that
may be empty, or a quote, which makes a field of what would be nothing. -/
inductive Atom
  | char (c : Char) (quoted : Bool)
  | split
  | cut
  | quote
  deriving DecidableEq, Repr

def Atom.ofText (text : List Char) (quoted : Bool) : List Atom :=
  let characters := text.map fun c => Atom.char c quoted
  if quoted then .quote :: characters else characters

/-- A character of an unquoted value. A separator that is no blank ends a field even if it is
empty. -/
def Atom.ofUnquoted (separators : List Char) (c : Char) : Atom :=
  if c ∉ separators then .char c false else if c ∈ standardSeparators then .split else .cut

def Atom.ofValue (separators : List Char) (value : String) (quoted : Bool) : List Atom :=
  if quoted then Atom.ofText value.toList true
  else value.toList.map (Atom.ofUnquoted separators)

/-- What is put into a word for what has been expanded already: its unquoted characters are split
like those of a value. -/
def Atom.resplit (separators : List Char) : Atom → Atom
  | .char c false => .ofUnquoted separators c
  | atom => atom

def Atom.ofArguments (arguments : List String) : List Atom :=
  ((arguments.map fun a => Atom.ofText a.toList true).intersperse [.split]).flatten

/-- Where in a word a field may start: anywhere, within one (its last character first), or after a
blank that has ended one, where another separator ends nothing more. -/
inductive FieldState
  | outside
  | within (reversed : Field)
  | ended

def FieldState.reversed : FieldState → Field
  | .within f => f
  | .outside | .ended => []

/-- The fields of a word; the field that is being filled is there if anything was put into it. -/
def fieldsFrom : FieldState → List Atom → List Field
  | .within f, [] => [f.reverse]
  | _, [] => []
  | .within f, .split :: rest => f.reverse :: fieldsFrom .ended rest
  | state, .split :: rest => fieldsFrom state rest
  | .ended, .cut :: rest => fieldsFrom .outside rest
  | state, .cut :: rest => state.reversed.reverse :: fieldsFrom .outside rest
  | state, .quote :: rest => fieldsFrom (.within state.reversed) rest
  | state, .char c quoted :: rest => fieldsFrom (.within ((c, quoted) :: state.reversed)) rest

def fields (atoms : List Atom) : List Field := fieldsFrom .outside atoms

def Field.text (f : Field) : String := String.ofList (f.map Prod.fst)

/-- A word as one field, which is not split: the first separator stands between arguments. -/
def unsplitField (separators : List Char) (atoms : List Atom) : Field :=
  atoms.flatMap fun
    | .char c quoted => [(c, quoted)]
    | .split => (separators.take 1).map fun c => (c, false)
    | .cut | .quote => []

def asField (atoms : List Atom) : Act Field := do
  return unsplitField (← get).separators atoms

def asText (atoms : List Atom) : Act String := do return (← asField atoms).text

/-! ## Wildcards -/

def isWildcard (c : Char × Bool) : Bool := !c.2 && c.1 ∈ ['*', '?', '[']

def cutAtSlashes : Field → List Field
  | [] => [[]]
  | c :: rest =>
    match cutAtSlashes rest with
    | [] => [[c]]
    | first :: more => if c.1 = '/' then [] :: first :: more else (c :: first) :: more

def matchesFrom (files : FileTree) (here : Location) : String → List Field → List String
  | path, [] => [path]
  | path, part :: rest =>
    let joined (name : String) : String := path ++ name
    let onward (name : String) : List String :=
      if rest.isEmpty then [joined name] else matchesFrom files here (joined name ++ "/") rest
    if part.any isWildcard then
      match files.lookup here (if path.isEmpty then "." else path) with
      | .ok (place, .directory) =>
        let names := if (part.head?.map Prod.fst) = some '.' then "." :: ".." :: files.children place
          else (files.children place).filter fun name => !name.startsWith "."
        (names.filter fun name => matchesText part.pattern name.toList).flatMap onward
      | _ => []
    else if rest.isEmpty then
      if (files.lookup here (joined part.text)).isOk then [joined part.text] else []
    else onward part.text

/-- The words that a field stands for: the paths that match it, else the field itself. -/
def Field.words (files : FileTree) (here : Location) (f : Field) : List String :=
  if f.withHidden.any isWildcard then
    match matchesFrom files here "" (cutAtSlashes f.withHidden) with
    | [] => [f.text]
    | paths => paths
  else [f.text]

end StorageBroker.Shell
