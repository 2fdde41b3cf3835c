/-! # Shell scripts

A script is a command; commands are made of words, and words of pieces that are expanded when the
command is carried out. -/

set_option autoImplicit false

namespace StorageBroker.Shell

/-- What a redirection does to a descriptor. Output may replace a file even where files are to be
kept; a document is input that stands in the script. -/
inductive RedirectionKind
  | input
  | output
  | replacement
  | append
  | duplicate
  | document
  deriving DecidableEq, Repr

/-- What the word of a parameter is for: it takes the place of an absent value, becomes the value,
says why an absent value is refused, or takes the place of a present one. -/
inductive SubstituteKind
  | default
  | assignment
  | refusal
  | alternative
  deriving DecidableEq, Repr

mutual

/-- A piece of a word: text, the value of a parameter, the value of an expression, or the output of
a script. What is quoted is neither split into fields nor matched against file names. -/
inductive Piece
  | text (s : List Char) (quoted : Bool)
  | parameter (name : String) (use : ParameterUse) (quoted : Bool)
  | arithmetic (expression : List Piece) (quoted : Bool)
  | output (script : Command) (quoted : Bool)

/-- What is made of a parameter: its value, its size, a substitute (where an empty value may count
as an absent one), its value without a front or an end that matches a pattern, or something that
cannot be made. -/
inductive ParameterUse
  | value
  | size
  | substitute (kind : SubstituteKind) (emptyToo : Bool) (word : List Piece)
  | without (front longest : Bool) (pattern : List Piece)
  | impossible

inductive Redirection
  | mk (descriptor : Nat) (kind : RedirectionKind) (target : List Piece)

inductive Command
  | simple (assignments : List (String × List Piece)) (words : List (List Piece))
      (redirections : List Redirection)
  | pipeline (stages : List Command)
  | negated (c : Command)
  | both (first second : Command)
  | either (first second : Command)
  | background (c : Command)
  | sequence (commands : List Command)
  | subshell (body : Command)
  | branch (cases : List (Command × Command)) (otherwise : Option Command)
  | choice (subject : List Piece) (cases : List (List (List Piece) × Command))
  | each (name : String) (words : Option (List (List Piece))) (body : Command)
  | repeated (negated : Bool) (condition body : Command)
  | definition (name : String) (body : Command)
  | redirected (c : Command) (redirections : List Redirection)

end

abbrev Word : Type := List Piece

end StorageBroker.Shell
