/-! # Programs over records

A program is a list of rules. Each tells for which records it is carried out, and what is done then.
A record has fields, which have numbers; the record itself is field 0. -/

set_option autoImplicit false

namespace StorageBroker.Records

inductive Operation
  | add
  | subtract
  | multiply
  | divide
  | remainder
  | power
  deriving DecidableEq, Repr

inductive Relation
  | less
  | atMost
  | equal
  | unequal
  | more
  | atLeast
  deriving DecidableEq, Repr

mutual

/-- An expression. A pattern is the text of a regular expression; where a value is asked for, it is
whether the record matches it. Expressions in parentheses can be several. -/
inductive Expr
  | number (x : Float)
  | text (s : String)
  | pattern (source : String)
  | value (place : Place)
  | assign (place : Place) (e : Expr)
  | change (place : Place) (op : Operation) (e : Expr)
  | count (place : Place) (by_ : Float) (first : Bool)
  | choice (condition yes no : Expr)
  | or (a b : Expr)
  | and (a b : Expr)
  | not (e : Expr)
  | negative (e : Expr)
  | positive (e : Expr)
  | isKey (keys : List Expr) (array : String)
  | isLike (e pattern : Expr) (negated : Bool)
  | related (r : Relation) (a b : Expr)
  | joined (a b : Expr)
  | operated (op : Operation) (a b : Expr)
  | call (name : String) (arguments : List Expr)
  | known (name : String) (arguments : List Expr)
  | reading (source : Source) (into : Option Place)
  | group (es : List Expr)

inductive Place
  | variable (name : String)
  | field (number : Expr)
  | element (array : String) (keys : List Expr)

inductive Source
  | input
  | file (path : Expr)
  | command (text : Expr)

end

/-- Where output goes to: a file, the end of a file, or a command. -/
inductive SinkKind
  | file
  | appended
  | command
  deriving DecidableEq, Repr

/-- A place where output goes to, by its name. -/
structure Sink where
  kind : SinkKind
  name : Expr

/-- A statement. A loop can have statements that are carried out after each round, and its condition
can be asked after the first round only. -/
inductive Statement
  | compute (e : Expr)
  | print (values : List Expr) (sink : Option Sink)
  | printf (values : List Expr) (sink : Option Sink)
  | erase (array : String) (keys : List Expr)
  | branch (condition : Expr) (yes no : List Statement)
  | loop (condition : Option Expr) (late : Bool) (after body : List Statement)
  | each (name : String) (array : String) (body : List Statement)
  | leave
  | again
  | next
  | nextFile
  | exit (status : Option Expr)
  | back (value : Option Expr)

/-- When a rule is carried out: before all records, after them, for each, for those for which a
condition holds, or for those from one to another. -/
inductive Occasion
  | start
  | finish
  | always
  | when_ (condition : Expr)
  | between (first last : Expr)

/-- A rule; without statements the record is written. -/
structure Rule where
  occasion : Occasion
  body : Option (List Statement)

/-- A function that a program defines. -/
structure Definition where
  name : String
  parameters : List String
  body : List Statement

structure Program where
  definitions : List Definition
  rules : List Rule

end StorageBroker.Records
