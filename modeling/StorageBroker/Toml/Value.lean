/-! # Configuration values

What a configuration text holds: values, and tables that are filled line by line. How a table came
about decides which later lines may still add to it. -/

set_option autoImplicit false

namespace StorageBroker.Toml

/-- How a table came about: written in braces, opened by a header, on the way to a header's table,
or on the way of a dotted key. -/
inductive Origin
  | braces
  | header
  | implied
  | dotted
  deriving DecidableEq, Repr

/-- A value. Numbers with a fraction or an exponent keep no value: nothing asks for one. -/
inductive Value
  | string (s : String)
  | integer (i : Int)
  | fraction
  | boolean (b : Bool)
  | date (text : String)
  | array (items : List Value)
  | table (origin : Origin) (rows : List (String × Value))
  | tables (all : List (List (String × Value)))

abbrev Rows : Type := List (String × Value)

namespace Rows

def get? (rows : Rows) (key : String) : Option Value := rows.lookup key

def put (key : String) (value : Value) : Rows → Rows
  | [] => [(key, value)]
  | row :: rest => if row.1 = key then (key, value) :: rest else row :: put key value rest

def changeLast (f : Rows → Option Rows) : List Rows → Option (List Rows)
  | [] => none
  | [last] => (f last).map ([·])
  | first :: rest => (changeLast f rest).map (first :: ·)

/-- Changes the table that the names of a header lead to; tables on the way are made. -/
def within (f : Rows → Option Rows) : List String → Rows → Option Rows
  | [], rows => f rows
  | name :: path, rows =>
    match get? rows name with
    | none => (within f path []).map fun inner => put name (.table .implied inner) rows
    | some (.table .braces _) => none
    | some (.table origin inner) =>
      (within f path inner).map fun inner => put name (.table origin inner) rows
    | some (.tables all) =>
      (changeLast (within f path) all).map fun all => put name (.tables all) rows
    | some _ => none

/-- Opens a table under a name: a new one, or one that so far was only on the way to others. -/
def openTable (name : String) (rows : Rows) : Option Rows :=
  match get? rows name with
  | none => some (put name (.table .header []) rows)
  | some (.table .implied inner) => some (put name (.table .header inner) rows)
  | some _ => none

def openNext (name : String) (rows : Rows) : Option Rows :=
  match get? rows name with
  | none => some (put name (.tables [[]]) rows)
  | some (.tables all) => some (put name (.tables (all ++ [[]])) rows)
  | some _ => none

/-- Writes a new value under a dotted key. The last table on the way must have come about by
dotted keys, and none on the way by a header. -/
def assign (key : String) (value : Value) : List String → Rows → Option Rows
  | [], rows => if (get? rows key).isSome then none else some (put key value rows)
  | name :: path, rows =>
    match get? rows name with
    | none => (assign key value path []).map fun inner => put name (.table .dotted inner) rows
    | some (.table .dotted inner) =>
      (assign key value path inner).map fun inner => put name (.table .dotted inner) rows
    | some (.table .implied inner) =>
      if path.isEmpty then none
      else (assign key value path inner).map fun inner => put name (.table .implied inner) rows
    | some (.tables all) =>
      if path.isEmpty then none
      else (changeLast (assign key value path) all).map fun all => put name (.tables all) rows
    | some _ => none

end Rows

end StorageBroker.Toml
