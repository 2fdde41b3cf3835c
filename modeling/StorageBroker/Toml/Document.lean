import StorageBroker.Toml.Number
import StorageBroker.Toml.Text

/-! # Documents

Values of every kind, and the lines of a document: rows, headers and comments. -/

set_option autoImplicit false

namespace StorageBroker.Toml

/-! ## Values -/

def comment : Scan Unit := do
  Scan.lit "#"
  let _ ← Scan.takeWhile isPlain

def space : Scan Unit := do
  let _ ← Scan.many (newline <|> comment <|> do
    let _ ← Scan.char fun c => c = ' ' || c = '\t')

def arrayRest (value : Scan Value) : Scan Value := do
  let items ← Scan.opt (Scan.separated (space *> value <* space) (Scan.lit ","))
  if items.isSome then
    let _ ← Scan.opt (Scan.lit ",")
  space
  Scan.lit "]"
  return .array (items.getD [])

def row (value : Scan Value) : Scan (List String × Value) := do
  let path ← key
  Scan.lit "="
  blanks
  let v ← value
  blanks
  return (path, v)

def addRow (rows : Rows) (row : List String × Value) : Option Rows :=
  match row.1.getLast? with
  | none => none
  | some last => rows.assign last row.2 row.1.dropLast

def bracesRest (value : Scan Value) : Scan Value := do
  let rows ← Scan.opt (Scan.separated (row value) (Scan.lit ","))
  blanks
  Scan.lit "\x7d"
  match (rows.getD []).foldlM addRow [] with
  | none => failure
  | some rows => return .table .braces rows

def scalar : Scan Value := do
  match ← Scan.peek with
  | some '"' | some '\'' => return .string (← string)
  | some 't' => Scan.lit "true" *> pure (.boolean true)
  | some 'f' => Scan.lit "false" *> pure (.boolean false)
  | _ => number

/-- A value in which arrays and braces are nested at most so deep. -/
def value : Nat → Scan Value
  | 0 => scalar
  | depth + 1 => do
    match ← Scan.peek with
    | some '[' =>
      Scan.lit "["
      arrayRest (value depth)
    | some '\x7b' =>
      Scan.lit "\x7b"
      bracesRest (value depth)
    | _ => scalar

/-! ## Lines -/

def lineEnd : Scan Unit := do
  blanks
  let _ ← Scan.opt comment
  match ← Scan.peek with
  | none => return ()
  | some _ => newline

inductive Line
  | row (path : List String) (value : Value)
  | header (path : List String)
  | nextHeader (path : List String)
  | nothing

/-- A header: of a table, or of the next table of an array in double brackets. -/
def header : Scan Line :=
  (do Scan.lit "[["
      let path ← key
      Scan.lit "]]"
      return .nextHeader path) <|> do
    Scan.lit "["
    let path ← key
    Scan.lit "]"
    return .header path

/-- A line with content, or the rest of an empty one. -/
def line : Scan Line := do
  match ← Scan.peek with
  | some '[' => header <* lineEnd
  | some '#' => comment *> pure .nothing
  | some '\n' | some '\r' => newline *> pure .nothing
  | _ => (fun row => .row row.1 row.2) <$> row (value depthLimit) <* lineEnd

/-! ## Reading a document -/

/-- A document so far: its rows, and the header that rows are under. -/
structure Document where
  rows : Rows
  current : List String

def Document.add (d : Document) : Line → Option Document
  | .nothing => some d
  | .row path value =>
    (d.rows.within (fun rows => addRow rows (path, value)) d.current).map fun rows =>
      { d with rows }
  | .header path =>
    match path.getLast? with
    | none => none
    | some name => (d.rows.within (Rows.openTable name) path.dropLast).map fun rows => ⟨rows, path⟩
  | .nextHeader path =>
    match path.getLast? with
    | none => none
    | some name => (d.rows.within (Rows.openNext name) path.dropLast).map fun rows => ⟨rows, path⟩

/-- The lines of a document; a mark of the byte order may stand before them. -/
def lines : Scan (List Line) := do
  let _ ← Scan.opt (Scan.lit "\ufeff")
  blanks
  Scan.many (line <* blanks)

/-- Reads a document; nothing comes of one that is not well formed. -/
def read? (s : String) : Option Rows := do
  let content ← Scan.whole lines s
  let document ← content.foldlM Document.add ⟨[], []⟩
  return document.rows

end StorageBroker.Toml
