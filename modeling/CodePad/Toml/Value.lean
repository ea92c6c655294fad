import CodePad.Decimal.Double

/-!
Values of TOML documents and how the statements of a document make a table. Keys keep the
order in which the document brings them up. A table may be given by a header, by dotted keys
or in braces, and how it was given decides what may still be added to it.
-/

namespace CodePad.Toml

inductive Form where
  /-- Written in braces; nothing can be added. -/
  | inline
  | header
  /-- Brought up by the header of a table inside it. -/
  | implicit
  | dotted
  deriving DecidableEq, Repr

inductive Value where
  | string (s : String)
  | integer (n : Int)
  | float (x : Double)
  | boolean (b : Bool)
  /-- A date, a time of day or both, in its standard form. -/
  | moment (text : String)
  | array (items : List Value)
  | table (form : Form) (entries : List (String × Value))
  /-- The tables of headers in double brackets, in order. -/
  | tables (rows : List (List (String × Value)))

def Value.isEmpty : Value → Bool
  | array items => items.isEmpty
  | table _ entries => entries.isEmpty
  | _ => false

/-- The entries of a table, in the order of the document. -/
abbrev Entries := List (String × Value)

namespace Entries

/-- Changes the value of a key and leaves it where it is. -/
def set (es : Entries) (key : String) (v : Value) : Entries :=
  es.map fun e => if e.1 = key then (key, v) else e

def erase (es : Entries) (key : String) : Entries := es.filter fun e => e.1 ≠ key

/-- Puts `row` in place of the last of the tables at a key. -/
def setLast (es : Entries) (key : String) (rows : List Entries) (row : Entries) : Entries :=
  es.set key (.tables (rows.dropLast ++ [row]))

def last (rows : List Entries) : Entries := rows.getLast?.getD []

/-- Adds a value under a key, given as the parts between its dots. A key with dots may pass
tables that the document has not given in full, and must end in one that such keys have
brought up: `accepts` says whether the present table takes plain keys. -/
def insert (accepts : Bool) (es : Entries) : (path : List String) → Value → Option Entries
  | [], _ => none
  | [key], v => if accepts && (es.lookup key).isNone then some (es ++ [(key, v)]) else none
  | key :: path, v =>
    match es.lookup key with
    | none => (insert true [] path v).map fun sub => es ++ [(key, .table .dotted sub)]
    | some (.table .dotted sub) =>
      (insert true sub path v).map fun sub => es.set key (.table .dotted sub)
    -- A table of headers may be passed but takes nothing itself.
    | some (.table .implicit sub) =>
      (insert false sub path v).map fun sub => es.set key (.table .implicit sub)
    | some (.tables rows) =>
      (insert false (last rows) path v).map fun row => es.setLast key rows row
    | some _ => none

/-- Changes the entries of the table that a header names by all but its last part, bringing
up the tables on the way. -/
def descend (es : Entries) (f : String → Entries → Option Entries) :
    (path : List String) → Option Entries
  | [] => none
  | [key] => f key es
  | key :: path =>
    match es.lookup key with
    | none => (descend [] f path).map fun sub => es ++ [(key, .table .implicit sub)]
    | some (.table .inline _) => none
    | some (.table form sub) => (descend sub f path).map fun sub => es.set key (.table form sub)
    -- A header goes on in the row that was opened last.
    | some (.tables rows) => (descend (last rows) f path).map fun row => es.setLast key rows row
    | some _ => none

/-- Opens the table of a header. A table that was only brought up by headers inside it is
opened once and takes its place in the order then. -/
def openTable (key : String) (es : Entries) : Option Entries :=
  match es.lookup key with
  | none => some (es ++ [(key, .table .header [])])
  | some (.table .implicit sub) => some (es.erase key ++ [(key, .table .header sub)])
  | some _ => none

/-- Opens one more of the tables of a header in double brackets. -/
def openRow (key : String) (es : Entries) : Option Entries :=
  match es.lookup key with
  | none => some (es ++ [(key, .tables [[]])])
  | some (.tables rows) => some (es.set key (.tables (rows ++ [[]])))
  | some _ => none

/-- Changes the entries of the table opened last under a key. -/
def updateOpen (f : Entries → Option Entries) (key : String) (es : Entries) : Option Entries :=
  match es.lookup key with
  | some (.table form sub) => (f sub).map fun sub => es.set key (.table form sub)
  | some (.tables rows) => (f (last rows)).map fun row => es.setLast key rows row
  | _ => none

def ofPairs (pairs : List (List String × Value)) : Option Entries :=
  pairs.foldlM (fun es (path, v) => es.insert true path v) []

end Entries

inductive Statement where
  /-- A header in brackets. -/
  | table (path : List String)
  /-- A header in double brackets. -/
  | row (path : List String)
  | entry (path : List String) (v : Value)

/-- The table read so far and the header that is open. -/
structure Reading where
  root : Entries := []
  header : List String := []

namespace Reading

def step (r : Reading) : Statement → Option Reading
  | .table path => (r.root.descend Entries.openTable path).map (⟨·, path⟩)
  | .row path => (r.root.descend Entries.openRow path).map (⟨·, path⟩)
  | .entry path v =>
    let add (es : Entries) := es.insert true path v
    if r.header.isEmpty then (add r.root).map (⟨·, []⟩)
    else (r.root.descend (Entries.updateOpen add) r.header).map (⟨·, r.header⟩)

end Reading

def Entries.ofStatements (statements : List Statement) : Option Entries :=
  (statements.foldlM Reading.step {}).map Reading.root

end CodePad.Toml
