/-!
# TOML documents

Configuration files are TOML documents.  A document is first read as a list of *statements*, one for
each line that is not blank, and the statements then build a table.

* `Toml` are the values, and `Toml.Statement` the statements.
* `Toml.Entries.ofStatements` builds the table, and refuses a key that is defined twice or that one
  statement takes for a table and another for a value.
-/

namespace Strongbox

/-- A TOML value.  Numbers with a fraction, dates and times are kept as they are written. -/
inductive Toml where
  | text (value : String)
  | integer (value : Int)
  | float (token : String)
  | boolean (value : Bool)
  | dateTime (token : String)
  | array (items : List Toml)
  | table (entries : List (String × Toml))

namespace Toml

/-- The value of a key. -/
def find? (entries : List (String × Toml)) (key : String) : Option Toml :=
  entries.lookup key

/-! ## Statements -/

/-- A line of a document. -/
inductive Statement where
  /-- A value for a key of the current table. -/
  | assign (key : List String) (value : Toml)
  /-- The start of a table. -/
  | header (key : List String)
  /-- The start of a further table of an array. -/
  | arrayHeader (key : List String)

/-- How a table under construction came about. -/
inductive Origin where
  /-- A header of its own. -/
  | header
  /-- A header of a table below it. -/
  | below
  /-- A dotted key. -/
  | dotted
  deriving DecidableEq

/-- What a key stands for in a table under construction. -/
inductive Node where
  | value (value : Toml)
  | table (origin : Origin) (entries : List (String × Node))
  /-- An array of tables, the current one first. -/
  | tables (current : List (String × Node)) (before : List (List (String × Node)))

/-- The keys of a table under construction. -/
abbrev Entries := List (String × Node)

namespace Entries

/-- Put a node in the place of that of a key. -/
def replace (entries : Entries) (key : String) (node : Node) : Entries :=
  entries.map fun (k, old) => if k = key then (k, node) else (k, old)

/-- Change the table that a key leads to.  Tables on the way are made if they are missing, and of an
array of tables the current one is meant. -/
def within (change : Entries → Option Entries) : List String → Entries → Option Entries
  | [], entries => change entries
  | key :: rest, entries =>
    match entries.lookup key with
    | none => (within change rest []).map fun made => entries ++ [(key, .table .below made)]
    | some (.table origin sub) =>
      (within change rest sub).map fun made => entries.replace key (.table origin made)
    | some (.tables current before) =>
      (within change rest current).map fun made => entries.replace key (.tables made before)
    | some (.value _) => none

/-- Give a key its value.  The tables on the way of a dotted key are made by such keys only. -/
def assign (value : Node) : List String → Entries → Option Entries
  | [], _ => none
  | [key], entries =>
    if (entries.lookup key).isSome then none else some (entries ++ [(key, value)])
  | key :: next :: rest, entries =>
    match entries.lookup key with
    | none =>
      (assign value (next :: rest) []).map fun made => entries ++ [(key, .table .dotted made)]
    | some (.table origin sub) =>
      if origin = .dotted ∨ (origin = .below ∧ rest ≠ []) then
        (assign value (next :: rest) sub).map fun made => entries.replace key (.table origin made)
      else none
    | some _ => none

/-- Start a table.  It may exist if only headers below it brought it about. -/
def openTable (key : String) (entries : Entries) : Option Entries :=
  match entries.lookup key with
  | none => some (entries ++ [(key, .table .header [])])
  | some (.table .below sub) => some (entries.replace key (.table .header sub))
  | some _ => none

/-- Start a further table of an array. -/
def openArray (key : String) (entries : Entries) : Option Entries :=
  match entries.lookup key with
  | none => some (entries ++ [(key, .tables [] [])])
  | some (.tables current before) => some (entries.replace key (.tables [] (current :: before)))
  | some _ => none

/-- Start whatever a header starts. -/
def openHeader (start : String → Entries → Option Entries) (key : List String)
    (entries : Entries) : Option Entries :=
  match key.getLast? with
  | none => none
  | some last => within (start last) key.dropLast entries

/-- Carry out statements, given the key of the current table. -/
def build (here : List String) (entries : Entries) : List Statement → Option Entries
  | [] => some entries
  | .assign key value :: rest => do
    build here (← within (assign (.value value) key) here entries) rest
  | .header key :: rest => do build key (← openHeader openTable key entries) rest
  | .arrayHeader key :: rest => do build key (← openHeader openArray key entries) rest

mutual

/-- The value that a node has become. -/
def finishNode : Node → Toml
  | .value value => value
  | .table _ entries => .table (finish entries)
  | .tables current before => .array ((finishAll before).reverse ++ [.table (finish current)])
termination_by structural node => node

/-- The table that a table under construction has become. -/
def finish : List (String × Node) → List (String × Toml)
  | [] => []
  | entry :: rest => finishEntry entry :: finish rest
termination_by structural entries => entries

def finishEntry : String × Node → String × Toml
  | (key, node) => (key, finishNode node)
termination_by structural entry => entry

def finishAll : List (List (String × Node)) → List Toml
  | [] => []
  | entries :: rest => .table (finish entries) :: finishAll rest
termination_by structural tables => tables

end

/-- The table that statements build. -/
def ofStatements (statements : List Statement) : Option (List (String × Toml)) :=
  (build [] [] statements).map finish

end Entries

end Toml

end Strongbox
