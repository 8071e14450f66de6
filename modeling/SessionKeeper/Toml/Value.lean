/-!
# Values of a TOML document

A document is a table, and a table has values under distinct keys. How a table came about decides
whether later lines may add to it; `place` carries out one line on the table of the whole document.
-/

namespace SessionKeeper.Toml

/-- How a table came about. -/
inductive Form where
  /-- In braces; it is complete. -/
  | inBraces
  /-- By a header of its own. -/
  | byHeader
  /-- On the way to a table that a header names. -/
  | byPath
  /-- By a dotted key. -/
  | byDots
  deriving DecidableEq, Repr

/-- A value. Of numbers that are not whole and of dates only the text is kept. -/
inductive Value where
  | string (text : String)
  | integer (n : Int)
  | float (text : String)
  | boolean (value : Bool)
  | datetime (text : String)
  | array (items : List Value)
  /-- An array to which headers add tables, the last one behind the earlier ones. -/
  | tables (earlier : List Value) (last : List (String × Value))
  | table (form : Form) (entries : List (String × Value))

/-- The entries of a table. -/
abbrev Entries := List (String × Value)

namespace Entries

/-- The entries with the value of a key that is there replaced. -/
def replace (key : String) (value : Value) (entries : Entries) : Entries :=
  entries.map fun entry => if entry.1 = key then (key, value) else entry

/-- The entries with one more, if the key is new. -/
def addNew (key : String) (value : Value) (entries : Entries) : Option Entries :=
  match entries.lookup key with
  | some _ => none
  | none => some (entries ++ [(key, value)])

/-- Let an action run on the table that a path leads to, where missing tables are made. Over dots,
a path does not lead into a table that has a header. The form of the table where the path ends, if
it ends in a table below this one, is handed to the action. -/
def alter (overDots : Bool) (act : Option Form → Entries → Option Entries) :
    (path : List String) → (form : Option Form) → Entries → Option Entries
  | [], form, entries => act form entries
  | key :: path, _, entries =>
      match entries.lookup key with
      | none =>
          let form := if overDots then Form.byDots else Form.byPath
          (alter overDots act path (some form) []).map fun below =>
            entries ++ [(key, .table form below)]
      | some (.table form below) =>
          if form = .inBraces ∨ (overDots ∧ form = .byHeader) then none
          else
            (alter overDots act path (some form) below).map fun below =>
              replace key (.table form below) entries
      | some (.tables earlier last) =>
          (alter overDots act path (some .byHeader) last).map fun last =>
            replace key (.tables earlier last) entries
      | some _ => none

/-- Add a value under a dotted key. The table that holds it must have come about by dots itself,
unless the key has a single part. -/
def addDotted (path : List String) (key : String) (value : Value) (entries : Entries) :
    Option Entries :=
  alter true
    (fun form entries =>
      match form with
      | none | some .byDots => addNew key value entries
      | some _ => none)
    path none entries

/-- Open the table that a header names: a new one, or one that so far was only on the way. -/
def openTable (key : String) (entries : Entries) : Option Entries :=
  match entries.lookup key with
  | none => some (entries ++ [(key, .table .byHeader [])])
  | some (.table .byPath below) => some (replace key (.table .byHeader below) entries)
  | some _ => none

/-- Add a table to the array that a header names. -/
def openElement (key : String) (entries : Entries) : Option Entries :=
  match entries.lookup key with
  | none => some (entries ++ [(key, .tables [] [])])
  | some (.tables earlier last) =>
      some (replace key (.tables (earlier ++ [.table .byHeader last]) []) entries)
  | some _ => none

end Entries

/-- A line of a document that says something. -/
inductive Line where
  /-- The header of a table, with the parts of its key. -/
  | table (path : List String) (key : String)
  /-- The header of a table that is added to an array. -/
  | element (path : List String) (key : String)
  | value (path : List String) (key : String) (value : Value)

/-- A document while it is read: its table, and the path of the header that counts. -/
structure Draft where
  header : List String
  entries : Entries

/-- Carry out a line. -/
def Draft.place (d : Draft) : Line → Option Draft
  | .table path key =>
      (Entries.alter false (fun _ => Entries.openTable key) path none d.entries).map
        fun entries => ⟨path ++ [key], entries⟩
  | .element path key =>
      (Entries.alter false (fun _ => Entries.openElement key) path none d.entries).map
        fun entries => ⟨path ++ [key], entries⟩
  | .value path key value =>
      (Entries.alter false (fun _ => Entries.addDotted path key value) d.header none d.entries).map
        fun entries => ⟨d.header, entries⟩

end SessionKeeper.Toml
