import QueryModel.Dict

/-!
# Tables

The values of a TOML text and the rules by which its lines build up tables.  No
setting is a number, a date or a time, so these are kept by their text.

A table has an origin, and the origin decides what may be added later.

* A header may open a table once.  It may also open a table that so far was only
  passed through by other headers.
* Dotted keys may add to tables that dotted keys have made, and to no others.
* A table in braces is complete.
-/

namespace QueryModel.Toml

/-- How a table came about. -/
inductive Origin
  /-- A longer header passed through it. -/
  | passed
  /-- A header opened it. -/
  | header
  /-- A dotted key made it. -/
  | dotted
  /-- It was written in braces. -/
  | braces
deriving DecidableEq, Repr

/-- A value. -/
inductive Node
  /-- A text. -/
  | text (s : String)
  /-- A Boolean. -/
  | bool (b : Bool)
  /-- A number. -/
  | number (text : String)
  /-- A date, a time or both. -/
  | moment (text : String)
  /-- A list, and whether headers made it. -/
  | list (items : List Node) (byHeaders : Bool)
  /-- A table. -/
  | table (origin : Origin) (entries : List (String × Node))
deriving Repr

/-- The entries of a table, in the order of the text. -/
abbrev Entries := List (String × Node)

/-- A line of a text that says something. -/
inductive Statement
  /-- A header opens a table. -/
  | header (path : List String)
  /-- A header adds a table to a list. -/
  | element (path : List String)
  /-- A key gets a value. -/
  | assign (path : List String) (value : Node)
deriving Repr

/-- Gives a value to a dotted key. -/
def assign (value : Node) : List String → Entries → Option Entries
  | [], _ => none
  | [key], entries =>
    if (entries.lookup key).isSome then none else some (entries ++ [(key, value)])
  | key :: rest, entries =>
    match entries.lookup key with
    | none => (assign value rest []).map fun sub => entries ++ [(key, .table .dotted sub)]
    | some (.table .dotted sub) =>
      (assign value rest sub).map fun sub => putEntry key (.table .dotted sub) entries
    | some _ => none

/-- Changes the table at the end of a path.  Tables that are missing on the way
are made, and a list of tables stands for its last one. -/
def descend (change : Entries → Option Entries) : List String → Entries → Option Entries
  | [], entries => change entries
  | key :: rest, entries =>
    match entries.lookup key with
    | none => (descend change rest []).map fun sub => entries ++ [(key, .table .passed sub)]
    | some (.table .braces _) => none
    | some (.table origin sub) =>
      (descend change rest sub).map fun sub => putEntry key (.table origin sub) entries
    | some (.list items true) =>
      match items.getLast? with
      | some (.table origin sub) =>
        (descend change rest sub).map fun sub =>
          putEntry key (.list (items.dropLast ++ [.table origin sub]) true) entries
      | _ => none
    | some _ => none

/-- Opens a table by a header. -/
def openTable (key : String) (entries : Entries) : Option Entries :=
  match entries.lookup key with
  | none => some (entries ++ [(key, .table .header [])])
  | some (.table .passed sub) => some (putEntry key (.table .header sub) entries)
  | some _ => none

/-- Adds a table to a list by a header. -/
def openElement (key : String) (entries : Entries) : Option Entries :=
  match entries.lookup key with
  | none => some (entries ++ [(key, .list [.table .header []] true)])
  | some (.list items true) =>
    some (putEntry key (.list (items ++ [.table .header []]) true) entries)
  | some _ => none

/-- Applies `change` to the last key of a path, in the table that the keys before
it lead to. -/
def atLast (change : String → Entries → Option Entries) (path : List String)
    (entries : Entries) : Option Entries :=
  match path.getLast? with
  | some key => descend (change key) path.dropLast entries
  | none => none

/-- Builds up the tables line by line.  `current` is the path of the last
header. -/
def build (current : List String) (entries : Entries) : List Statement → Option Entries
  | [] => some entries
  | .header path :: rest => do build path (← atLast openTable path entries) rest
  | .element path :: rest => do build path (← atLast openElement path entries) rest
  | .assign path value :: rest => do
    build current (← descend (assign value path) current entries) rest

end QueryModel.Toml
