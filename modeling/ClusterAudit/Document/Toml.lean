/-!
# TOML values and tables

A document is a table that grows line by line. `Toml.grow` follows a path of names and makes the
tables that are missing. A table remembers how it came to be (`Origin`), because that decides what
may still be added: a header may complete only a table that a longer header implied, and a dotted
key may enter only tables that headers implied or dotted keys made.
-/

namespace ClusterAudit

namespace Toml

/-- How a table came to be. -/
inductive Origin where
  /-- By a header of its own. -/
  | header
  /-- By the header of a table inside it. -/
  | implied
  /-- By a dotted key. -/
  | dotted
  /-- In braces, as a value. -/
  | inline
  deriving DecidableEq

end Toml

/-- A TOML value. -/
inductive Toml where
  | text (s : String)
  | int (n : Int)
  | float
  | bool (b : Bool)
  /-- A date, a time, or both. -/
  | moment
  /-- An array that is written as a value. -/
  | list (items : List Toml)
  /-- An array that headers make, one table each. -/
  | tables (items : List Toml)
  | table (origin : Toml.Origin) (entries : List (String × Toml))

namespace Toml

instance : Inhabited Toml := ⟨bool false⟩

/-- Named values. -/
abbrev Entries := List (String × Toml)

/-- The value of a name. -/
def find (name : String) (entries : Entries) : Option Toml :=
  (entries.find? (·.1 = name)).map (·.2)

/-- The entries with the value of a name replaced, or put at the end. -/
def put (name : String) (v : Toml) : Entries → Entries
  | [] => [(name, v)]
  | (n, w) :: rest => if n = name then (n, v) :: rest else (n, w) :: put name v rest

/-- The items with the last one changed. -/
def growLast (f : Toml → Option Toml) : List Toml → Option (List Toml)
  | [] => none
  | [last] => (f last).map ([·])
  | v :: rest => (growLast f rest).map (v :: ·)

/-- Changes a table. -/
def onTable (f : Origin → Entries → Option Entries) : Toml → Option Toml
  | table origin entries => (f origin entries).map (table origin)
  | _ => none

/-- Whether a path may enter a table of this origin, by the origin of the tables it makes. -/
def Origin.admits : Origin → Origin → Bool
  | inline, _ => false
  | header, made => made ≠ dotted
  | implied, _ | dotted, _ => true

/-- Changes the table at the end of a path; of an array of tables its last one is meant. Missing
tables are made, with the given origin. -/
def grow (made : Origin) (f : Origin → Entries → Option Entries) :
    List String → Origin → Entries → Option Entries
  | [], origin, entries => f origin entries
  | name :: path, _, entries => do
    match find name entries with
    | none =>
      let inner ← grow made f path made []
      some (put name (table made inner) entries)
    | some (table origin inner) =>
      if !origin.admits made then none
      let inner ← grow made f path origin inner
      some (put name (table origin inner) entries)
    | some (tables items) =>
      let items ← growLast (onTable (grow made f path)) items
      some (put name (tables items) entries)
    | some _ => none

/-- Adds a value under a new name; `isDotted` tells whether the name ends a dotted key, whose table
must then be made by dotted keys too. -/
def add (isDotted : Bool) (name : String) (v : Toml) (origin : Origin) (entries : Entries) :
    Option Entries :=
  if isDotted && origin ≠ .dotted then none
  else if (find name entries).isSome then none
  else some (put name v entries)

/-- Adds a value under a key of one or more names. -/
def addKey (key : List String) (v : Toml) (origin : Origin) (entries : Entries) :
    Option Entries := do
  let name ← key.getLast?
  grow .dotted (add (1 < key.length) name v) key.dropLast origin entries

/-- Opens the table of a header: a new one, or one that was only implied. -/
def openTable (name : String) (_ : Origin) (entries : Entries) : Option Entries :=
  match find name entries with
  | none => some (put name (table .header []) entries)
  | some (table .implied inner) => some (put name (table .header inner) entries)
  | some _ => none

/-- Opens one more table of an array. -/
def openItem (name : String) (_ : Origin) (entries : Entries) : Option Entries :=
  match find name entries with
  | none => some (put name (tables [table .header []]) entries)
  | some (tables items) => some (put name (tables (items ++ [table .header []])) entries)
  | some _ => none

end Toml

end ClusterAudit
