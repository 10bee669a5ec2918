/-!
# Tables of a settings file

A file is a tree of tables, which its headers and dotted keys build step by step. No key is set
twice: a table that was given by a header is not given again, nor added to by dotted keys, and what
stands as a value is never added to.
-/

namespace TextAdventure.Toml

/-- How a table came about. -/
inductive Origin where
  /-- By its own header. -/
  | header
  /-- On the way to the table of a longer header. -/
  | implied
  /-- By dotted keys. -/
  | dotted
deriving DecidableEq

inductive Node where
  | text (value : String)
  /-- A number or a truth value. -/
  | scalar
  | time
  | list (items : List Node)
  /-- A table that stands as a value. -/
  | inline (entries : List (String × Node))
  | table (origin : Origin) (entries : List (String × Node))
  /-- The tables of equal headers, in order. -/
  | tables (items : List (List (String × Node)))

/-- The keys of a table and what they hold. -/
abbrev Entries := List (String × Node)

namespace Entries

/-- Puts a node under a key that is there. -/
def replace (key : String) (node : Node) (entries : Entries) : Entries :=
  entries.map fun entry => if entry.1 = key then (key, node) else entry

/-- Changes the table at the end of a path, making those on the way that are missing. Dotted keys
pass through no table of a header. The change is told how the table came about. -/
def alter (dotted : Bool) (change : Origin → Entries → Option Entries) :
    List String → Origin → Entries → Option Entries
  | [], origin, entries => change origin entries
  | key :: path, _, entries =>
    match entries.lookup key with
    | none => do
      let origin := if dotted then .dotted else .implied
      return entries ++ [(key, .table origin (← alter dotted change path origin []))]
    | some (.table origin inner) =>
      if dotted && origin = .header then none
      else do return replace key (.table origin (← alter dotted change path origin inner)) entries
    | some (.tables items) => do
      let last ← alter dotted change path .header (items.getLast?.getD [])
      return replace key (.tables (items.dropLast ++ [last])) entries
    | some _ => none

/-- Sets a new key. A path of dotted keys must end in a table that they made. -/
def set (path : List String) (key : String) (node : Node) (origin : Origin) (entries : Entries) :
    Option Entries :=
  let change (origin : Origin) (entries : Entries) : Option Entries :=
    if (origin == .dotted) == path.isEmpty || (entries.lookup key).isSome then none
    else some (entries ++ [(key, node)])
  alter true change path origin entries

/-- Begins the table of a header, which may only be implied so far. -/
def beginTable (path : List String) (key : String) (entries : Entries) : Option Entries :=
  let change (_ : Origin) (entries : Entries) : Option Entries :=
    match entries.lookup key with
    | none => some (entries ++ [(key, .table .header [])])
    | some (.table .implied inner) => some (replace key (.table .header inner) entries)
    | some _ => none
  alter false change path .header entries

/-- Begins another of the tables of equal headers. -/
def beginItem (path : List String) (key : String) (entries : Entries) : Option Entries :=
  let change (_ : Origin) (entries : Entries) : Option Entries :=
    match entries.lookup key with
    | none => some (entries ++ [(key, .tables [[]])])
    | some (.tables items) => some (replace key (.tables (items ++ [[]])) entries)
    | some _ => none
  alter false change path .header entries

/-- Sets a key in the table of the header above it. -/
def setUnder (header path : List String) (key : String) (node : Node) (entries : Entries) :
    Option Entries :=
  alter false (set path key node) header .header entries

end Entries

end TextAdventure.Toml
