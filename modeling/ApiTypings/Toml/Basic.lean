import ApiTypings.Assoc

/-!
# TOML tables

The values that settings files use: texts, integers, arrays and tables. A table
remembers how it came about, since that decides whether it can still grow. A
header may open a table once, and a table that exists only because of a longer
header counts as not yet opened. Keys with dots may add to tables made by keys with
dots. An inline table is closed.
-/

namespace ApiTypings

namespace Toml

/-- How a table came about. -/
inductive Origin where
  | inline
  | header
  /-- A longer header goes through it. -/
  | implied
  | dotted
  deriving DecidableEq, Repr

end Toml

inductive Toml where
  | text (s : String)
  | integer (n : Int)
  | array (items : List Toml)
  | table (origin : Toml.Origin) (entries : List (String × Toml))
  deriving Repr

namespace Toml

/-- What a table holds, by key. -/
abbrev Entries := List (String × Toml)

/-- The entries after a header has opened the table at a path. -/
def openTable : List String → Entries → Option Entries
  | [], _ => none
  | [k], entries =>
    match Assoc.find? k entries with
    | none => some (Assoc.put k (.table .header []) entries)
    | some (.table .implied inner) => some (Assoc.put k (.table .header inner) entries)
    | some _ => none
  | k :: rest, entries =>
    match Assoc.find? k entries with
    | none => (openTable rest []).map fun inner => Assoc.put k (.table .implied inner) entries
    | some (.table .inline _) => none
    | some (.table origin inner) =>
      (openTable rest inner).map fun inner => Assoc.put k (.table origin inner) entries
    | some _ => none

/-- The entries after a key, which may have dots, got a value. -/
def assign (value : Toml) : List String → Entries → Option Entries
  | [], _ => none
  | [k], entries =>
    if (Assoc.find? k entries).isSome then none else some (Assoc.put k value entries)
  | k :: rest, entries =>
    match Assoc.find? k entries with
    | none => (assign value rest []).map fun inner => Assoc.put k (.table .dotted inner) entries
    | some (.table .dotted inner) =>
      (assign value rest inner).map fun inner => Assoc.put k (.table .dotted inner) entries
    | some _ => none

/-- Changes the entries of the table at a path. -/
def within (change : Entries → Option Entries) : List String → Entries → Option Entries
  | [], entries => change entries
  | k :: rest, entries =>
    match Assoc.find? k entries with
    | some (.table origin inner) =>
      (within change rest inner).map fun inner => Assoc.put k (.table origin inner) entries
    | _ => none

end Toml

end ApiTypings
