import OpcodeTables.Toml.Value

/-!
# Tables of TOML in the making

A document fills tables piece by piece: by headers, by items of arrays of
tables, and by keys with dots.  How a table came about decides what may still
be added to it, so that no table is defined twice and no key is given two
values.
-/

namespace OpcodeTables.Toml

/-- How a table came about. -/
inductive Origin where
  /-- A header of a table inside it needs it. -/
  | implied
  /-- A key with dots needs it. -/
  | dotted
  /-- It has a header of its own, or is the document itself. -/
  | defined
  deriving DecidableEq, Repr

/-- What a key of an unfinished table stands for. -/
inductive Item where
  | value (value : Value)
  | table (origin : Origin) (entries : List (String × Item))
  /-- An array of tables, of which the last one is unfinished. -/
  | tables (earlier : List Value) (last : List (String × Item))

/-- The keys of an unfinished table. -/
abbrev Entries := List (String × Item)

mutual

/-- The value of an item. -/
def Item.toValue : Item → Value
  | .value value => value
  | .table _ entries => .table (toFields entries)
  | .tables earlier last => .array (earlier ++ [.table (toFields last)])

/-- The fields of a table. -/
def toFields : List (String × Item) → List (String × Value)
  | [] => []
  | (name, item) :: rest => (name, item.toValue) :: toFields rest

end

namespace Entries

/-- Changes what a key stands for, or adds the key. -/
def alter (name : String) (change : Option Item → Option Item) (entries : Entries) :
    Option Entries :=
  match entries with
  | [] => (change none).map fun item => [(name, item)]
  | (other, item) :: rest =>
      if other = name then (change (some item)).map fun item => (other, item) :: rest
      else (alter name change rest).map fun rest => (other, item) :: rest

/-- Changes the table at the end of a path. Tables that are missing on the way
come about, by dots or by a header. A path of dots does not lead into a table
with a header, and no path leads into a value. -/
def edit (byDots : Bool) (change : Origin → Entries → Option Entries) :
    (path : List String) → Origin → Entries → Option Entries
  | [], origin, entries => change origin entries
  | name :: path, _, entries =>
      alter name
        (fun
          | none =>
              let origin := if byDots then .dotted else .implied
              (edit byDots change path origin []).map (.table origin)
          | some (.table origin inner) =>
              if byDots && origin == .defined then none
              else (edit byDots change path origin inner).map (.table origin)
          | some (.tables earlier last) =>
              (edit byDots change path .defined last).map (.tables earlier)
          | some (.value _) => none)
        entries

/-- Adds a key that is not there yet. -/
def insert (name : String) (value : Value) (entries : Entries) : Option Entries :=
  entries.alter name fun
    | none => some (.value value)
    | some _ => none

/-- Gives a key with dots its value. The table that the key ends in is one that
such keys made. -/
def assign (path : List String) (name : String) (value : Value) (origin : Origin)
    (entries : Entries) : Option Entries :=
  edit true
    (fun origin entries =>
      if (origin == .dotted) == path.isEmpty then none else insert name value entries)
    path origin entries

/-- Defines a table that only headers of tables inside it needed so far. -/
def define (path : List String) (name : String) (entries : Entries) : Option Entries :=
  edit false
    (fun _ entries => entries.alter name fun
      | none => some (.table .defined [])
      | some (.table .implied inner) => some (.table .defined inner)
      | some _ => none)
    path .defined entries

/-- Appends a table to an array of tables. -/
def append (path : List String) (name : String) (entries : Entries) : Option Entries :=
  edit false
    (fun _ entries => entries.alter name fun
      | none => some (.tables [] [])
      | some (.tables earlier last) => some (.tables (earlier ++ [.table (toFields last)]) [])
      | some _ => none)
    path .defined entries

end Entries

/-- A key with dots: the way to the table that it ends in, and its last
part. -/
structure Key where
  path : List String
  name : String
  deriving DecidableEq, Repr

/-- A table written on one line. -/
def Value.ofPairs? (pairs : List (Key × Value)) : Option Value := do
  let entries ← pairs.foldlM
    (fun entries (key, value) => Entries.assign key.path key.name value .defined entries) []
  some (.table (toFields entries))

end OpcodeTables.Toml
