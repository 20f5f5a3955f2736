import OpcodeTables.Program.Basic

/-!
# Looking up instructions

Decoding starts at the root table.  A leaf that hands over to another table
is followed until a handler is reached.  The number of hops is bounded by the
number of tables, so that a program nobody checked for cycles is decoded in
finite time as well.
-/

namespace OpcodeTables

/-- Reads the fields of an instruction by name. -/
abbrev FieldSource := String → Option Literal

/-- The field source of a list of named values; the first of a name counts. -/
def FieldSource.ofList (values : List (String × Literal)) : FieldSource :=
  fun name => values.lookup name

/-- Why an instruction could not be decoded: the table and the field whose
value has no arm, or an empty field name where no table could answer. -/
structure DecodeFailure where
  table : TableName
  field : String
  deriving DecidableEq, Repr

/-- The failure in words. -/
def DecodeFailure.message (failure : DecodeFailure) : String :=
  s!"unknown instruction (table {failure.table.label}, using field {failure.field})"

/-- The course of one lookup: the hand-overs from table to table, and what it
came to. -/
structure Walk where
  hops : List (TableName × TableName)
  outcome : Except DecodeFailure (TableName × Leaf)

/-- What a lookup logs. -/
def Walk.log (walk : Walk) : List Event :=
  walk.hops.map fun hop => .followed hop.1 hop.2

namespace Program

/-- Decodes from a table on, going through at most `budget` tables. -/
def walkFrom (program : Program) (read : FieldSource) : (budget : Nat) → GeneratedTable → Walk
  | 0, table => ⟨[], .error ⟨table.name, ""⟩⟩
  | budget + 1, table =>
      match table.tree.follow fun field => read field.name with
      | .error field => ⟨[], .error ⟨table.name, field.name⟩⟩
      | .ok leaf =>
          match leaf.delegate with
          | none => ⟨[], .ok (table.name, leaf)⟩
          | some next =>
              match program.table? next with
              | none => ⟨[(table.name, next)], .error ⟨next, ""⟩⟩
              | some target =>
                  let walk := walkFrom program read budget target
                  ⟨(table.name, next) :: walk.hops, walk.outcome⟩

/-- Decodes one instruction, unless the program has no table at all. -/
def lookup? (program : Program) (read : FieldSource) : Option Walk :=
  program.root?.map (program.walkFrom read (program.tables.length + 1))

end Program

end OpcodeTables
