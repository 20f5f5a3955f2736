import OpcodeTables.Schema

/-!
# Tables' names and records

A record is one row of an instruction table: a value for each field of the
schema, the handler's name, its cost and its place in the handler layout.  A
proxy record hands its instructions to another table.
-/

namespace OpcodeTables

/-- Name of an instruction table. The root table has the empty name. -/
structure TableName where
  text : String
  deriving DecidableEq, Repr, Inhabited

namespace TableName

/-- The table where decoding starts. -/
def root : TableName := ⟨""⟩

/-- Whether this is the root table. -/
def isRoot (table : TableName) : Bool :=
  table.text == ""

/-- What a table's name adds to the name of its function: nothing for the root
table, an underscore and the name for any other. -/
def suffix (table : TableName) : String :=
  if table.isRoot then "" else "_" ++ table.text

/-- The name as messages show it. -/
def label (table : TableName) : String :=
  if table.isRoot then "<root>" else table.text

end TableName

/-- One row of an instruction table. -/
structure Record where
  /-- Row of the source, for messages. -/
  row : Nat
  /-- One value for each field of the schema, in its order. -/
  values : List FieldValue
  handler : String
  cycles : UInt32
  layoutIndex : Int
  /-- The table that a proxy record hands its instructions to. -/
  delegate : Option TableName
  deriving DecidableEq, Repr

/-- What messages say of a record. -/
structure RecordRef where
  row : Nat
  handler : String
  deriving DecidableEq, Repr

/-- A record reference as messages show it. -/
def RecordRef.text (record : RecordRef) : String :=
  s!"row {record.row} ({record.handler})"

namespace Record

/-- Whether the record hands its instructions to another table. -/
def isProxy (record : Record) : Bool :=
  record.delegate.isSome

/-- What the record holds for a field; a field beyond its values is free. -/
def value (record : Record) (field : Field) : FieldValue :=
  record.values.getD field.index .wildcard

/-- What messages say of the record. -/
def reference (record : Record) : RecordRef :=
  ⟨record.row, record.handler⟩

end Record

end OpcodeTables
