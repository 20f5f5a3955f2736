import OpcodeTables.Fault

/-!
# Record sets

The content of one table: a name, a schema, and records that have a value for
each field of the schema.  `RecordSet.ofRecords` makes record sets, and it
also refuses a field for which some records hold a truth value and others a
number.
-/

namespace OpcodeTables

/-- The content of one table. -/
structure RecordSet where
  table : TableName
  schema : Schema
  records : List Record
  arity : ∀ record ∈ records, record.values.length = schema.size
  deriving DecidableEq

namespace RecordSet

/-- The first record that has not one value for each field. -/
def misshapen? (schema : Schema) (records : List Record) : Option Record :=
  records.find? fun record => record.values.length ≠ schema.size

/-- The first record, with its literal, whose literal for a field is of
another kind than `kind`, or than the first literal where no kind is given. -/
def oddRecord? (field : Field) : Option LiteralKind → List Record → Option (Record × Literal)
  | _, [] => none
  | kind, record :: rest =>
      match record.value field, kind with
      | .wildcard, kind => oddRecord? field kind rest
      | .exact literal, none => oddRecord? field (some literal.kind) rest
      | .exact literal, some kind =>
          if literal.kind = kind then oddRecord? field (some kind) rest
          else some (record, literal)

/-- The first field, in schema order, that mixes kinds, with the record that
shows it. -/
def mixedField? (schema : Schema) (records : List Record) : Option (Field × Record × Literal) :=
  schema.fields.findSome? fun field => (oddRecord? field none records).map (field, ·)

/-- Makes a record set. The number of values is checked for all records before
the kinds of their literals. -/
def ofRecords (table : TableName) (schema : Schema) (records : List Record) :
    Except Fault RecordSet :=
  match shape : misshapen? schema records with
  | some record =>
      .error (.schema table (.arity record.row record.values.length schema.size))
  | none =>
      match mixedField? schema records with
      | some (field, record, literal) =>
          .error (.malformed table record.reference field.name literal.text .mixedKinds)
      | none => .ok ⟨table, schema, records, by simpa [misshapen?] using shape⟩

/-- The tables that some record hands its instructions to. -/
def delegates (set : RecordSet) : List TableName :=
  set.records.filterMap Record.delegate

theorem ofRecords_eq_ok {table : TableName} {schema : Schema} {records : List Record}
    {set : RecordSet} (made : ofRecords table schema records = .ok set) :
    set.table = table ∧ set.schema = schema ∧ set.records = records := by
  unfold ofRecords at made
  split at made
  · contradiction
  · split at made
    · contradiction
    · obtain rfl := Except.ok.inj made
      exact ⟨rfl, rfl, rfl⟩

end RecordSet

end OpcodeTables
