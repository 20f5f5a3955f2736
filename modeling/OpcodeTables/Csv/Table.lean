import OpcodeTables.Csv.Rows
import OpcodeTables.Log
import OpcodeTables.RecordSet

/-!
# Tables in rows

A table file starts with title rows, then comes a header row that names the
columns, then one record in each row.  Columns are found by their names.
Those that are neither a field of the schema nor one of the four columns of
the layout are ignored, and cells are trimmed.
-/

namespace OpcodeTables.Csv

/-- Where the header is and what the columns are called that are no fields. -/
structure Layout where
  /-- The number of title rows before the header row. -/
  headerRow : Nat := 3
  mnemonic : String := "Mnemonic"
  cycles : String := "CPI"
  proxy : String := "Proxy"
  index : String := "Index"
  deriving DecidableEq, Repr, Inhabited

/-- The positions of the columns that are read, those of the fields in schema
order. -/
structure Columns where
  fields : List Nat
  mnemonic : Nat
  cycles : Nat
  proxy : Nat
  index : Nat
  deriving DecidableEq, Repr

/-- The trimmed cell of a column; a row that is too short has an empty cell. -/
def Row.cell (row : Row) (column : Nat) : String :=
  (row.cells[column]?.map Text.trim).getD ""

/-- The first column of a name. -/
def columnNamed (header : List String) (name : String) : Except SchemaIssue Nat :=
  match header.findIdx? (· = name) with
  | some column => .ok column
  | none => .error (.missingColumn name)

/-- Reads the header: the schema and where its columns are. Without a list of
fields the schema is every column to the left of the mnemonic column. -/
def readHeader (header : List String) (fields : Option (List String)) (layout : Layout) :
    Except SchemaIssue (Schema × Columns) := do
  let mnemonic ← columnNamed header layout.mnemonic
  let schema ← Schema.ofNames (fields.getD (header.take mnemonic))
  let columns ← schema.names.mapM (columnNamed header)
  let cycles ← columnNamed header layout.cycles
  let proxy ← columnNamed header layout.proxy
  let index ← columnNamed header layout.index
  return (schema, ⟨columns, mnemonic, cycles, proxy, index⟩)

/-- What is known while the rows of a table are read. -/
structure Sheet where
  table : TableName
  layout : Layout
  schema : Schema
  columns : Columns

namespace Sheet

/-- The fault that a cell of a row is flawed. -/
def malformed (sheet : Sheet) (row : Row) (column value : String) (flaw : RecordFlaw) : Fault :=
  .malformed sheet.table ⟨row.line, row.cell sheet.columns.mnemonic⟩ column value flaw

/-- Reads the cell of one field. An empty cell leaves the field free. -/
def readValue (sheet : Sheet) (row : Row) (field : String) (column : Nat) :
    Except Fault FieldValue :=
  let text := row.cell column
  if text = "" then .ok .wildcard
  else
    match Literal.ofString? text with
    | some literal => .ok (.exact literal)
    | none => .error (sheet.malformed row field text .notLiteral)

/-- Reads the cells of all fields, in schema order. -/
def readValues (sheet : Sheet) (row : Row) : Except Fault (List FieldValue) :=
  (sheet.schema.names.zip sheet.columns.fields).mapM fun (field, column) =>
    sheet.readValue row field column

/-- Reads a truth value. An empty cell means no. -/
def readProxy (sheet : Sheet) (row : Row) : Except Fault Bool :=
  let text := row.cell sheet.columns.proxy
  if text = "" ∨ Literal.isWord "false" text.toList then .ok false
  else if Literal.isWord "true" text.toList then .ok true
  else .error (sheet.malformed row sheet.layout.proxy text .notTruthValue)

/-- Reads a number. Only a proxy row may leave it out, and then it is zero. -/
def readNumber {α : Type} (sheet : Sheet) (row : Row) (isProxy : Bool) (name : String)
    (column : Nat) (read : List Char → Except Text.NumeralFault α) (zero : α)
    (flaw : RecordFlaw) : Except Fault α :=
  let text := row.cell column
  if text = "" then
    if isProxy then .ok zero else .error (sheet.malformed row name text .blankNumber)
  else
    match read text.toList with
    | .ok number => .ok number
    | .error _ => .error (sheet.malformed row name text flaw)

/-- Reads the rest of a record whose field values and mnemonic are fine. -/
def readRecord (sheet : Sheet) (row : Row) (values : List FieldValue) :
    Except Fault Record := do
  let isProxy ← sheet.readProxy row
  let cycles ← sheet.readNumber row isProxy sheet.layout.cycles sheet.columns.cycles
    (Text.readWord 10) 0 .notNatural
  let layoutIndex ← sheet.readNumber row isProxy sheet.layout.index sheet.columns.index
    Text.readSigned 0 .notInteger
  let handler := row.cell sheet.columns.mnemonic
  return ⟨row.line, values, handler, cycles, layoutIndex, if isProxy then some ⟨handler⟩ else none⟩

/-- Reads one row. A row without a mnemonic and without any field value is
blank and holds no record. -/
def readRow (sheet : Sheet) (row : Row) : Except Fault (Option Record) :=
  let mnemonic := row.cell sheet.columns.mnemonic
  match sheet.readValues row with
  | .error fault => .error fault
  | .ok values =>
      if mnemonic = "" then
        if values.any FieldValue.isExact then
          .error (sheet.malformed row sheet.layout.mnemonic mnemonic .noMnemonic)
        else .ok none
      else if isFreeName mnemonic then (sheet.readRecord row values).map some
      else .error (sheet.malformed row sheet.layout.mnemonic mnemonic .unusableMnemonic)

/-- Reads rows until one is unreadable or flawed, and logs the blank ones. -/
def readRows (sheet : Sheet) (path : Path) :
    List (Except RowFault Row) → Traced Fault (List Record)
  | [] => .ok []
  | .error cause :: _ => .fail (.unparsable path cause)
  | .ok row :: rest =>
      match sheet.readRow row with
      | .error fault => .fail fault
      | .ok none => do
          Traced.event (.blankRow sheet.table row.line)
          readRows sheet path rest
      | .ok (some record) => do
          let records ← readRows sheet path rest
          return record :: records

end Sheet

/-- Reads a table from the rows of its file. Rows before the header are never
looked at. -/
def readTable (table : TableName) (rows : List (Except RowFault Row))
    (fields : Option (List String)) (layout : Layout) (path : Path) :
    Traced Fault RecordSet :=
  match rows[layout.headerRow]? with
  | none => .fail (.schema table (.missingHeader (layout.headerRow + 1)))
  | some (.error cause) => .fail (.unparsable path cause)
  | some (.ok header) =>
      match readHeader (header.cells.map Text.trim) fields layout with
      | .error issue => .fail (.schema table issue)
      | .ok (schema, columns) => do
          let sheet : Sheet := ⟨table, layout, schema, columns⟩
          let records ← sheet.readRows path (rows.drop (layout.headerRow + 1))
          Traced.ofExcept (RecordSet.ofRecords table schema records)

end OpcodeTables.Csv
