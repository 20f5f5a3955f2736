import OpcodeTables.Csv.Table
import OpcodeTables.Files.View
import OpcodeTables.Program.Resolve
import OpcodeTables.Text.Upper

/-!
# Directories of tables

Tables kept side by side as files of one directory.  The root table is in the
file of the base name, any other in a file whose name begins with the table's
name in upper case.  A file that is not there is a table that does not exist;
any other trouble is a fault.
-/

namespace OpcodeTables

/-- Where the files of tables are and how they are read. -/
structure TableDirectory where
  directory : Path := ⟨"."⟩
  baseName : String := "Instruction List.csv"
  layout : Csv.Layout := {}
  /-- The fields of every table without an override; without them they are the
  columns to the left of the mnemonic. -/
  fields : Option (List String) := none
  overrides : List (String × List String) := []
  deriving DecidableEq, Repr, Inhabited

namespace TableDirectory

/-- The file of a table. -/
def pathOf (tables : TableDirectory) (table : TableName) : Path :=
  if table.isRoot then tables.directory.join ⟨tables.baseName⟩
  else tables.directory.join ⟨Text.upper table.text ++ " " ++ tables.baseName⟩

/-- The fields of a table, where they are given. -/
def fieldsOf (tables : TableDirectory) (table : TableName) : Option (List String) :=
  (tables.overrides.lookup table.text).or tables.fields

/-- The rows of what a path led to. Reading a directory fails at its first
row, and there are no others. -/
def rowsOf : FileEntry → List (Except RowFault Csv.Row)
  | .file bytes => Csv.rows bytes
  | .directory => [.error (.file .isDirectory)]

/-- Loads one table. -/
def load (tables : TableDirectory) (files : FileView) (table : TableName) :
    Traced Fault (Option RecordSet) :=
  let path := tables.pathOf table
  match files.openPath path with
  | .error .notFound => .ok none
  | .error cause => .fail (.unreadable path cause)
  | .ok entry => do
      let set ← Csv.readTable table (rowsOf entry) (tables.fieldsOf table) tables.layout path
      return some set

end TableDirectory

namespace Csv

/-- The trimmed cells of all rows that can be read. -/
def cellsOf (rows : List (Except RowFault Row)) : List String :=
  rows.flatMap fun row => ((row.toOption.map Row.cells).getD []).map Text.trim

theorem mem_cells {row : Row} {column : Nat} (filled : row.cell column ≠ "") :
    row.cell column ∈ row.cells.map Text.trim := by
  unfold Row.cell at filled ⊢
  cases found : row.cells[column]? with
  | none => simp [found] at filled
  | some cell => exact List.mem_map.mpr ⟨cell, List.mem_of_getElem? found, by simp⟩

/-- A record hands over to nothing but the table that its mnemonic names. -/
theorem delegate_of_readRecord {sheet : Sheet} {row : Row} {values : List FieldValue}
    {record : Record} {name : TableName} (read : sheet.readRecord row values = .ok record)
    (proxy : record.delegate = some name) : name.text = row.cell sheet.columns.mnemonic := by
  obtain ⟨isProxy, _, read⟩ := bind_eq_ok.mp read
  obtain ⟨_, _, read⟩ := bind_eq_ok.mp read
  obtain ⟨_, _, read⟩ := bind_eq_ok.mp read
  obtain rfl := Except.ok.inj read
  cases isProxy with
  | false => contradiction
  | true => exact congrArg TableName.text (Option.some.inj proxy).symm

theorem delegate_of_readRow {sheet : Sheet} {row : Row} {record : Record} {name : TableName}
    (read : sheet.readRow row = .ok (some record)) (proxy : record.delegate = some name) :
    name.text ∈ row.cells.map Text.trim := by
  simp only [Sheet.readRow] at read
  split at read
  · contradiction
  · next values _ =>
      split at read
      · split at read
        · contradiction
        · simp at read
      · next named =>
          split at read
          · cases made : sheet.readRecord row values with
            | error fault => simp [made, Except.map] at read
            | ok other =>
                obtain rfl : other = record := by simpa [made, Except.map] using read
                exact delegate_of_readRecord made proxy ▸ mem_cells named
          · contradiction

theorem delegates_of_readRows {sheet : Sheet} {path : Path}
    {rows : List (Except RowFault Row)} {records : List Record}
    (read : (sheet.readRows path rows).result = .ok records)
    {record : Record} (member : record ∈ records) {name : TableName}
    (proxy : record.delegate = some name) : name.text ∈ cellsOf rows := by
  induction rows generalizing records with
  | nil =>
      obtain rfl : [] = records := Except.ok.inj read
      contradiction
  | cons row rest ih =>
      have weaken (inside : name.text ∈ cellsOf rest) : name.text ∈ cellsOf (row :: rest) :=
        List.mem_append.mpr (.inr inside)
      cases row with
      | error cause => contradiction
      | ok row =>
          unfold Sheet.readRows at read
          split at read
          · contradiction
          · obtain ⟨_, _, rest⟩ := Traced.result_bind_eq_ok.mp read
            exact weaken (ih rest member)
          · next head parsed =>
              obtain ⟨tail, others, same⟩ := Traced.result_bind_eq_ok.mp read
              obtain rfl := Except.ok.inj same
              rcases List.mem_cons.mp member with rfl | member
              · exact List.mem_append.mpr (.inl (delegate_of_readRow parsed proxy))
              · exact weaken (ih others member)

theorem delegates_of_readTable {table : TableName} {rows : List (Except RowFault Row)}
    {fields : Option (List String)} {layout : Layout} {path : Path} {set : RecordSet}
    (read : (readTable table rows fields layout path).result = .ok set) {name : TableName}
    (member : name ∈ set.delegates) : name.text ∈ cellsOf rows := by
  unfold readTable at read
  split at read
  · contradiction
  · contradiction
  · split at read
    · contradiction
    · obtain ⟨records, inner, made⟩ := Traced.result_bind_eq_ok.mp read
      obtain ⟨_, _, same⟩ := RecordSet.ofRecords_eq_ok made
      obtain ⟨record, inside, proxy⟩ := List.mem_filterMap.mp member
      rw [same] at inside
      obtain ⟨row, among, cell⟩ := List.mem_flatMap.mp (delegates_of_readRows inner inside proxy)
      exact List.mem_flatMap.mpr ⟨row, List.mem_of_mem_drop among, cell⟩

end Csv

namespace TableDirectory

/-- The tables of a directory, among some files. -/
def source (tables : TableDirectory) (files : FileView) : FiniteSource where
  load := tables.load files
  locate table := some (tables.pathOf table)
  finite := by
    obtain ⟨contents, all⟩ := files.finite
    refine ⟨(contents.flatMap fun bytes => Csv.cellsOf (Csv.rows bytes)).map TableName.mk, ?_⟩
    intro table set loaded name member
    simp only [load] at loaded
    split at loaded
    · simp [Traced.ok] at loaded
    · contradiction
    · next entry opened =>
        obtain ⟨content, read, same⟩ := Traced.result_bind_eq_ok.mp loaded
        obtain rfl : content = set := Option.some.inj (Except.ok.inj same)
        have cell := Csv.delegates_of_readTable read member
        cases entry with
        | directory => simp [rowsOf, Csv.cellsOf, Except.toOption] at cell
        | file bytes =>
            exact List.mem_map.mpr ⟨name.text, List.mem_flatMap.mpr ⟨bytes, all _ _ opened, cell⟩,
              rfl⟩

end TableDirectory

end OpcodeTables
