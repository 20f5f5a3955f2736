import OpcodeTables.TableDirectory

/-!
# Names that tables are read with

A row is read only if its mnemonic can name a handler.  A proxy hands over to
the table that its mnemonic names, so that tables found from the root have
names of the same kind.
-/

namespace OpcodeTables

/-- A record as it is read from a file: its handler has a free name, which is
also that of the table that a proxy hands over to. -/
structure Record.WellNamed (record : Record) : Prop where
  free : isFreeName record.handler = true
  delegate : ∀ {name}, record.delegate = some name → name.text = record.handler

namespace Csv

variable {sheet : Sheet} {row : Row} {record : Record}

theorem handler_of_readRecord {values : List FieldValue}
    (read : sheet.readRecord row values = .ok record) :
    record.handler = row.cell sheet.columns.mnemonic := by
  obtain ⟨_, _, read⟩ := bind_eq_ok.mp read
  obtain ⟨_, _, read⟩ := bind_eq_ok.mp read
  obtain ⟨_, _, read⟩ := bind_eq_ok.mp read
  obtain rfl := Except.ok.inj read
  rfl

/-- A row whose mnemonic is no free name is not read. -/
theorem wellNamed_of_readRow (read : sheet.readRow row = .ok (some record)) :
    record.WellNamed := by
  simp only [Sheet.readRow] at read
  split at read
  · contradiction
  · next values _ =>
      split at read
      · split at read
        · contradiction
        · simp at read
      · split at read
        · next free =>
            cases made : sheet.readRecord row values with
            | error fault => simp [made, Except.map] at read
            | ok other =>
                obtain rfl : other = record := by simpa [made, Except.map] using read
                have handler := handler_of_readRecord made
                refine ⟨handler ▸ free, fun proxy => ?_⟩
                rw [handler]
                exact delegate_of_readRecord made proxy
        · contradiction

/-- Every record that is read comes from a row of its own. -/
theorem exists_row_of_readRows {path : Path} {rows : List (Except RowFault Row)}
    {records : List Record} (read : (sheet.readRows path rows).result = .ok records)
    (member : record ∈ records) : ∃ row, sheet.readRow row = .ok (some record) := by
  induction rows generalizing records with
  | nil =>
      obtain rfl : [] = records := Except.ok.inj read
      contradiction
  | cons row rest ih =>
      cases row with
      | error cause => contradiction
      | ok row =>
          rw [Sheet.readRows] at read
          split at read
          · contradiction
          · obtain ⟨_, _, others⟩ := Traced.result_bind_eq_ok.mp read
            exact ih others member
          · next head parsed =>
              obtain ⟨tail, others, same⟩ := Traced.result_bind_eq_ok.mp read
              obtain rfl := Except.ok.inj same
              rcases List.mem_cons.mp member with rfl | member
              · exact ⟨row, parsed⟩
              · exact ih others member

theorem wellNamed_of_readTable {table : TableName} {rows : List (Except RowFault Row)}
    {fields : Option (List String)} {layout : Layout} {path : Path} {set : RecordSet}
    (read : (readTable table rows fields layout path).result = .ok set)
    (member : record ∈ set.records) : record.WellNamed := by
  rw [readTable] at read
  split at read
  · contradiction
  · contradiction
  · split at read
    · contradiction
    · obtain ⟨records, inner, made⟩ := Traced.result_bind_eq_ok.mp read
      obtain ⟨_, _, same⟩ := RecordSet.ofRecords_eq_ok made
      rw [same] at member
      obtain ⟨row, parsed⟩ := exists_row_of_readRows inner member
      exact wellNamed_of_readRow parsed

end Csv

/-- The records of a table in a file are well named. -/
theorem TableDirectory.wellNamed_of_load {tables : TableDirectory} {files : FileView}
    {name : TableName} {set : RecordSet}
    (loaded : ((tables.source files).load name).result = .ok (some set)) {record : Record}
    (member : record ∈ set.records) : record.WellNamed := by
  simp only [source, load] at loaded
  split at loaded
  · simp [Traced.ok] at loaded
  · contradiction
  · obtain ⟨content, read, same⟩ := Traced.result_bind_eq_ok.mp loaded
    obtain rfl : content = set := Option.some.inj (Except.ok.inj same)
    exact Csv.wellNamed_of_readTable read member

end OpcodeTables
