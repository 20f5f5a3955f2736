import OpcodeTables.TableDirectory

/-!
# Faults of reading

Whatever goes wrong while a table is read from its file, the fault names the
table or the file.  A fault of a row is that one of its cells is flawed.
-/

namespace OpcodeTables

theorem exists_of_mapM_eq_error {ε α β : Type} {step : α → Except ε β} {items : List α} {fault : ε}
    (failed : items.mapM step = .error fault) : ∃ item ∈ items, step item = .error fault := by
  induction items with
  | nil => contradiction
  | cons item rest ih =>
      rw [List.mapM_cons, bind_eq_error] at failed
      rcases failed with first | ⟨_, _, failed⟩
      · exact ⟨item, by simp, first⟩
      · rcases bind_eq_error.mp failed with later | ⟨_, _, done⟩
        · obtain ⟨other, member, failure⟩ := ih later
          exact ⟨other, List.mem_cons_of_mem _ member, failure⟩
        · contradiction

/-- The fault is about a table or about the file of the table. -/
def Fault.Concerns (table : TableName) (path : Path) : Fault → Prop
  | .schema other _ => other = table
  | .malformed other _ _ _ _ => other = table
  | .unreadable other _ => other = path
  | .unparsable other _ => other = path
  | _ => False

namespace Csv

namespace Sheet

variable {sheet : Sheet} {row : Row} {fault : Fault}

/-- The fault is that some cell of a row is flawed. -/
def Flawed (sheet : Sheet) (row : Row) (fault : Fault) : Prop :=
  ∃ column value flaw, fault = sheet.malformed row column value flaw

theorem flawed_of_readValues (failed : sheet.readValues row = .error fault) :
    sheet.Flawed row fault := by
  obtain ⟨⟨field, column⟩, _, failure⟩ := exists_of_mapM_eq_error failed
  simp only [readValue] at failure
  split at failure
  · contradiction
  · split at failure
    · contradiction
    · exact ⟨_, _, _, (Except.error.inj failure).symm⟩

theorem flawed_of_readProxy (failed : sheet.readProxy row = .error fault) :
    sheet.Flawed row fault := by
  simp only [readProxy] at failed
  split at failed
  · contradiction
  · split at failed
    · contradiction
    · exact ⟨_, _, _, (Except.error.inj failed).symm⟩

theorem flawed_of_readNumber {α : Type} {isProxy : Bool} {name : String} {column : Nat}
    {read : List Char → Except Text.NumeralFault α} {zero : α} {flaw : RecordFlaw}
    (failed : sheet.readNumber row isProxy name column read zero flaw = .error fault) :
    sheet.Flawed row fault := by
  simp only [readNumber] at failed
  split at failed
  · split at failed
    · contradiction
    · exact ⟨_, _, _, (Except.error.inj failed).symm⟩
  · split at failed
    · contradiction
    · exact ⟨_, _, _, (Except.error.inj failed).symm⟩

theorem flawed_of_readRecord {values : List FieldValue}
    (failed : sheet.readRecord row values = .error fault) : sheet.Flawed row fault := by
  rw [readRecord] at failed
  rcases bind_eq_error.mp failed with proxy | ⟨_, _, failed⟩
  · exact flawed_of_readProxy proxy
  · rcases bind_eq_error.mp failed with cycles | ⟨_, _, failed⟩
    · exact flawed_of_readNumber cycles
    · rcases bind_eq_error.mp failed with index | ⟨_, _, done⟩
      · exact flawed_of_readNumber index
      · contradiction

/-- Whatever is wrong with a row is wrong with one of its cells. -/
theorem flawed_of_readRow (failed : sheet.readRow row = .error fault) :
    sheet.Flawed row fault := by
  simp only [readRow] at failed
  split at failed
  · next values =>
      obtain rfl := Except.error.inj failed
      exact flawed_of_readValues values
  · next values _ =>
      split at failed
      · split at failed
        · exact ⟨_, _, _, (Except.error.inj failed).symm⟩
        · contradiction
      · split at failed
        · cases made : sheet.readRecord row values with
          | ok record => simp [made, Except.map] at failed
          | error other =>
              obtain rfl : other = fault := by simpa [made, Except.map] using failed
              exact flawed_of_readRecord made
        · exact ⟨_, _, _, (Except.error.inj failed).symm⟩

/-- Reading rows fails at an unreadable row or at a flawed one. -/
theorem concerns_of_readRows {path : Path} {rows : List (Except RowFault Row)}
    (failed : (sheet.readRows path rows).result = .error fault) :
    fault.Concerns sheet.table path := by
  induction rows with
  | nil => contradiction
  | cons row rest ih =>
      cases row with
      | error cause =>
          obtain rfl := Except.error.inj failed
          rfl
      | ok row =>
          rw [readRows] at failed
          split at failed
          · next flawed =>
              obtain rfl := Except.error.inj failed
              obtain ⟨_, _, _, rfl⟩ := flawed_of_readRow flawed
              rfl
          · rcases Traced.result_bind_eq_error.mp failed with logged | ⟨_, _, failed⟩
            · contradiction
            · exact ih failed
          · rcases Traced.result_bind_eq_error.mp failed with failed | ⟨_, _, done⟩
            · exact ih failed
            · contradiction

end Sheet

end Csv

theorem RecordSet.concerns_of_ofRecords {table : TableName} {schema : Schema}
    {records : List Record} {path : Path} {fault : Fault}
    (failed : ofRecords table schema records = .error fault) : fault.Concerns table path := by
  rw [ofRecords] at failed
  split at failed
  · obtain rfl := Except.error.inj failed
    rfl
  · split at failed
    · obtain rfl := Except.error.inj failed
      rfl
    · contradiction

/-- A table that cannot be read from its rows: the fault names it or its file. -/
theorem Csv.concerns_of_readTable {table : TableName} {rows : List (Except RowFault Row)}
    {fields : Option (List String)} {layout : Layout} {path : Path} {fault : Fault}
    (failed : (readTable table rows fields layout path).result = .error fault) :
    fault.Concerns table path := by
  rw [readTable] at failed
  split at failed
  · obtain rfl := Except.error.inj failed
    rfl
  · obtain rfl := Except.error.inj failed
    rfl
  · split at failed
    · obtain rfl := Except.error.inj failed
      rfl
    · rcases Traced.result_bind_eq_error.mp failed with failed | ⟨_, _, failed⟩
      · exact Sheet.concerns_of_readRows failed
      · exact RecordSet.concerns_of_ofRecords failed

/-- A table that cannot be loaded from a directory: the fault names it or its
file. -/
theorem TableDirectory.concerns_of_load {tables : TableDirectory} {files : FileView}
    {table : TableName} {fault : Fault}
    (failed : (tables.load files table).result = .error fault) :
    fault.Concerns table (tables.pathOf table) := by
  simp only [load] at failed
  split at failed
  · contradiction
  · obtain rfl := Except.error.inj failed
    rfl
  · rcases Traced.result_bind_eq_error.mp failed with failed | ⟨_, _, done⟩
    · exact Csv.concerns_of_readTable failed
    · contradiction

end OpcodeTables
