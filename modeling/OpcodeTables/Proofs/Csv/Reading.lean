import Mathlib
import OpcodeTables.Proofs.Csv.Entries
import OpcodeTables.Proofs.Records.Validation

/-!
# Reading a table

Reading a table goes through its rows in the order of the file and stops at the
first that is unreadable or faulty.  If there is none, each entry that is not
blank has given one record, and these are the records of the table unless one
of its fields mixes kinds of literals.
-/

namespace OpcodeTables.Csv

/-- What is reported of a row. -/
def Layout.rowFault? (layout : Layout) (table : TableName) (header : List String)
    (schema : Schema) (path : Path) : Except RowFault Row → Option Fault
  | .error cause => some (.unparsable path cause)
  | .ok row => (row.under header).fault? layout schema table

/-- The entries of rows, the blank ones left out. -/
def Layout.entries (layout : Layout) (header : List String) (schema : Schema) :
    List (Except RowFault Row) → List Entry
  | [] => []
  | .error _ :: rest => layout.entries header schema rest
  | .ok row :: rest =>
      if (row.under header).isBlank layout schema then layout.entries header schema rest
      else row.under header :: layout.entries header schema rest

section Table

variable {layout : Layout} {table : TableName} {header : List String} {schema : Schema}
  {path : Path} {rows : List (Except RowFault Row)}

/-- The first row that is unreadable or faulty is reported, whatever follows. -/
theorem readRows_of_fault {fault : Fault}
    (found : rows.findSome? (layout.rowFault? table header schema path) = some fault) :
    ((layout.sheet table header schema).readRows path rows).result = .error fault := by
  induction rows with
  | nil => contradiction
  | cons row rest ih =>
      rw [List.findSome?_cons] at found
      cases row with
      | error cause =>
          obtain rfl := Option.some.inj found
          rfl
      | ok row =>
          cases here : (row.under header).fault? layout schema table with
          | some other =>
              simp only [Layout.rowFault?, here] at found
              obtain rfl := Option.some.inj found
              rw [Sheet.readRows, readRow_of_fault here]
              rfl
          | none =>
              simp only [Layout.rowFault?, here] at found
              cases blank : (row.under header).isBlank layout schema with
              | true =>
                  rw [Sheet.readRows, readRow_of_blank blank]
                  exact Traced.result_bind_eq_error.mpr (.inr ⟨_, rfl, ih found⟩)
              | false =>
                  obtain ⟨record, read, _⟩ := exists_readRow here blank
                  rw [Sheet.readRows, read]
                  exact Traced.result_bind_eq_error.mpr (.inl (ih found))

/-- Without a row to report, the entries that are not blank give one record
each, in their order. -/
theorem exists_readRows
    (fine : rows.findSome? (layout.rowFault? table header schema path) = none) :
    ∃ records, ((layout.sheet table header schema).readRows path rows).result = .ok records ∧
      List.Forall₂ (Entry.Gives · layout schema) (layout.entries header schema rows) records := by
  induction rows with
  | nil => exact ⟨[], rfl, .nil⟩
  | cons row rest ih =>
      rw [List.findSome?_eq_none_iff, List.forall_mem_cons] at fine
      obtain ⟨here, later⟩ := fine
      obtain ⟨records, read, given⟩ := ih (List.findSome?_eq_none_iff.mpr later)
      cases row with
      | error cause => contradiction
      | ok row =>
          cases blank : (row.under header).isBlank layout schema with
          | true =>
              rw [Sheet.readRows, readRow_of_blank blank, Layout.entries, if_pos blank]
              exact ⟨records, Traced.result_bind_eq_ok.mpr ⟨_, rfl, read⟩, given⟩
          | false =>
              obtain ⟨record, found, gives⟩ := exists_readRow here blank
              rw [Sheet.readRows, found, Layout.entries, if_neg (by simp [blank])]
              exact ⟨record :: records, Traced.result_bind_eq_ok.mpr ⟨_, read, rfl⟩,
                .cons gives given⟩

theorem Entry.Gives.length_values {entry : Entry} {record : Record}
    (gives : entry.Gives layout schema record) : record.values.length = schema.size :=
  gives.values.length_eq.symm

/-- Under a header that is fit, reading a table is reading its rows. -/
theorem result_readTable {fields : Option (List String)} {top : Row}
    (headed : rows[layout.headerRow]? = some (.ok top))
    (heads : layout.Heads (top.cells.map Text.trim) fields schema) :
    (readTable table rows fields layout path).result =
      (((layout.sheet table (top.cells.map Text.trim) schema).readRows path
        (rows.drop (layout.headerRow + 1))).result >>=
        RecordSet.ofRecords table schema) := by
  have read := readHeader_eq_ok_iff.mpr ⟨heads, rfl⟩
  rw [readTable, headed]
  simp only [read]
  exact Traced.result_bind _ _

/-- All rows of a table are accounted for.  The first row that is unreadable or
faulty is reported with the first of its checks that fails.  If there is none,
the entries that are not blank give one record each in the order of the file.
These records are the table unless they mix kinds of literals for one of its
fields, and then the first such field is reported. -/
theorem readTable_exact {fields : Option (List String)} {top : Row}
    (headed : rows[layout.headerRow]? = some (.ok top))
    (heads : layout.Heads (top.cells.map Text.trim) fields schema) :
    (∀ fault, (rows.drop (layout.headerRow + 1)).findSome?
        (layout.rowFault? table (top.cells.map Text.trim) schema path) = some fault →
      (readTable table rows fields layout path).result = .error fault) ∧
    ((rows.drop (layout.headerRow + 1)).findSome?
        (layout.rowFault? table (top.cells.map Text.trim) schema path) = none →
      ∃ records, List.Forall₂ (Entry.Gives · layout schema)
          (layout.entries (top.cells.map Text.trim) schema (rows.drop (layout.headerRow + 1)))
          records ∧
        ((∀ field ∈ schema.fields, ∃ kind, Record.AllOfKind kind field records) →
          ∃ set, (readTable table rows fields layout path).result = .ok set ∧
            set.table = table ∧ set.schema = schema ∧ set.records = records) ∧
        ((¬∀ field ∈ schema.fields, ∃ kind, Record.AllOfKind kind field records) →
          ∃ field record literal, RecordSet.Mixes schema records field record literal ∧
            (readTable table rows fields layout path).result = .error
              (.malformed table record.reference field.name literal.text .mixedKinds))) := by
  rw [result_readTable headed heads]
  constructor
  · intro fault found
    rw [readRows_of_fault found]
    rfl
  · intro fine
    obtain ⟨records, read, given⟩ := exists_readRows fine
    have shaped : List.Forall₂ (fun record entry =>
        record.values.length = schema.size ∧ entry.Gives layout schema record) records
        (layout.entries (top.cells.map Text.trim) schema (rows.drop (layout.headerRow + 1))) :=
      given.flip.imp fun _ _ gives => ⟨gives.length_values, gives⟩
    have shape := ((List.forall₂_and_left _ _).mp shaped).1
    rw [read]
    refine ⟨records, given, ?_, ?_⟩
    · intro unmixed
      obtain ⟨set, made⟩ := RecordSet.exists_ofRecords_of_unmixed shape unmixed
      exact ⟨set, made, RecordSet.ofRecords_eq_ok made⟩
    · exact RecordSet.exists_mixes_of_not_unmixed shape

end Table

/-- Names columns that stand in any order. -/
def scatteredLayout : Layout where
  headerRow := 1

/-- The header of a table, with a column that nobody reads. -/
def scatteredHeader : Row :=
  ⟨2, ["Index", " group ", "Mnemonic", "Notes", "Proxy", "shift", "CPI"]⟩

/-- A table whose title cannot be read: a row that has notes only, a proxy that
ends early, and a row of an instruction. -/
def scatteredRows : List (Except RowFault Row) := [
  .error .notUtf8,
  .ok scatteredHeader,
  .ok ⟨3, ["x", "", "", "arithmetic", "maybe", " "]⟩,
  .ok ⟨4, ["", "0x11", "cop1", "", "True"]⟩,
  .ok ⟨5, [" -7", "0", " addi ", "", "", "", "2"]⟩]

/-- Rows of which the first has more than one flaw, and the others have some. -/
def flawedRows : List (Except RowFault Row) := [
  .ok ⟨6, ["", "0x1", " j al", "", "yes", "", ""]⟩,
  .ok ⟨7, ["", "0b2", "", "", "", "", ""]⟩,
  .error .notUtf8]

/-- A row that is fine but for its last check. -/
def misplacedRows : List (Except RowFault Row) := [
  .ok ⟨6, ["two", "2", "j", "", "FALSE", "", "+1"]⟩]

/-- The schema of the scattered columns. -/
def scatteredSchema : Schema :=
  ⟨["group", "shift"], by decide, by decide, by decide⟩

/-- The rows that have a mnemonic are the records, and the first flaw of the
first flawed row is reported. -/
theorem readTable_exact_scattered :
    (∃ set, (readTable .root scatteredRows (some ["group", "shift"]) scatteredLayout
        ⟨"mips.csv"⟩).result = .ok set ∧ set.schema = scatteredSchema ∧
      List.Forall₂ (Entry.Gives · scatteredLayout scatteredSchema)
        (scatteredLayout.entries (scatteredHeader.cells.map Text.trim) scatteredSchema
          (scatteredRows.drop 2)) set.records ∧
      set.records.map Record.layoutIndex = [0, -7]) ∧
    (readTable .root (scatteredRows ++ flawedRows) (some ["group", "shift"]) scatteredLayout
        ⟨"mips.csv"⟩).result =
      .error (.malformed .root ⟨6, "j al"⟩ "Mnemonic" "j al" .unusableMnemonic) ∧
    (readTable .root (scatteredRows ++ misplacedRows) (some ["group", "shift"])
        scatteredLayout ⟨"mips.csv"⟩).result =
      .error (.malformed .root ⟨6, "j"⟩ "Index" "two" .notInteger) := by
  have heads : scatteredLayout.Heads (scatteredHeader.cells.map Text.trim)
      (some ["group", "shift"]) scatteredSchema :=
    ⟨by decide, by decide, by decide, by decide, rfl, by decide⟩
  have fine : (scatteredRows.drop 2).findSome? (scatteredLayout.rowFault? .root
      (scatteredHeader.cells.map Text.trim) scatteredSchema ⟨"mips.csv"⟩) = none := by
    decide +kernel
  have flawed : ((scatteredRows ++ flawedRows).drop 2).findSome? (scatteredLayout.rowFault? .root
      (scatteredHeader.cells.map Text.trim) scatteredSchema ⟨"mips.csv"⟩) =
        some (.malformed .root ⟨6, "j al"⟩ "Mnemonic" "j al" .unusableMnemonic) := by
    decide +kernel
  have misplaced : ((scatteredRows ++ misplacedRows).drop 2).findSome?
      (scatteredLayout.rowFault? .root (scatteredHeader.cells.map Text.trim) scatteredSchema
        ⟨"mips.csv"⟩) = some (.malformed .root ⟨6, "j"⟩ "Index" "two" .notInteger) := by
    decide +kernel
  have indices : (readTable .root scatteredRows (some ["group", "shift"]) scatteredLayout
      ⟨"mips.csv"⟩).result.map (fun set => set.records.map Record.layoutIndex) =
        .ok [0, -7] := by
    decide +kernel
  refine ⟨?_, (readTable_exact rfl heads).1 _ flawed, (readTable_exact rfl heads).1 _ misplaced⟩
  obtain ⟨records, given, unmixed, mixed⟩ := (readTable_exact rfl heads).2 fine
  by_cases even : ∀ field ∈ scatteredSchema.fields,
      ∃ kind, Record.AllOfKind kind field records
  · obtain ⟨set, made, _, same, rfl⟩ := unmixed even
    rw [made] at indices
    exact ⟨set, made, same, given, Except.ok.inj indices⟩
  · obtain ⟨_, _, _, _, failed⟩ := mixed even
    rw [failed] at indices
    contradiction

end OpcodeTables.Csv
