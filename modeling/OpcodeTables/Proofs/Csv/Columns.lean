import Mathlib
import OpcodeTables.Proofs.Csv.Header

/-!
# Columns in other places

A table with a list of fields is read by the names of its columns.  Where its used
columns stand, and what other columns it has, shows neither in its records nor
in a fault: two files whose used columns hold the same are read alike.
-/

namespace OpcodeTables

/-- Results that are one fault, or values of which each goes with the other. -/
inductive Paired {ε α β : Type} (pair : α → β → Prop) : Except ε α → Except ε β → Prop where
  | ok {left : α} {right : β} (good : pair left right) : Paired pair (.ok left) (.ok right)
  | error (fault : ε) : Paired pair (.error fault) (.error fault)

namespace Paired

variable {ε α β γ δ : Type} {pair : α → β → Prop} {other : γ → δ → Prop}

theorem refl (result : Except ε α) :
    Paired (fun left right => left = right ∧ result = .ok left) result result := by
  cases result with
  | error fault => exact .error fault
  | ok value => exact .ok ⟨rfl, rfl⟩

/-- Results stay paired where both go on in ways that are. -/
theorem bind {left : Except ε α} {right : Except ε β} {next : α → Except ε γ}
    {further : β → Except ε δ} (paired : Paired pair left right)
    (each : ∀ value mate, pair value mate → Paired other (next value) (further mate)) :
    Paired other (left >>= next) (right >>= further) := by
  cases paired with
  | ok good => exact each _ _ good
  | error fault => exact .error fault

theorem mapM {items : List γ} {step : γ → Except ε α} {turn : γ → Except ε β}
    (each : ∀ item ∈ items, Paired pair (step item) (turn item)) :
    Paired (List.Forall₂ pair) (items.mapM step) (items.mapM turn) := by
  induction items with
  | nil => exact .ok .nil
  | cons item rest ih =>
      rw [List.forall_mem_cons] at each
      rw [List.mapM_cons, List.mapM_cons]
      apply each.1.bind
      intro value mate good
      apply (ih each.2).bind
      intro values mates all
      exact .ok (.cons good all)

end Paired

namespace Csv

/-! ## Columns -/

/-- The name at the head of a column. A cell that a header lacks is no name. -/
def Row.heading? (header : Row) (column : Nat) : Option String :=
  (header.cells.map Text.trim)[column]?

/-- The names of the columns that are read. -/
def Layout.used (layout : Layout) (fields : List String) : List String :=
  fields ++ [layout.mnemonic, layout.cycles, layout.proxy, layout.index]

/-- Two headers with the same used columns. `moved column place` says that a column
of the first stands at a place of the second; a column that stands nowhere in the
other header has no used name. -/
structure Reheads (used : List String) (moved : Nat → Nat → Prop) (header other : Row) : Prop where
  once : ∀ name ∈ used, ∀ {column twin}, header.heading? column = some name →
    header.heading? twin = some name → column = twin
  named : ∀ {column place}, moved column place → ∀ name ∈ used,
    (header.heading? column = some name ↔ other.heading? place = some name)
  kept : ∀ name ∈ used, ∀ {column}, header.heading? column = some name →
    ∃ place, moved column place
  found : ∀ name ∈ used, ∀ {place}, other.heading? place = some name →
    ∃ column, moved column place

/-- A row of the second file that stands in the place of one of the first: cells
of columns that are moved are the same, and a missing cell is a blank one. -/
structure Row.Moved (moved : Nat → Nat → Prop) (row other : Row) : Prop where
  line : row.line = other.line
  cell : ∀ {column place}, moved column place → row.cell column = other.cell place

/-- The columns that are read stand in the places that they are moved to. -/
structure Columns.Moved (moved : Nat → Nat → Prop) (columns other : Columns) : Prop where
  fields : List.Forall₂ moved columns.fields other.fields
  mnemonic : moved columns.mnemonic other.mnemonic
  cycles : moved columns.cycles other.cycles
  proxy : moved columns.proxy other.proxy
  index : moved columns.index other.index

variable {moved : Nat → Nat → Prop}

/-! ## Headers -/

section Header

variable {used : List String} {header other : Row}

/-- The first column of a name is headed by it. -/
theorem heading?_of_columnNamed {name : String} {column : Nat}
    (named : columnNamed (header.cells.map Text.trim) name = .ok column) :
    header.heading? column = some name := by
  obtain ⟨inside, rfl⟩ := columnNamed_eq_ok_iff.mp named
  rw [Row.heading?, List.getElem?_eq_getElem (List.idxOf_lt_length_iff.mpr inside),
    List.getElem_idxOf]

theorem lt_of_heading? {column : Nat} {name : String}
    (headed : header.heading? column = some name) : column < (header.cells.map Text.trim).length :=
  (List.getElem?_eq_some_iff.mp headed).1

theorem exists_columnNamed_iff {name : String} :
    (∃ column, columnNamed (header.cells.map Text.trim) name = .ok column) ↔
      ∃ column, header.heading? column = some name := by
  constructor
  · rintro ⟨column, named⟩
    exact ⟨column, heading?_of_columnNamed named⟩
  · rintro ⟨column, headed⟩
    exact ⟨_, columnNamed_eq_ok_iff.mpr ⟨List.mem_of_getElem? headed, rfl⟩⟩

theorem columnNamed_of_error {names : List String} {name : String} {issue : SchemaIssue}
    (failed : columnNamed names name = .error issue) : issue = .missingColumn name := by
  rw [columnNamed] at failed
  split at failed
  · contradiction
  · exact (Except.error.inj failed).symm

/-- A used column is missing in both headers, or it is moved. -/
theorem Reheads.columnNamed (heads : Reheads used moved header other) {name : String}
    (member : name ∈ used) :
    Paired moved (columnNamed (header.cells.map Text.trim) name)
      (columnNamed (other.cells.map Text.trim) name) := by
  cases first : Csv.columnNamed (header.cells.map Text.trim) name with
  | ok column =>
      have headed := heading?_of_columnNamed first
      obtain ⟨place, leads⟩ := heads.kept name member headed
      obtain ⟨target, second⟩ :=
        exists_columnNamed_iff.mpr ⟨place, (heads.named leads name member).mp headed⟩
      -- The target may be another place than this one, but it comes from this column.
      have shown := heading?_of_columnNamed second
      obtain ⟨twin, arrives⟩ := heads.found name member shown
      have same := heads.once name member headed ((heads.named arrives name member).mpr shown)
      rw [second]
      exact .ok (same ▸ arrives)
  | error issue =>
      cases second : Csv.columnNamed (other.cells.map Text.trim) name with
      | ok place =>
          have shown := heading?_of_columnNamed second
          obtain ⟨column, arrives⟩ := heads.found name member shown
          obtain ⟨_, named⟩ :=
            exists_columnNamed_iff.mpr ⟨column, (heads.named arrives name member).mpr shown⟩
          rw [first] at named
          contradiction
      | error fault =>
          rw [columnNamed_of_error first, columnNamed_of_error second]
          exact .error _

/-- Reading two such headers gives one schema, with its columns moved, or one issue. -/
theorem Reheads.readHeader {layout : Layout} {fields : List String}
    (heads : Reheads (layout.used fields) moved header other) :
    Paired (fun first second => first.1 = second.1 ∧ first.2.Moved moved second.2)
      (readHeader (header.cells.map Text.trim) (some fields) layout)
      (readHeader (other.cells.map Text.trim) (some fields) layout) := by
  have column {name : String} (member : name ∈ layout.used fields) := heads.columnNamed member
  apply (column (by simp [Layout.used])).bind
  intro _ _ mnemonic
  apply (Paired.refl (Schema.ofNames fields)).bind
  rintro schema _ ⟨rfl, made⟩
  have names : schema.names = fields := Schema.ofNames_eq_ok_iff.mp made
  have each : ∀ name ∈ schema.names, name ∈ layout.used fields := by
    intro name member
    exact List.mem_append_left _ (names ▸ member)
  apply (Paired.mapM fun name member => column (each name member)).bind
  intro _ _ fields
  apply (column (by simp [Layout.used])).bind
  intro _ _ cycles
  apply (column (by simp [Layout.used])).bind
  intro _ _ proxy
  apply (column (by simp [Layout.used])).bind
  intro _ _ index
  exact .ok ⟨rfl, ⟨fields, mnemonic, cycles, proxy, index⟩⟩

end Header

/-! ## Rows -/

section Rows

variable {table : TableName} {layout : Layout} {schema : Schema} {columns places : Columns}
  {row other : Row}

theorem malformed_of_moved (fit : columns.Moved moved places) (same : row.Moved moved other)
    (column value : String) (flaw : RecordFlaw) :
    Sheet.malformed ⟨table, layout, schema, columns⟩ row column value flaw =
      Sheet.malformed ⟨table, layout, schema, places⟩ other column value flaw := by
  simp only [Sheet.malformed, same.line, same.cell fit.mnemonic]

theorem readValue_of_moved (fit : columns.Moved moved places) (same : row.Moved moved other)
    (field : String) {column place : Nat} (leads : moved column place) :
    Sheet.readValue ⟨table, layout, schema, columns⟩ row field column =
      Sheet.readValue ⟨table, layout, schema, places⟩ other field place := by
  simp only [Sheet.readValue, same.cell leads, malformed_of_moved fit same]

theorem readValues_of_moved (fit : columns.Moved moved places) (same : row.Moved moved other) :
    Sheet.readValues ⟨table, layout, schema, columns⟩ row =
      Sheet.readValues ⟨table, layout, schema, places⟩ other := by
  have values (names : List String) {left right : List Nat} (all : List.Forall₂ moved left right) :
      ((names.zip left).mapM fun cell =>
          Sheet.readValue ⟨table, layout, schema, columns⟩ row cell.1 cell.2) =
        (names.zip right).mapM fun cell =>
          Sheet.readValue ⟨table, layout, schema, places⟩ other cell.1 cell.2 := by
    induction all generalizing names with
    | nil => rw [List.zip_nil_right, List.mapM_nil, List.mapM_nil]
    | cons leads _ ih =>
        cases names with
        | nil => rfl
        | cons name rest =>
            rw [List.zip_cons_cons, List.zip_cons_cons, List.mapM_cons, List.mapM_cons, ih rest,
              readValue_of_moved fit same name leads]
  exact values schema.names fit.fields

theorem readRecord_of_moved (fit : columns.Moved moved places) (same : row.Moved moved other)
    (values : List FieldValue) :
    Sheet.readRecord ⟨table, layout, schema, columns⟩ row values =
      Sheet.readRecord ⟨table, layout, schema, places⟩ other values := by
  simp only [Sheet.readRecord, Sheet.readProxy, Sheet.readNumber, same.line,
    same.cell fit.mnemonic, same.cell fit.proxy, same.cell fit.cycles, same.cell fit.index,
    malformed_of_moved fit same]

/-- Reading a row in the place of another gives what reading that one gives. -/
theorem readRow_of_moved (fit : columns.Moved moved places) (same : row.Moved moved other) :
    Sheet.readRow ⟨table, layout, schema, columns⟩ row =
      Sheet.readRow ⟨table, layout, schema, places⟩ other := by
  simp only [Sheet.readRow, readValues_of_moved fit same, same.cell fit.mnemonic,
    readRecord_of_moved fit same, malformed_of_moved fit same]

/-- Rows that can all be read are read alike, whatever files they are in. -/
theorem readRows_of_moved (fit : columns.Moved moved places) {body others : List Row}
    (same : List.Forall₂ (Row.Moved moved) body others) (path there : Path) :
    Sheet.readRows ⟨table, layout, schema, columns⟩ path (body.map .ok) =
      Sheet.readRows ⟨table, layout, schema, places⟩ there (others.map .ok) := by
  induction same with
  | nil => rfl
  | cons head _ ih =>
      rw [List.map_cons, List.map_cons, Sheet.readRows, Sheet.readRows, readRow_of_moved fit head,
        ih, head.line]

end Rows

/-! ## Tables -/

/-- Only the used columns matter, and not where they stand. Two files that can be
read below their titles, with the used columns in other places and any other
columns besides, give the same records or the same fault, and log the same. -/
theorem readTable_of_moved {table : TableName} {layout : Layout} {fields : List String}
    {first second : List (Except RowFault Row)} {header other : Row} {body others : List Row}
    (left : first.drop layout.headerRow = .ok header :: body.map .ok)
    (right : second.drop layout.headerRow = .ok other :: others.map .ok)
    (heads : Reheads (layout.used fields) moved header other)
    (rows : List.Forall₂ (Row.Moved moved) body others) (path there : Path) :
    readTable table first (some fields) layout path =
      readTable table second (some fields) layout there := by
  have headed {file : List (Except RowFault Row)} {top : Row} {below : List Row}
      (shape : file.drop layout.headerRow = .ok top :: below.map .ok) :
      file[layout.headerRow]? = some (.ok top) ∧
        file.drop (layout.headerRow + 1) = below.map .ok := by
    rw [← List.head?_drop, ← List.tail_drop, shape]
    exact ⟨rfl, rfl⟩
  obtain ⟨top, below⟩ := headed left
  obtain ⟨top', below'⟩ := headed right
  have paired := heads.readHeader
  rw [readTable, readTable, top, top', below, below']
  simp only
  generalize readHeader (header.cells.map Text.trim) (some fields) layout = one,
    readHeader (other.cells.map Text.trim) (some fields) layout = two at paired
  cases paired with
  | error issue => rfl
  | @ok one two good =>
      obtain ⟨schema, columns⟩ := one
      obtain ⟨schema', places⟩ := two
      obtain ⟨rfl, fit⟩ : schema = schema' ∧ columns.Moved moved places := good
      simp only [readRows_of_moved fit rows path there]

/-- The header of a table with a column of notes. -/
def notedHeader : Row :=
  ⟨2, ["family", "Notes", "Mnemonic", "CPI", "Proxy", "Index"]⟩

/-- An instruction, notes on their own, a proxy that ends early, and a row that ends
before its cost. -/
def notedBody : List Row := [
  ⟨3, ["0", "shifts", "sll", "1", "", " 4"]⟩,
  ⟨4, ["", "reserved"]⟩,
  ⟨5, ["0b11", "", "cop3", "", "TRUE"]⟩,
  ⟨6, ["8", "", "addi"]⟩]

/-- The same columns from right to left, and one of dates where the notes are gone. -/
def datedHeader : Row :=
  ⟨9, ["Index", "Proxy", "CPI", "Mnemonic", "Date", " family"]⟩

/-- The rows of `notedBody` under the other header. -/
def datedBody : List Row := [
  ⟨3, ["4", "", "1", " sll", "1994", "0 "]⟩,
  ⟨4, []⟩,
  ⟨5, ["", "TRUE", "", "cop3", "1995", "0b11"]⟩,
  ⟨6, ["", "", "", "addi", "", "8"]⟩]

/-- Where the columns under `notedHeader` stand under `datedHeader`. -/
def datedPlaces : List (Nat × Nat) :=
  [(0, 5), (2, 3), (3, 2), (4, 1), (5, 0)]

/-- The same row is at fault in both files, for the cost that it lacks. -/
theorem readTable_of_moved_dated :
    readTable .root (.error .notUtf8 :: .ok notedHeader :: notedBody.map .ok) (some ["family"])
        { headerRow := 1 } ⟨"noted.csv"⟩ =
      readTable .root (.ok ⟨1, []⟩ :: .ok datedHeader :: datedBody.map .ok) (some ["family"])
        { headerRow := 1 } ⟨"dated.csv"⟩ ∧
    (readTable .root (.ok ⟨1, []⟩ :: .ok datedHeader :: datedBody.map .ok) (some ["family"])
        { headerRow := 1 } ⟨"dated.csv"⟩).result =
      .error (.malformed .root ⟨6, "addi"⟩ "CPI" "" .blankNumber) := by
  have kept : ∀ name ∈ Layout.used { headerRow := 1 } ["family"], ∀ column < 6,
      notedHeader.heading? column = some name →
        ∃ pair ∈ datedPlaces, pair.1 = column := by decide +kernel
  have found : ∀ name ∈ Layout.used { headerRow := 1 } ["family"], ∀ place < 6,
      datedHeader.heading? place = some name →
        ∃ pair ∈ datedPlaces, pair.2 = place := by decide +kernel
  have named : ∀ pair ∈ datedPlaces, ∀ name ∈ Layout.used { headerRow := 1 } ["family"],
      (notedHeader.heading? pair.1 = some name ↔ datedHeader.heading? pair.2 = some name) := by
    decide +kernel
  have heads : Reheads (Layout.used { headerRow := 1 } ["family"])
      (fun column place => (column, place) ∈ datedPlaces) notedHeader datedHeader := by
    refine ⟨?_, fun leads => named _ leads, ?_, ?_⟩
    · intro name _ column twin first second
      have distinct : (notedHeader.cells.map Text.trim).Nodup := by decide +kernel
      exact (List.getElem?_inj (lt_of_heading? first) distinct).mp (first.trans second.symm)
    · intro name member column headed
      obtain ⟨pair, leads, rfl⟩ := kept name member column (lt_of_heading? headed) headed
      exact ⟨pair.2, leads⟩
    · intro name member place headed
      obtain ⟨pair, leads, rfl⟩ := found name member place (lt_of_heading? headed) headed
      exact ⟨pair.1, leads⟩
  have moves {row other : Row} (line : row.line = other.line)
      (cells : ∀ pair ∈ datedPlaces, row.cell pair.1 = other.cell pair.2) :
      row.Moved (fun column place => (column, place) ∈ datedPlaces) other :=
    ⟨line, fun leads => cells _ leads⟩
  have rows : List.Forall₂ (Row.Moved fun column place => (column, place) ∈ datedPlaces)
      notedBody datedBody :=
    .cons (moves rfl (by decide +kernel)) (.cons (moves rfl (by decide +kernel))
      (.cons (moves rfl (by decide +kernel)) (.cons (moves rfl (by decide +kernel)) .nil)))
  exact ⟨readTable_of_moved rfl rfl heads rows ⟨"noted.csv"⟩ ⟨"dated.csv"⟩, by decide +kernel⟩

end Csv

end OpcodeTables
