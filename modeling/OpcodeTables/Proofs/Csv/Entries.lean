import Mathlib
import OpcodeTables.Proofs.Csv.Header
import OpcodeTables.Proofs.Text.Numerals

/-!
# Entries of a table

A row under a header is an entry: it has a cell for each name.  Reading one runs
through a list of checks, and the first that fails is reported.  If none does,
the entry gives a record, unless it is blank.

Reading an entry is put together from steps, and so are its checks: `Checked`
says of a step that it fails where one of its checks does and otherwise gives
what it should.  What the cells of numbers may hold is said by a grammar of
numerals, and whether one holds a numeral is found out by reading it.
-/

namespace OpcodeTables.Csv

instance (text : List Char) : Decidable (∃ word, Text.SaysWord text word) :=
  decidable_of_iff ((Text.readWord 10 text).isOk = true) <| by
    simp only [isOk_iff, Text.readWord_ten_eq_ok_iff]

instance (text : List Char) : Decidable (∃ number, Text.SaysSigned text number) :=
  decidable_of_iff ((Text.readSigned text).isOk = true) <| by
    simp only [isOk_iff, Text.readSigned_eq_ok_iff]

/-- A row under a header: where it is and what it holds below a name. -/
structure Entry where
  line : Nat
  cell : String → String

/-- What a row holds in the first column of each name. -/
def Row.under (row : Row) (header : List String) : Entry where
  line := row.line
  cell name := row.cell (header.idxOf name)

/-- One thing that is checked of an entry, and whether the entry fails it. -/
structure Check where
  column : String
  flaw : RecordFlaw
  fails : Bool

namespace Entry

section Checks

variable (entry : Entry) (layout : Layout) (schema : Schema)

/-- Whether an entry has neither a mnemonic nor a value for any field, whatever
else it holds. -/
def isBlank : Bool :=
  entry.cell layout.mnemonic = "" ∧ ∀ name ∈ schema.names, entry.cell name = ""

/-- Whether an entry hands its instructions to another table. -/
def isProxy : Bool :=
  Literal.isWord "true" (entry.cell layout.proxy).toList

/-- The value for a field is a literal if there is one. -/
def valueCheck (name : String) : Check :=
  ⟨name, .notLiteral, entry.cell name ≠ "" ∧ Literal.ofString? (entry.cell name) = none⟩

/-- There is a mnemonic if there is a value, and it can name a handler. -/
def mnemonicChecks : List Check :=
  [⟨layout.mnemonic, .noMnemonic,
    entry.cell layout.mnemonic = "" ∧ ∃ name ∈ schema.names, entry.cell name ≠ ""⟩,
  ⟨layout.mnemonic, .unusableMnemonic, ¬isFreeName (entry.cell layout.mnemonic)⟩]

/-- The mark of a proxy is a truth value if there is one. -/
def proxyCheck : Check :=
  ⟨layout.proxy, .notTruthValue, entry.cell layout.proxy ≠ "" ∧
    ¬Literal.isWord "false" (entry.cell layout.proxy).toList ∧ ¬entry.isProxy layout⟩

/-- There is something, unless the entry is a proxy, and it says a number. -/
def numberChecks {α : Type} (name : String) (Says : List Char → α → Prop)
    [∀ text, Decidable (∃ number, Says text number)] (flaw : RecordFlaw) : List Check :=
  [⟨name, .blankNumber, entry.cell name = "" ∧ ¬entry.isProxy layout⟩,
  ⟨name, flaw, entry.cell name ≠ "" ∧ ¬∃ number, Says (entry.cell name).toList number⟩]

/-- The checks that are left once the values and the mnemonic are fine. -/
def recordChecks : List Check :=
  [entry.proxyCheck layout] ++
    (entry.numberChecks layout layout.cycles Text.SaysWord .notNatural ++
      entry.numberChecks layout layout.index Text.SaysSigned .notInteger)

/-- All checks of an entry in their order. -/
def checks : List Check :=
  schema.names.map entry.valueCheck ++
    (entry.mnemonicChecks layout schema ++ entry.recordChecks layout)

/-- A failed check as it is reported: the entry, its mnemonic, the column and
what the entry holds there. -/
def fault (table : TableName) (check : Check) : Fault :=
  .malformed table ⟨entry.line, entry.cell layout.mnemonic⟩ check.column
    (entry.cell check.column) check.flaw

/-- What is reported of an entry: the first check that fails, unless the entry
is blank. -/
def fault? (table : TableName) : Option Fault :=
  if entry.isBlank layout schema then none
  else ((entry.checks layout schema).find? Check.fails).map (entry.fault layout table)

/-- The value of an entry for a field. An empty cell leaves the field free. -/
def Holds (name : String) : FieldValue → Prop
  | .wildcard => entry.cell name = ""
  | .exact literal => entry.cell name ≠ "" ∧ Literal.ofString? (entry.cell name) = some literal

/-- A number of an entry. It is what the entry says, and only a proxy may say
nothing. -/
def Counts {α : Type} (name : String) (Says : List Char → α → Prop) (zero number : α) : Prop :=
  if entry.cell name = "" then entry.isProxy layout ∧ number = zero
  else Says (entry.cell name).toList number

/-- The record that an entry stands for. -/
structure Gives (record : Record) : Prop where
  row : record.row = entry.line
  values : List.Forall₂ entry.Holds schema.names record.values
  handler : record.handler = entry.cell layout.mnemonic
  cycles : entry.Counts layout layout.cycles Text.SaysWord 0 record.cycles
  layoutIndex : entry.Counts layout layout.index Text.SaysSigned 0 record.layoutIndex
  delegate : record.delegate =
    if entry.isProxy layout then some ⟨entry.cell layout.mnemonic⟩ else none

/-- A step of reading that fails with the first of some checks that fails, and
if none does gives a value as it should be. -/
structure Checked {α : Type} (table : TableName) (checks : List Check) (result : Except Fault α)
    (good : α → Prop) : Prop where
  fails : ∀ {check}, checks.find? Check.fails = some check →
    result = .error (entry.fault layout table check)
  gives : checks.find? Check.fails = none → ∃ value, result = .ok value ∧ good value

end Checks

/-! ## Steps -/

namespace Checked

variable {entry : Entry} {layout : Layout} {table : TableName} {α β : Type}
  {check : Check} {checks more : List Check} {good : α → Prop} {fine : β → Prop}

theorem done {value : α} (holds : good value) :
    entry.Checked layout table [] (.ok value) good where
  fails found := by contradiction
  gives _ := ⟨value, rfl, holds⟩

theorem failed (fails : check.fails = true) :
    entry.Checked layout table (check :: checks) (.error (entry.fault layout table check)) good where
  fails found := by
    rw [List.find?_cons_of_pos fails] at found
    rw [Option.some.inj found]
  gives none := by
    rw [List.find?_cons_of_pos fails] at none
    contradiction

theorem passed {result : Except Fault α} (passes : check.fails = false)
    (rest : entry.Checked layout table checks result good) :
    entry.Checked layout table (check :: checks) result good := by
  have skip : (check :: checks).find? Check.fails = checks.find? Check.fails := by
    rw [List.find?_cons, passes]
  exact ⟨fun found => rest.fails (skip ▸ found), fun none => rest.gives (skip ▸ none)⟩

/-- The checks of two steps are those of the first and then those of the second. -/
theorem bind {first : Except Fault α} {next : α → Except Fault β}
    (here : entry.Checked layout table checks first good)
    (later : ∀ value, good value → entry.Checked layout table more (next value) fine) :
    entry.Checked layout table (checks ++ more) (first >>= next) fine := by
  cases failing : checks.find? Check.fails with
  | some check =>
      -- The second step is not taken, and its checks are not come to.
      have found : (checks ++ more).find? Check.fails = some check := by
        rw [List.find?_append, failing, Option.some_or]
      constructor
      · intro other same
        obtain rfl : check = other := Option.some.inj (found.symm.trans same)
        exact bind_eq_error.mpr (.inl (here.fails failing))
      · intro none
        simp [found] at none
  | none =>
      obtain ⟨value, result, holds⟩ := here.gives failing
      have found : (checks ++ more).find? Check.fails = more.find? Check.fails := by
        rw [List.find?_append, failing, Option.none_or]
      rw [result]
      exact ⟨fun same => (later value holds).fails (found ▸ same),
        fun none => (later value holds).gives (found ▸ none)⟩

/-- What a step gives may still be put into another form. -/
theorem map {first : Except Fault α} {form : α → β}
    (here : entry.Checked layout table checks first good)
    (implies : ∀ value, good value → fine (form value)) :
    entry.Checked layout table checks (first >>= fun value => .ok (form value)) fine := by
  rw [← List.append_nil checks]
  apply here.bind
  intro value holds
  exact done (implies value holds)

end Checked

end Entry

/-! ## Reading an entry -/

/-- What is known of a table once its header is read. -/
def Layout.sheet (layout : Layout) (table : TableName) (header : List String) (schema : Schema) :
    Sheet where
  table := table
  layout := layout
  schema := schema
  columns := layout.columns header schema

section Rows

variable {layout : Layout} {table : TableName} {header : List String} {schema : Schema} {row : Row}

theorem checked_readValue (name : String) :
    (row.under header).Checked layout table [(row.under header).valueCheck name]
      ((layout.sheet table header schema).readValue row name (header.idxOf name))
      ((row.under header).Holds name) := by
  simp only [Sheet.readValue]
  split
  · next blank =>
      apply Entry.Checked.passed
      · simp [Entry.valueCheck, Row.under, blank]
      · exact .done blank
  · next filled =>
      split
      · next literal read =>
          apply Entry.Checked.passed
          · simp [Entry.valueCheck, Row.under, read]
          · exact .done ⟨filled, read⟩
      · next unread =>
          apply Entry.Checked.failed
          simp [Entry.valueCheck, Row.under, filled, unread]

theorem checked_mapM_readValue (names : List String) :
    (row.under header).Checked layout table (names.map (row.under header).valueCheck)
      ((names.zip (names.map header.idxOf)).mapM fun column =>
        (layout.sheet table header schema).readValue row column.1 column.2)
      (List.Forall₂ (row.under header).Holds names) := by
  induction names with
  | nil => exact .done .nil
  | cons name rest ih =>
      rw [List.map_cons, List.map_cons, List.zip_cons_cons, List.mapM_cons,
        ← List.singleton_append]
      apply (checked_readValue name).bind
      intro value holds
      apply ih.map
      intro values all
      exact .cons holds all

theorem checked_readValues :
    (row.under header).Checked layout table (schema.names.map (row.under header).valueCheck)
      ((layout.sheet table header schema).readValues row)
      (List.Forall₂ (row.under header).Holds schema.names) :=
  checked_mapM_readValue schema.names

/-- No text is both words of truth. -/
theorem not_isWord_true {text : List Char} (word : Literal.isWord "false" text = true) :
    Literal.isWord "true" text = false := by
  rw [Literal.isWord, beq_iff_eq] at word
  rw [Literal.isWord, word]
  decide

theorem checked_readProxy :
    (row.under header).Checked layout table [(row.under header).proxyCheck layout]
      ((layout.sheet table header schema).readProxy row)
      (· = (row.under header).isProxy layout) := by
  simp only [Sheet.readProxy]
  split
  · next no =>
      have unmarked : (row.under header).isProxy layout = false := by
        rcases no with blank | word
        · have empty : (row.under header).cell layout.proxy = "" := blank
          rw [Entry.isProxy, empty]
          decide
        · exact not_isWord_true word
      apply Entry.Checked.passed
      · apply decide_eq_false
        rintro ⟨filled, other, -⟩
        exact no.elim filled other
      · exact .done unmarked.symm
  · next unmarked =>
      rw [not_or] at unmarked
      split
      · next yes =>
          apply Entry.Checked.passed
          · apply decide_eq_false
            rintro ⟨-, -, other⟩
            exact other yes
          · exact .done (Eq.symm yes)
      · next neither =>
          apply Entry.Checked.failed
          exact decide_eq_true ⟨unmarked.1, unmarked.2, neither⟩

/-- A number is read after the proxy mark, by what reads all that says one. -/
theorem checked_readNumber {α : Type} {read : List Char → Except Text.NumeralFault α}
    {Says : List Char → α → Prop} [∀ text, Decidable (∃ number, Says text number)]
    (exact : ∀ {text number}, read text = .ok number ↔ Says text number) (name : String)
    (zero : α) (flaw : RecordFlaw) :
    (row.under header).Checked layout table
      ((row.under header).numberChecks layout name Says flaw)
      ((layout.sheet table header schema).readNumber row ((row.under header).isProxy layout) name
        (header.idxOf name) read zero flaw)
      ((row.under header).Counts layout name Says zero) := by
  simp only [Sheet.readNumber]
  split
  · next blank =>
      have empty : (row.under header).cell name = "" := blank
      split
      · next proxy =>
          apply Entry.Checked.passed
          · simp [proxy]
          · apply Entry.Checked.passed
            · simp [empty]
            · apply Entry.Checked.done
              rw [Entry.Counts, if_pos empty]
              exact ⟨proxy, rfl⟩
      · next unmarked =>
          apply Entry.Checked.failed
          exact decide_eq_true ⟨empty, unmarked⟩
  · next filled =>
      have present : (row.under header).cell name ≠ "" := filled
      apply Entry.Checked.passed
      · simp [present]
      · split
        · next number found =>
            have said : Says ((row.under header).cell name).toList number := exact.mp found
            apply Entry.Checked.passed
            · exact decide_eq_false fun unsaid => unsaid.2 ⟨number, said⟩
            · apply Entry.Checked.done
              rwa [Entry.Counts, if_neg present]
        · next cause unread =>
            apply Entry.Checked.failed
            refine decide_eq_true ⟨present, ?_⟩
            rintro ⟨number, said⟩
            cases (exact.mpr said).symm.trans unread

/-- The rest of a record once its values and its mnemonic are fine. -/
theorem checked_readRecord {values : List FieldValue}
    (held : List.Forall₂ (row.under header).Holds schema.names values) :
    (row.under header).Checked layout table ((row.under header).recordChecks layout)
      ((layout.sheet table header schema).readRecord row values)
      ((row.under header).Gives layout schema) := by
  rw [Sheet.readRecord, Entry.recordChecks]
  apply checked_readProxy.bind
  rintro _ rfl
  apply (checked_readNumber Text.readWord_ten_eq_ok_iff layout.cycles _ _).bind
  intro cycles counted
  apply (checked_readNumber Text.readSigned_eq_ok_iff layout.index _ _).map
  intro layoutIndex placed
  exact ⟨rfl, held, rfl, counted, placed, rfl⟩

/-- What is done with a row once its values are read. -/
def Sheet.readNamed (sheet : Sheet) (row : Row) (values : List FieldValue) :
    Except Fault (Option Record) :=
  if row.cell sheet.columns.mnemonic = "" then
    if values.any FieldValue.isExact then
      .error (sheet.malformed row sheet.layout.mnemonic (row.cell sheet.columns.mnemonic)
        .noMnemonic)
    else .ok none
  else if isFreeName (row.cell sheet.columns.mnemonic) then
    sheet.readRecord row values >>= fun record => .ok (some record)
  else
    .error (sheet.malformed row sheet.layout.mnemonic (row.cell sheet.columns.mnemonic)
      .unusableMnemonic)

theorem Sheet.readRow_eq_bind (sheet : Sheet) (row : Row) :
    sheet.readRow row = sheet.readValues row >>= sheet.readNamed row := by
  have form (made : Except Fault Record) :
      made.map some = made >>= fun record => .ok (some record) := by
    cases made <;> rfl
  rw [readRow]
  cases sheet.readValues row with
  | error fault => rfl
  | ok values =>
      change _ = sheet.readNamed row values
      rw [readNamed, ← form]

/-- Some value is a literal where some cell is filled. -/
theorem any_isExact_iff {entry : Entry} {names : List String} {values : List FieldValue}
    (held : List.Forall₂ entry.Holds names values) :
    values.any FieldValue.isExact = true ↔ ∃ name ∈ names, entry.cell name ≠ "" := by
  induction held with
  | nil => simp
  | @cons name value names values holds _ ih =>
      rw [List.any_cons, Bool.or_eq_true, List.exists_mem_cons_iff, ih]
      apply or_congr_left
      cases value with
      | wildcard =>
          have empty : entry.cell name = "" := holds
          simp [FieldValue.isExact, empty]
      | exact literal => simpa [FieldValue.isExact] using holds.1

theorem checked_readNamed {values : List FieldValue}
    (filled : (row.under header).isBlank layout schema = false)
    (held : List.Forall₂ (row.under header).Holds schema.names values) :
    (row.under header).Checked layout table
      ((row.under header).mnemonicChecks layout schema ++ (row.under header).recordChecks layout)
      ((layout.sheet table header schema).readNamed row values)
      (fun found => ∃ record, found = some record ∧
        (row.under header).Gives layout schema record) := by
  rw [Sheet.readNamed]
  split
  · next nameless =>
      have value : ∃ name ∈ schema.names, (row.under header).cell name ≠ "" := by
        by_contra none
        apply of_decide_eq_false filled
        refine ⟨nameless, ?_⟩
        intro name inside
        by_contra value
        exact none ⟨name, inside, value⟩
      rw [if_pos ((any_isExact_iff held).mpr value)]
      apply Entry.Checked.failed
      exact decide_eq_true ⟨nameless, value⟩
  · next named =>
      apply Entry.Checked.passed
      · apply decide_eq_false
        rintro ⟨nameless, -⟩
        exact named nameless
      · split
        · next free =>
            apply Entry.Checked.passed
            · exact decide_eq_false (not_not_intro free)
            · apply (checked_readRecord held).map
              intro record gives
              exact ⟨record, rfl, gives⟩
        · next unusable =>
            apply Entry.Checked.failed
            exact decide_eq_true unusable

/-- An entry that is not blank is read with all its checks. -/
theorem checked_readRow (filled : (row.under header).isBlank layout schema = false) :
    (row.under header).Checked layout table ((row.under header).checks layout schema)
      ((layout.sheet table header schema).readRow row)
      (fun found => ∃ record, found = some record ∧
        (row.under header).Gives layout schema record) := by
  rw [Sheet.readRow_eq_bind]
  apply checked_readValues.bind
  intro values held
  exact checked_readNamed filled held

/-- An entry that is faulty is reported. -/
theorem readRow_of_fault {fault : Fault}
    (found : (row.under header).fault? layout schema table = some fault) :
    (layout.sheet table header schema).readRow row = .error fault := by
  rw [Entry.fault?] at found
  split at found
  · contradiction
  · next filled =>
      obtain ⟨check, failing, rfl⟩ := Option.map_eq_some_iff.mp found
      exact (checked_readRow (eq_false_of_ne_true filled)).fails failing

/-- An entry that is neither faulty nor blank gives a record. -/
theorem exists_readRow (fine : (row.under header).fault? layout schema table = none)
    (filled : (row.under header).isBlank layout schema = false) :
    ∃ record, (layout.sheet table header schema).readRow row = .ok (some record) ∧
      (row.under header).Gives layout schema record := by
  rw [Entry.fault?, filled, if_neg Bool.false_ne_true, Option.map_eq_none_iff] at fine
  obtain ⟨_, read, record, rfl, gives⟩ := (checked_readRow filled).gives fine
  exact ⟨record, read, gives⟩

/-- A blank entry is passed over, whatever its other cells hold. -/
theorem readRow_of_blank (blank : (row.under header).isBlank layout schema = true) :
    (layout.sheet table header schema).readRow row = .ok none := by
  obtain ⟨nameless, empty⟩ := of_decide_eq_true blank
  -- The values are read before it is seen that there is no mnemonic.
  have passes : (schema.names.map (row.under header).valueCheck).find? Check.fails = none := by
    rw [List.find?_eq_none]
    intro check member
    obtain ⟨name, inside, rfl⟩ := List.mem_map.mp member
    simp [Entry.valueCheck, empty name inside]
  obtain ⟨values, read, held⟩ := checked_readValues.gives passes
  have free : ¬values.any FieldValue.isExact = true := by
    rw [any_isExact_iff held]
    rintro ⟨name, inside, value⟩
    exact value (empty name inside)
  rw [Sheet.readRow_eq_bind, read]
  change Sheet.readNamed _ _ _ = _
  rw [Sheet.readNamed]
  exact (if_pos nameless).trans (if_neg free)

end Rows

end OpcodeTables.Csv
