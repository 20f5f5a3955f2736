import OpcodeTables.RecordSet

/-!
# Kinds of literals

A record set holds literals of one kind for each field.  The check that sees to
it passes over blanks, takes the first literal of a field as the measure, and
stops at the first that differs.
-/

namespace OpcodeTables

namespace Record

/-- All literals that some records hold for a field are of one kind. -/
def AllOfKind (kind : LiteralKind) (field : Field) (records : List Record) : Prop :=
  ∀ record ∈ records, ∀ literal, record.value field = .exact literal → literal.kind = kind

section Cons

variable {kind : LiteralKind} {field : Field} {record : Record} {rest : List Record}
  {literal : Literal}

theorem allOfKind_cons_of_wildcard (blank : record.value field = .wildcard) :
    AllOfKind kind field (record :: rest) ↔ AllOfKind kind field rest := by
  rw [AllOfKind, List.forall_mem_cons, blank]
  apply and_iff_right
  intro literal held
  contradiction

theorem allOfKind_cons_of_exact (held : record.value field = .exact literal) :
    AllOfKind kind field (record :: rest) ↔
      literal.kind = kind ∧ AllOfKind kind field rest := by
  rw [AllOfKind, List.forall_mem_cons, held]
  simp [AllOfKind]

end Cons

end Record

namespace RecordSet

section Field

variable {field : Field} {record : Record} {records : List Record}

/-- A record that leaves the field blank is passed over. -/
theorem oddRecord?_cons_of_wildcard {measure : Option LiteralKind}
    (blank : record.value field = .wildcard) :
    oddRecord? field measure (record :: records) = oddRecord? field measure records := by
  simp [oddRecord?, blank]

/-- The first literal is the measure of all that follow. -/
theorem oddRecord?_cons_of_exact {literal : Literal} (held : record.value field = .exact literal) :
    oddRecord? field none (record :: records) =
      oddRecord? field (some literal.kind) records := by
  simp [oddRecord?, held]

/-- Where a kind is given, no record is odd if all literals are of that kind. -/
theorem oddRecord?_some_eq_none_iff {kind : LiteralKind} :
    oddRecord? field (some kind) records = none ↔ Record.AllOfKind kind field records := by
  induction records with
  | nil => simp [oddRecord?, Record.AllOfKind]
  | cons record rest ih =>
      cases held : record.value field with
      | wildcard =>
          rw [oddRecord?_cons_of_wildcard held, Record.allOfKind_cons_of_wildcard held, ih]
      | exact literal =>
          rw [Record.allOfKind_cons_of_exact held, ← ih]
          by_cases same : literal.kind = kind <;> simp [oddRecord?, held, same]

/-- Where no kind is given, no record is odd if all literals are of some kind. -/
theorem oddRecord?_none_eq_none_iff :
    oddRecord? field none records = none ↔ ∃ kind, Record.AllOfKind kind field records := by
  induction records with
  | nil => exact ⟨fun _ => ⟨.bool, by simp [Record.AllOfKind]⟩, fun _ => rfl⟩
  | cons record rest ih =>
      cases held : record.value field with
      | wildcard =>
          simp only [oddRecord?_cons_of_wildcard held, Record.allOfKind_cons_of_wildcard held, ih]
      | exact literal =>
          rw [oddRecord?_cons_of_exact held, oddRecord?_some_eq_none_iff]
          simp only [Record.allOfKind_cons_of_exact held, exists_eq_left']

/-- The odd record is the first that holds a literal of another kind. -/
theorem exists_of_oddRecord?_some {kind : LiteralKind} {literal : Literal}
    (found : oddRecord? field (some kind) records = some (record, literal)) :
    ∃ before after, records = before ++ record :: after ∧ record.value field = .exact literal ∧
      Record.AllOfKind kind field before ∧ literal.kind ≠ kind := by
  induction records with
  | nil => contradiction
  | cons first rest ih =>
      cases held : first.value field with
      | wildcard =>
          rw [oddRecord?_cons_of_wildcard held] at found
          obtain ⟨before, after, rfl, shown, same, other⟩ := ih found
          exact ⟨first :: before, after, rfl, shown,
            (Record.allOfKind_cons_of_wildcard held).mpr same, other⟩
      | exact measured =>
          simp only [oddRecord?, held] at found
          split at found
          · next kept =>
              obtain ⟨before, after, rfl, shown, same, other⟩ := ih found
              exact ⟨first :: before, after, rfl, shown,
                (Record.allOfKind_cons_of_exact held).mpr ⟨kept, same⟩, other⟩
          · next differs =>
              obtain ⟨rfl, rfl⟩ := Prod.mk.inj (Option.some.inj found)
              exact ⟨[], rest, rfl, held, by simp [Record.AllOfKind], differs⟩

end Field

section Fields

variable {schema : Schema} {records : List Record} {field : Field} {record : Record}
  {literal : Literal}

/-- The first field of a schema for which some records hold literals of both
kinds, and the first record whose literal for it is not of the kind of those
before. -/
structure Mixes (schema : Schema) (records : List Record) (field : Field) (record : Record)
    (literal : Literal) : Prop where
  first : ∃ before after, schema.fields = before ++ field :: after ∧
    ∀ earlier ∈ before, ∃ kind, Record.AllOfKind kind earlier records
  shown : ∃ before after, records = before ++ record :: after ∧
    record.value field = .exact literal ∧ (∃ kind, Record.AllOfKind kind field before) ∧
    ∃ earlier ∈ before, ∃ other, earlier.value field = .exact other ∧ other.kind ≠ literal.kind

theorem mixedField?_eq_none_iff :
    mixedField? schema records = none ↔
      ∀ field ∈ schema.fields, ∃ kind, Record.AllOfKind kind field records := by
  rw [mixedField?, List.findSome?_eq_none_iff]
  simp only [Option.map_eq_none_iff, oddRecord?_none_eq_none_iff]

theorem misshapen?_eq_none_iff :
    misshapen? schema records = none ↔ ∀ record ∈ records, record.values.length = schema.size := by
  simp [misshapen?]

/-- Records that have as many values as there are fields make a record set
unless a field mixes kinds. -/
theorem exists_ofRecords_of_unmixed {table : TableName}
    (shape : ∀ record ∈ records, record.values.length = schema.size)
    (unmixed : ∀ field ∈ schema.fields, ∃ kind, Record.AllOfKind kind field records) :
    ∃ set, ofRecords table schema records = .ok set := by
  have shaped := misshapen?_eq_none_iff.mpr shape
  have even := mixedField?_eq_none_iff.mpr unmixed
  unfold ofRecords
  split
  · next misshapen => simp [shaped] at misshapen
  · split
    · next mixed => simp [even] at mixed
    · exact ⟨_, rfl⟩

end Fields

/-- A record set holds literals of one kind for each field of its schema. -/
theorem exists_allOfKind_of_ofRecords {table : TableName} {schema : Schema}
    {records : List Record} {set : RecordSet}
    (made : ofRecords table schema records = .ok set) {field : Field}
    (member : field ∈ schema.fields) : ∃ kind, Record.AllOfKind kind field records := by
  unfold ofRecords at made
  split at made
  · contradiction
  · split at made
    · contradiction
    · next unmixed => exact mixedField?_eq_none_iff.mp unmixed field member

end RecordSet

end OpcodeTables
