import OpcodeTables.Proofs.Records.Kinds

/-!
# What makes a record set

Records make a record set exactly where each has one value for each field and no
field mixes truth values with numbers.  The records alone determine what is
reported otherwise: the first of them that has another number of values or, where
there is none, the first field that mixes kinds with the first record that departs
from the kind of the field's first literal.
-/

namespace OpcodeTables.RecordSet

/-- The first record that has not one value for each field. -/
def Misshapes (schema : Schema) (records : List Record) (record : Record) : Prop :=
  ∃ before after, records = before ++ record :: after ∧
    (∀ earlier ∈ before, earlier.values.length = schema.size) ∧
    record.values.length ≠ schema.size

/-- The first record whose literal for a field is of another kind than the first
literal that the records hold for it. -/
def Departs (field : Field) (records : List Record) (record : Record) (literal : Literal) : Prop :=
  ∃ blanks first measure between after,
    records = blanks ++ first :: (between ++ record :: after) ∧
    (∀ earlier ∈ blanks, earlier.value field = .wildcard) ∧
    first.value field = .exact measure ∧
    Record.AllOfKind measure.kind field between ∧
    record.value field = .exact literal ∧ literal.kind ≠ measure.kind

/-- The first field of a schema for which the records hold literals of both kinds,
with the record that departs from the first of them. -/
def MixedAt (schema : Schema) (records : List Record) (field : Field) (record : Record)
    (literal : Literal) : Prop :=
  ∃ before after, schema.fields = before ++ field :: after ∧
    (∀ earlier ∈ before, ∃ kind, Record.AllOfKind kind earlier records) ∧
    Departs field records record literal

/-! ## The odd record of a field -/

section Field

variable {field : Field} {record : Record} {records : List Record} {literal : Literal}

/-- Records whose literals are of the kind that is asked for are passed over. -/
theorem oddRecord?_append_of_allOfKind {kind : LiteralKind} {before : List Record}
    (uniform : Record.AllOfKind kind field before) (rest : List Record) :
    oddRecord? field (some kind) (before ++ rest) = oddRecord? field (some kind) rest := by
  induction before with
  | nil => rfl
  | cons first before ih =>
      rw [List.cons_append]
      cases held : first.value field with
      | wildcard =>
          rw [oddRecord?_cons_of_wildcard held,
            ih ((Record.allOfKind_cons_of_wildcard held).mp uniform)]
      | exact measured =>
          obtain ⟨same, uniform⟩ := (Record.allOfKind_cons_of_exact held).mp uniform
          simp [oddRecord?, held, same, ih uniform]

/-- Records that leave the field blank are passed over. -/
theorem oddRecord?_append_of_blank {blanks : List Record}
    (blank : ∀ earlier ∈ blanks, earlier.value field = .wildcard) (rest : List Record) :
    oddRecord? field none (blanks ++ rest) = oddRecord? field none rest := by
  induction blanks with
  | nil => rfl
  | cons first blanks ih =>
      obtain ⟨here, blank⟩ := List.forall_mem_cons.mp blank
      rw [List.cons_append, oddRecord?_cons_of_wildcard here, ih blank]

/-- The odd record is found where its literal differs from the measure of the
field and from no literal before it. -/
theorem oddRecord?_eq_some_iff :
    oddRecord? field none records = some (record, literal) ↔
      Departs field records record literal := by
  constructor
  · intro found
    induction records with
    | nil => contradiction
    | cons first rest ih =>
        cases held : first.value field with
        | wildcard =>
            rw [oddRecord?_cons_of_wildcard held] at found
            obtain ⟨blanks, second, measure, between, after, rfl, blank, departs⟩ := ih found
            refine ⟨first :: blanks, second, measure, between, after, rfl, ?_, departs⟩
            exact List.forall_mem_cons.mpr ⟨held, blank⟩
        | exact measure =>
            rw [oddRecord?_cons_of_exact held] at found
            obtain ⟨between, after, rfl, shown, uniform, differs⟩ :=
              exists_of_oddRecord?_some found
            exact ⟨[], first, measure, between, after, rfl, by simp, held, uniform, shown, differs⟩
  · rintro ⟨blanks, first, measure, between, after, rfl, blank, held, uniform, shown, differs⟩
    rw [oddRecord?_append_of_blank blank, oddRecord?_cons_of_exact held,
      oddRecord?_append_of_allOfKind uniform]
    simp [oddRecord?, shown, differs]

end Field

/-! ## The checks of a record set -/

section Checks

variable {schema : Schema} {records : List Record} {field : Field} {record : Record}
  {literal : Literal}

theorem misshapen?_eq_some_iff :
    misshapen? schema records = some record ↔ Misshapes schema records record := by
  rw [misshapen?, List.find?_eq_some_iff_append, Misshapes]
  constructor
  · rintro ⟨wrong, before, after, split, fine⟩
    exact ⟨before, after, split, by simpa using fine, by simpa using wrong⟩
  · rintro ⟨before, after, split, fine, wrong⟩
    exact ⟨by simpa using wrong, before, after, split, by simpa using fine⟩

theorem mixedField?_eq_some_iff :
    mixedField? schema records = some (field, record, literal) ↔
      MixedAt schema records field record literal := by
  rw [mixedField?, List.findSome?_eq_some_iff]
  constructor
  · rintro ⟨before, other, after, split, odd, even⟩
    obtain ⟨⟨_, _⟩, departs, same⟩ := Option.map_eq_some_iff.mp odd
    obtain ⟨rfl, rfl, rfl⟩ := same
    refine ⟨before, after, split, ?_, oddRecord?_eq_some_iff.mp departs⟩
    intro earlier member
    exact oddRecord?_none_eq_none_iff.mp (Option.map_eq_none_iff.mp (even earlier member))
  · rintro ⟨before, after, split, uniform, departs⟩
    refine ⟨before, field, after, split, ?_, ?_⟩
    · rw [oddRecord?_eq_some_iff.mpr departs, Option.map_some]
    · intro earlier member
      rw [oddRecord?_none_eq_none_iff.mpr (uniform earlier member), Option.map_none]

/-- Where some record has another number of values, one of them is the first. -/
theorem exists_misshapes (member : record ∈ records) (other : record.values.length ≠ schema.size) :
    ∃ first, Misshapes schema records first := by
  have found : misshapen? schema records ≠ none := by
    rw [Ne, misshapen?_eq_none_iff]
    exact fun shape => other (shape record member)
  obtain ⟨first, found⟩ := Option.ne_none_iff_exists'.mp found
  exact ⟨first, misshapen?_eq_some_iff.mp found⟩

/-- Where some field mixes kinds, one of them is the first, and some record shows
it. -/
theorem exists_mixedAt (member : field ∈ schema.fields)
    (mixes : ¬∃ kind, Record.AllOfKind kind field records) :
    ∃ first record literal, MixedAt schema records first record literal := by
  have found : mixedField? schema records ≠ none := by
    rw [Ne, mixedField?_eq_none_iff]
    exact fun uniform => mixes (uniform field member)
  obtain ⟨⟨first, record, literal⟩, found⟩ := Option.ne_none_iff_exists'.mp found
  exact ⟨first, record, literal, mixedField?_eq_some_iff.mp found⟩

theorem ofRecords_of_misshapes (table : TableName) (misshapes : Misshapes schema records record) :
    ofRecords table schema records =
      .error (.schema table (.arity record.row record.values.length schema.size)) := by
  have found := misshapen?_eq_some_iff.mpr misshapes
  unfold ofRecords
  split
  · next other first =>
      obtain rfl := Option.some.inj (found.symm.trans first)
      rfl
  · next none_found => simp [none_found] at found

theorem ofRecords_of_mixedAt (table : TableName)
    (shape : ∀ record ∈ records, record.values.length = schema.size)
    (mixed : MixedAt schema records field record literal) :
    ofRecords table schema records =
      .error (.malformed table record.reference field.name literal.text .mixedKinds) := by
  have shaped := misshapen?_eq_none_iff.mpr shape
  have found := mixedField?_eq_some_iff.mpr mixed
  unfold ofRecords
  split
  · next other first => simp [shaped] at first
  · rw [found]

/-- The record that departs from the first literal of its field is the first that
is not of the kind of those before it. -/
theorem MixedAt.mixes (mixed : MixedAt schema records field record literal) :
    Mixes schema records field record literal := by
  obtain ⟨before, after, split, uniform, departs⟩ := mixed
  obtain ⟨blanks, first, measure, between, rest, rfl, blank, held, same, shown, differs⟩ := departs
  refine ⟨⟨before, after, split, uniform⟩, blanks ++ first :: between, rest, by simp, shown,
    ⟨measure.kind, ?_⟩, first, by simp, measure, held, differs.symm⟩
  intro earlier member other found
  rcases List.mem_append.mp member with inside | inside
  · rw [blank earlier inside] at found
    contradiction
  · exact (Record.allOfKind_cons_of_exact held).mpr ⟨rfl, same⟩ earlier inside other found

/-- The first field that mixes kinds is reported with the record that shows it. -/
theorem exists_mixes_of_not_unmixed {table : TableName}
    (shape : ∀ record ∈ records, record.values.length = schema.size)
    (mixed : ¬∀ field ∈ schema.fields, ∃ kind, Record.AllOfKind kind field records) :
    ∃ field record literal, Mixes schema records field record literal ∧
      ofRecords table schema records =
        .error (.malformed table record.reference field.name literal.text .mixedKinds) := by
  have mixing : ∃ field ∈ schema.fields, ¬∃ kind, Record.AllOfKind kind field records := by
    simpa using mixed
  obtain ⟨field, member, mixes⟩ := mixing
  obtain ⟨first, record, literal, shown⟩ := exists_mixedAt member mixes
  exact ⟨first, record, literal, shown.mixes, ofRecords_of_mixedAt table shape shown⟩

end Checks

/-- Records make a record set, and are kept in it as they are, exactly where each
has one value for each field and all literals of each field are of one kind.
Where a record has another number of values, the first such record is reported,
whatever kinds are mixed.  Where all have the right number, the first field in the
order of the schema that mixes kinds is, with the first record whose literal for
it is of another kind than the first literal. -/
theorem ofRecords_exact (table : TableName) (schema : Schema) (records : List Record) :
    ((∃ set, ofRecords table schema records = .ok set ∧
        set.table = table ∧ set.schema = schema ∧ set.records = records) ↔
      (∀ record ∈ records, record.values.length = schema.size) ∧
        ∀ field ∈ schema.fields, ∃ kind, Record.AllOfKind kind field records) ∧
      ((∃ record ∈ records, record.values.length ≠ schema.size) →
        ∃ record, Misshapes schema records record ∧
          ofRecords table schema records =
            .error (.schema table (.arity record.row record.values.length schema.size))) ∧
      ((∀ record ∈ records, record.values.length = schema.size) →
        (∃ field ∈ schema.fields, ¬∃ kind, Record.AllOfKind kind field records) →
        ∃ field record literal, MixedAt schema records field record literal ∧
          ofRecords table schema records =
            .error (.malformed table record.reference field.name literal.text .mixedKinds)) := by
  refine ⟨⟨?_, ?_⟩, ?_, ?_⟩
  · rintro ⟨set, made, -, rfl, rfl⟩
    refine ⟨set.arity, ?_⟩
    exact fun field member => exists_allOfKind_of_ofRecords made member
  · rintro ⟨shape, uniform⟩
    obtain ⟨set, made⟩ : ∃ set, ofRecords table schema records = .ok set :=
      exists_ofRecords_of_unmixed shape uniform
    exact ⟨set, made, ofRecords_eq_ok made⟩
  · rintro ⟨record, member, other⟩
    obtain ⟨first, misshapes⟩ := exists_misshapes member other
    exact ⟨first, misshapes, ofRecords_of_misshapes table misshapes⟩
  · rintro shape ⟨field, member, mixes⟩
    obtain ⟨first, record, literal, mixed⟩ := exists_mixedAt member mixes
    exact ⟨first, record, literal, mixed, ofRecords_of_mixedAt table shape mixed⟩

/-- The record without a value is reported, although the two before it mix kinds. -/
example :
    ofRecords .root ⟨["mode"], by decide, by decide, by decide⟩
      [⟨1, [.exact (.bool true)], "user", 1, 0, none⟩,
        ⟨2, [.exact (.int 1)], "kernel", 1, 1, none⟩, ⟨3, [], "nop", 1, 2, none⟩] =
      .error (.schema .root (.arity 3 0 1)) :=
  rfl

end OpcodeTables.RecordSet
