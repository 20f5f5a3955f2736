import Mathlib
import OpcodeTables.Proofs.DecisionTree.Ambiguity

/-!
# Conflicts that are reported

A table that has no tree is refused with a list of its records and, mostly, a
field.  The list is complete: it holds every record of the table that takes
part in the conflict and no other.  Either the records hold the same values
throughout, or they leave the field blank while a record that agrees with them
on all fields before holds a literal for it.

Building knows only the group that it has come down to.  `Clashes` is what it
reports there, and the report of a group is a report of the records that the
group was taken from.
-/

namespace OpcodeTables

/-- The last of some fields for which a record holds a literal. -/
def Record.lastExact? (fields : List Field) (record : Record) : Option Field :=
  fields.reverse.find? fun field => (record.value field).isExact

/-- The last field of a schema for which a vector of values holds a literal. -/
def Schema.lastExact? (schema : Schema) (values : List FieldValue) : Option Field :=
  schema.fields.reverse.find? fun field => (values.getD field.index .wildcard).isExact

/-- The records that hold what a record holds for each of some fields. -/
def agreeing (fields : List Field) (records : List Record) (record : Record) : List Record :=
  records.filter fun other => ∀ field ∈ fields, record.value field = other.value field

/-- The conflicts of a set: the records of the set that take part in one, and
the field at which it shows. -/
inductive RecordSet.Conflict (set : RecordSet) :
    Option Field → Ambiguity → List Record → Prop where
  /-- All records that hold one vector of values. -/
  | repeated (values : List FieldValue) :
      Conflict set (set.schema.lastExact? values) .exhausted
        (set.records.filter fun record => record.values = values)
  /-- All records that agree with any one of them before a field and leave the
  field blank, while one more record that agrees with them holds a literal. -/
  | contested {field : Field} {records : List Record} (member : field ∈ set.schema.fields)
      (complete : ∀ record ∈ records, records = set.records.filter fun other =>
        record.AgreeBefore set.schema.fields field other ∧ other.value field = .wildcard)
      (held : ∃ holder ∈ set.records, (holder.value field).isExact ∧
        ∀ record ∈ records, record.AgreeBefore set.schema.fields field holder) :
      Conflict set (some field) .multipleDefaults records

/-! ## One field less -/

section Fields

variable {first : Field} {rest : List Field} {records : List Record} {record other : Record}

theorem Record.lastExact?_cons (first : Field) (rest : List Field) (record : Record) :
    record.lastExact? (first :: rest) =
      (record.lastExact? rest).or (record.lastExact? [first]) := by
  rw [lastExact?, List.reverse_cons, List.find?_append]
  rfl

/-- Whether a single field is the last one depends on what is held for it. -/
theorem Record.lastExact?_singleton_congr (same : record.value first = other.value first) :
    record.lastExact? [first] = other.lastExact? [first] := by
  rw [lastExact?, lastExact?, List.reverse_singleton, List.find?_singleton, List.find?_singleton,
    same]

theorem agreeing_cons (first : Field) (rest : List Field) (records : List Record)
    (record : Record) :
    agreeing (first :: rest) records record = agreeing rest (alike first records record) record := by
  rw [agreeing, agreeing, alike, List.filter_filter]
  apply List.filter_congr
  intro other _
  rw [← Bool.decide_and, decide_eq_decide, List.forall_mem_cons, and_comm]

theorem Record.AgreeBefore.symm {fields : List Field} {field : Field}
    (agree : record.AgreeBefore fields field other) : other.AgreeBefore fields field record := by
  intro earlier member before
  exact (agree earlier member before).symm

theorem Record.AgreeBefore.trans {fields : List Field} {field : Field} {last : Record}
    (agree : record.AgreeBefore fields field other)
    (further : other.AgreeBefore fields field last) : record.AgreeBefore fields field last := by
  intro earlier member before
  exact (agree earlier member before).trans (further earlier member before)

/-- The records that leave a field blank among those that agree with a record
before it. -/
theorem DecisionTree.blankAt_sharing (fields : List Field) (field : Field) (records : List Record)
    (record : Record) :
    blankAt field (sharing fields field records record) = records.filter fun other =>
      record.AgreeBefore fields field other ∧ other.value field = .wildcard := by
  rw [blankAt, sharing, List.filter_filter]
  apply List.filter_congr
  intro other _
  rw [Bool.decide_and, Bool.and_comm]
  congr 1
  cases other.value field <;> rfl

end Fields

namespace DecisionTree

/-! ## Groups -/

/-- What may be reported of a group that is to be told apart by some fields,
`tested` being the last field tested before. -/
inductive Clashes (table : TableName) (fields : List Field) (tested : Option Field)
    (records : List Record) : Fault → Prop where
  | repeated {record : Record} (member : record ∈ records)
      (several : 1 < (agreeing fields records record).length) :
      Clashes table fields tested records
        (ambiguous table ((record.lastExact? fields).or tested) .exhausted
          (agreeing fields records record))
  | contested {field : Field} {holder : Record} (member : field ∈ fields)
      (inside : holder ∈ records) (exact : (holder.value field).isExact)
      (several : 1 < (blankAt field (sharing fields field records holder)).length) :
      Clashes table fields tested records
        (ambiguous table (some field) .multipleDefaults
          (blankAt field (sharing fields field records holder)))

section Groups

variable {table : TableName} {field : Field} {rest : List Field} {tested : Option Field}
  {records : List Record} {record : Record} {fault : Fault}

/-- What is reported of the records that are alike on the first field may be
reported of the whole group. -/
theorem Clashes.cons
    (clashes : Clashes table rest ((record.lastExact? [field]).or tested)
      (alike field records record) fault)
    (ascending : (field :: rest).Pairwise fun left right => left.index < right.index) :
    Clashes table (field :: rest) tested records fault := by
  cases clashes with
  | @repeated other inside several =>
      obtain ⟨among, same⟩ := mem_alike.mp inside
      have group : agreeing rest (alike field records record) other =
          agreeing (field :: rest) records other := by
        rw [agreeing_cons, alike_eq_of_mem inside]
      have last : (other.lastExact? rest).or ((record.lastExact? [field]).or tested) =
          (other.lastExact? (field :: rest)).or tested := by
        rw [Record.lastExact?_cons field rest, Record.lastExact?_singleton_congr same,
          Option.or_assoc]
      rw [group] at several ⊢
      rw [last]
      exact .repeated among several
  | @contested later holder belongs inside exact several =>
      have group : sharing rest later (alike field records record) holder =
          sharing (field :: rest) later records holder := by
        rw [sharing_rest ascending belongs, alike_eq_of_mem inside]
      rw [group] at several ⊢
      exact .contested (List.mem_cons_of_mem _ belongs) (mem_alike.mp inside).1 exact several

theorem one_lt_length_of_ofGroup {fields : List Field} (nonempty : records ≠ [])
    (failed : ofGroup table fields tested records = .error fault) : 1 < records.length := by
  have occupied := List.length_pos_iff.mpr nonempty
  have plural := length_ne_one_of_ofGroup failed
  omega

/-- Whatever building reports of a group is a conflict of the group. -/
theorem clashes_of_ofGroup {fields : List Field}
    (ascending : fields.Pairwise fun left right => left.index < right.index)
    (nonempty : records ≠ []) (failed : ofGroup table fields tested records = .error fault) :
    Clashes table fields tested records fault := by
  induction fields generalizing tested records with
  | nil =>
      have several := one_lt_length_of_ofGroup nonempty failed
      rw [ofGroup_nil several.ne'] at failed
      obtain rfl := Except.error.inj failed
      obtain ⟨record, member⟩ := List.exists_mem_of_ne_nil records nonempty
      have whole : agreeing [] records record = records := by
        simp [agreeing]
      have clashes : Clashes table [] tested records _ :=
        .repeated member (whole.symm ▸ several)
      rwa [whole] at clashes
  | cons field rest ih =>
      rw [ofGroup_cons (length_ne_one_of_ofGroup failed)] at failed
      split at failed
      · next decided =>
          obtain ⟨holder, member, exact⟩ := List.any_eq_true.mp decided
          rcases split_eq_error failed with ⟨blanks, rfl⟩ | ⟨literal, inside, below⟩
          · have whole : sharing (field :: rest) field records holder = records :=
              sharing_first ascending
            have clashes : Clashes table (field :: rest) tested records _ :=
              .contested List.mem_cons_self member exact (whole.symm ▸ blanks)
            rwa [whole] at clashes
          · obtain ⟨record, among, held⟩ := mem_literalsAt.mp inside
            have last : (record.lastExact? [field]).or tested = some field := by
              simp [Record.lastExact?, held, FieldValue.isExact]
            have part : alike field records record ≠ [] :=
              List.ne_nil_of_mem (mem_alike.mpr ⟨among, rfl⟩)
            rw [← alike_of_exact held] at below
            have clashes : Clashes table rest ((record.lastExact? [field]).or tested)
                (alike field records record) fault := by
              rw [last]
              exact ih ascending.tail part below
            exact clashes.cons ascending
      · next undecided =>
          have blank := blank_of_not_any undecided
          obtain ⟨record, member⟩ := List.exists_mem_of_ne_nil records nonempty
          have last : (record.lastExact? [field]).or tested = tested := by
            simp [Record.lastExact?, blank record member, FieldValue.isExact]
          have clashes : Clashes table rest ((record.lastExact? [field]).or tested)
              (alike field records record) fault := by
            rw [last, alike_eq_self blank member]
            exact ih ascending.tail nonempty failed
          exact clashes.cons ascending

end Groups

end DecisionTree

/-! ## Record sets -/

namespace RecordSet

variable {set : RecordSet}

/-- The records that agree with a record of the set on all fields of the schema
are those that hold its values. -/
theorem agreeing_fields {record : Record} (member : record ∈ set.records) :
    agreeing set.schema.fields set.records record =
      set.records.filter fun other => other.values = record.values := by
  apply List.filter_congr
  intro other inside
  rw [decide_eq_decide, ← values_eq_iff member inside, eq_comm]

/-- What is reported of all records of a set is one of its conflicts. -/
theorem exists_conflict_of_clashes {fault : Fault}
    (clashes : DecisionTree.Clashes set.table set.schema.fields none set.records fault) :
    ∃ tested reason records, fault = DecisionTree.ambiguous set.table tested reason records ∧
      2 ≤ records.length ∧ records.Sublist set.records ∧ set.Conflict tested reason records := by
  cases clashes with
  | @repeated record member several =>
      rw [Option.or_none]
      refine ⟨_, _, _, rfl, several, List.filter_sublist, ?_⟩
      rw [agreeing_fields member]
      exact .repeated record.values
  | @contested field holder member inside exact several =>
      refine ⟨_, _, _, rfl, several, List.filter_sublist.trans List.filter_sublist, ?_⟩
      rw [DecisionTree.blankAt_sharing]
      have agree (record : Record) (listed : record ∈ set.records.filter fun other =>
          holder.AgreeBefore set.schema.fields field other ∧ other.value field = .wildcard) :
          holder.AgreeBefore set.schema.fields field record :=
        (of_decide_eq_true (List.mem_filter.mp listed).2).1
      apply Conflict.contested member
      · intro record listed
        -- Agreeing with the holder and agreeing with the record are the same.
        apply List.filter_congr
        intro other _
        rw [decide_eq_decide]
        apply and_congr_left
        intro _
        exact ⟨(agree record listed).symm.trans, (agree record listed).trans⟩
      · refine ⟨holder, inside, exact, ?_⟩
        intro record listed
        exact (agree record listed).symm

end RecordSet

namespace DecisionTree

/-- A table is refused for a conflict of its records, and all records that take
part in it are listed, at least two and in the order of the table.  They are
all that hold the same values, reported at the last field for which these are a
literal, or all of a group that leave blank a field which another record of the
group holds a literal for, reported at that field. -/
theorem conflict_of_build {set : RecordSet} {table : TableName} {field : Option String}
    {reason : Ambiguity} {listed : List RecordRef}
    (failed : (build set).result = .error (.ambiguous table field reason listed)) :
    table = set.table ∧ ∃ tested records, field = tested.map Field.name ∧
      listed = records.map Record.reference ∧ 2 ≤ records.length ∧
      records.Sublist set.records ∧ set.Conflict tested reason records := by
  have unbuilt : ofRecordSet set = .error (.ambiguous table field reason listed) := failed
  rw [ofRecordSet] at unbuilt
  split at unbuilt
  · contradiction
  · next occupied =>
      have clashes := clashes_of_ofGroup set.schema.ascending (by simpa using occupied) unbuilt
      obtain ⟨tested, cause, records, same, parts⟩ := set.exists_conflict_of_clashes clashes
      obtain ⟨rfl, rfl, rfl, rfl⟩ := Fault.ambiguous.inj same
      exact ⟨rfl, tested, records, rfl, rfl, parts⟩

/-- Three rows that hold the same, below a field that is blank in their group. -/
def repeatedSet : RecordSet where
  table := ⟨"float"⟩
  schema := ⟨["fmt", "ft", "op"], by decide, by decide, by decide⟩
  records := [
    ⟨4, [.exact (.int 16), .wildcard, .exact (.int 6)], "mov", 1, 0, none⟩,
    ⟨5, [.exact (.int 20), .exact (.int 0), .wildcard], "cvt", 2, 1, none⟩,
    ⟨6, [.exact (.int 16), .wildcard, .exact (.int 6)], "movs", 1, 2, none⟩,
    ⟨7, [.exact (.int 16), .wildcard, .exact (.int 7)], "neg", 1, 3, none⟩,
    ⟨8, [.exact (.int 16), .wildcard, .exact (.int 6)], "movd", 1, 4, none⟩]
  arity := by decide

/-- Two rows that leave `fd` blank, beside one of their group that does not. -/
def contestedSet : RecordSet where
  table := .root
  schema := ⟨["fam", "fd", "fs"], by decide, by decide, by decide⟩
  records := [
    ⟨4, [.exact (.int 1), .wildcard, .exact (.int 6)], "lo", 1, 0, none⟩,
    ⟨5, [.exact (.int 1), .exact (.int 3), .wildcard], "mid", 1, 1, none⟩,
    ⟨6, [.exact (.int 2), .wildcard, .wildcard], "out", 1, 2, none⟩,
    ⟨7, [.exact (.int 1), .wildcard, .exact (.int 7)], "hi", 1, 3, none⟩]
  arity := by decide

/-- Rows that hold the same are reported at the last field that they hold a
literal for, and rows that contest a field at that field, the rows of other
groups aside. -/
theorem conflict_of_build_samples :
    (build repeatedSet).result =
        .error (.ambiguous ⟨"float"⟩ (some "op") .exhausted
          [⟨4, "mov"⟩, ⟨6, "movs"⟩, ⟨8, "movd"⟩]) ∧
      (∃ tested records, some "op" = tested.map Field.name ∧
        [⟨4, "mov"⟩, ⟨6, "movs"⟩, ⟨8, "movd"⟩] = records.map Record.reference ∧
        2 ≤ records.length ∧ records.Sublist repeatedSet.records ∧
        repeatedSet.Conflict tested .exhausted records) ∧
      (build contestedSet).result =
        .error (.ambiguous .root (some "fd") .multipleDefaults [⟨4, "lo"⟩, ⟨7, "hi"⟩]) ∧
      ∃ tested records, some "fd" = tested.map Field.name ∧
        [⟨4, "lo"⟩, ⟨7, "hi"⟩] = records.map Record.reference ∧
        2 ≤ records.length ∧ records.Sublist contestedSet.records ∧
        contestedSet.Conflict tested .multipleDefaults records := by
  have repeats : (build repeatedSet).result =
      .error (.ambiguous ⟨"float"⟩ (some "op") .exhausted
        [⟨4, "mov"⟩, ⟨6, "movs"⟩, ⟨8, "movd"⟩]) := by
    cbv
  have contests : (build contestedSet).result =
      .error (.ambiguous .root (some "fd") .multipleDefaults [⟨4, "lo"⟩, ⟨7, "hi"⟩]) := by
    cbv
  exact ⟨repeats, (conflict_of_build repeats).2, contests, (conflict_of_build contests).2⟩

end DecisionTree

end OpcodeTables
