import Mathlib
import OpcodeTables.Proofs.DecisionTree.Growth

/-!
# Which record a vector of values selects

The tree of a table answers a vector of values with the leaf of one record, or
with nothing.  `RecordSet.Selects` says which record that is without a tree:
each field in turn is held against the records that agree with it on all
fields before.  As soon as no other record does, the remaining fields are free.

Building follows the same groups, so the records that share the values of a
record before a field are what every argument here is about.
-/

namespace OpcodeTables

/-- Two records hold the same on every field before a given one. -/
def Record.AgreeBefore (fields : List Field) (field : Field) (left right : Record) : Prop :=
  ∀ earlier ∈ fields, earlier.index < field.index → left.value earlier = right.value earlier

instance (fields : List Field) (field : Field) (left right : Record) :
    Decidable (left.AgreeBefore fields field right) :=
  inferInstanceAs (Decidable (∀ earlier ∈ fields, earlier.index < field.index →
    left.value earlier = right.value earlier))

/-- The records that agree with a record before a field, the record among them. -/
def sharing (fields : List Field) (field : Field) (records : List Record) (record : Record) :
    List Record :=
  records.filter fun other => record.AgreeBefore fields field other

/-- Whether a record of a group allows a value for a field: the literal that it
holds, or any value that nobody of the group holds where it holds none. -/
def Allows (value : Option Literal) (field : Field) (group : List Record) (record : Record) :
    Prop :=
  match record.value field with
  | .exact literal => value = some literal
  | .wildcard => ∀ other ∈ group, ∀ literal ∈ value, other.value field ≠ .exact literal

instance (value : Option Literal) (field : Field) (group : List Record) (record : Record) :
    Decidable (Allows value field group record) :=
  match held : record.value field with
  | .exact literal => decidable_of_iff (value = some literal) (by simp [Allows, held])
  | .wildcard =>
      decidable_of_iff (∀ other ∈ group, ∀ literal ∈ value, other.value field ≠ .exact literal)
        (by simp [Allows, held])

/-- A record is selected if it allows the value of every field before which
some other record agrees with it. -/
def Selected (read : Field → Option Literal) (fields : List Field) (records : List Record)
    (record : Record) : Prop :=
  ∀ field ∈ fields, 1 < (sharing fields field records record).length →
    Allows (read field) field (sharing fields field records record) record

instance (read : Field → Option Literal) (fields : List Field) (records : List Record)
    (record : Record) : Decidable (Selected read fields records record) :=
  inferInstanceAs (Decidable (∀ field ∈ fields,
    1 < (sharing fields field records record).length →
      Allows (read field) field (sharing fields field records record) record))

/-- Whether a vector of values, one for each field of the schema, selects a
record of the set. -/
def RecordSet.Selects (set : RecordSet) (values : List Literal) (record : Record) : Prop :=
  Selected (fun field => values[field.index]?) set.schema.fields set.records record

instance (set : RecordSet) (values : List Literal) (record : Record) :
    Decidable (set.Selects values record) :=
  inferInstanceAs (Decidable (Selected (fun field => values[field.index]?)
    set.schema.fields set.records record))

/-! ## Descending into a group -/

section Groups

variable {read : Field → Option Literal} {first field : Field} {rest : List Field}
  {records : List Record} {record : Record}

/-- The records of a group that hold what a record holds for a field. -/
def alike (field : Field) (records : List Record) (record : Record) : List Record :=
  records.filter fun other => record.value field = other.value field

theorem alike_of_exact {literal : Literal} (held : record.value first = .exact literal) :
    alike first records record = DecisionTree.recordsAt first literal records := by
  simp [alike, DecisionTree.recordsAt, held, eq_comm]

theorem alike_of_wildcard (blank : record.value first = .wildcard) :
    alike first records record = DecisionTree.blankAt first records := by
  rw [alike, DecisionTree.blankAt]
  apply List.filter_congr
  intro other _
  rw [blank]
  cases other.value first <;> simp [FieldValue.isExact]

/-- Before the first field every record agrees with every other. -/
theorem sharing_first (ascending : (first :: rest).Pairwise fun left right =>
      left.index < right.index) :
    sharing (first :: rest) first records record = records := by
  apply List.filter_eq_self.mpr
  intro other _
  simp only [decide_eq_true_eq]
  intro earlier member before
  rcases List.mem_cons.mp member with rfl | member
  · exact absurd before (Nat.lt_irrefl _)
  · exact absurd (List.rel_of_pairwise_cons ascending member) (Nat.lt_asymm before)

/-- The records that agree before a later field agree on the first field, and
then on the fields between. -/
theorem sharing_rest (ascending : (first :: rest).Pairwise fun left right =>
      left.index < right.index) (member : field ∈ rest) :
    sharing (first :: rest) field records record =
      sharing rest field (alike first records record) record := by
  rw [sharing, sharing, alike, List.filter_filter]
  apply List.filter_congr
  intro other _
  have later := List.rel_of_pairwise_cons ascending member
  rw [← Bool.decide_and, decide_eq_decide]
  simp only [Record.AgreeBefore, List.mem_cons, forall_eq_or_imp, later, forall_const, and_comm]

theorem selected_cons (ascending : (first :: rest).Pairwise fun left right =>
      left.index < right.index) :
    Selected read (first :: rest) records record ↔
      (1 < records.length → Allows (read first) first records record) ∧
        Selected read rest (alike first records record) record := by
  rw [Selected]
  rw [List.forall_mem_cons, sharing_first ascending]
  apply and_congr_right
  intro _
  apply forall₂_congr
  intro field member
  rw [sharing_rest ascending member]

/-- A group of at most one record selects it, whatever the values are. -/
theorem selected_of_length_le_one {fields : List Field} (single : records.length ≤ 1) :
    Selected read fields records record := by
  intro field _ several
  have fewer := List.length_filter_le (fun other => record.AgreeBefore fields field other) records
  exact absurd several (Nat.not_lt.mpr (Nat.le_trans fewer single))

end Groups

/-! ## Trees answer with the selected record -/

namespace DecisionTree

variable {read : Field → Option Literal} {field : Field} {rest : List Field}
  {records : List Record}

/-- Where the group has an arm for the value of its field, the records of that
arm are left to select from. -/
theorem selected_iff_of_mem (ascending : (field :: rest).Pairwise fun left right =>
      left.index < right.index) (several : 1 < records.length) {literal : Literal}
    (value : read field = some literal) (member : literal ∈ literalsAt field records)
    (record : Record) :
    Selected read (field :: rest) records record ↔
      record.value field = .exact literal ∧
        Selected read rest (recordsAt field literal records) record := by
  rw [selected_cons ascending]
  cases held : record.value field with
  | exact other =>
      rw [alike_of_exact held]
      simp only [several, Allows, held, value, forall_const, Option.some.injEq,
        FieldValue.exact.injEq]
      constructor
      · rintro ⟨rfl, selected⟩
        exact ⟨rfl, selected⟩
      · rintro ⟨rfl, selected⟩
        exact ⟨rfl, selected⟩
  | wildcard =>
      obtain ⟨holder, inside, holds⟩ := mem_literalsAt.mp member
      simp only [several, Allows, held, value, forall_const, reduceCtorEq, false_and, iff_false,
        not_and]
      intro unheld
      exact absurd holds (unheld holder inside literal rfl)

/-- Where the group has no arm for the value of its field, the record that
leaves the field blank is the only one left. -/
theorem selected_iff_of_forall_ne (ascending : (field :: rest).Pairwise fun left right =>
      left.index < right.index) (several : 1 < records.length)
    (defaults : (blankAt field records).length ≤ 1)
    (absent : ∀ literal ∈ literalsAt field records, read field ≠ some literal)
    {record : Record} (member : record ∈ records) :
    Selected read (field :: rest) records record ↔ record.value field = .wildcard := by
  rw [selected_cons ascending]
  cases held : record.value field with
  | exact literal =>
      have unread := absent literal (mem_literalsAt.mpr ⟨record, member, held⟩)
      simp [several, Allows, held, unread]
  | wildcard =>
      rw [alike_of_wildcard held]
      simp only [several, Allows, held, forall_const, iff_true]
      refine ⟨?_, selected_of_length_le_one defaults⟩
      intro other inside literal value holds
      exact absent literal (mem_literalsAt.mpr ⟨other, inside, holds⟩) value

/-- A field that is blank throughout a group selects nothing and excludes
nothing. -/
theorem selected_iff_of_blank (ascending : (field :: rest).Pairwise fun left right =>
      left.index < right.index) (blank : ∀ record ∈ records, record.value field = .wildcard)
    {record : Record} (member : record ∈ records) :
    Selected read (field :: rest) records record ↔ Selected read rest records record := by
  have whole : alike field records record = records := by
    apply List.filter_eq_self.mpr
    intro other inside
    simp [blank record member, blank other inside]
  rw [selected_cons ascending, whole, and_iff_right_iff_imp]
  intro _ _
  simp only [Allows, blank record member]
  intro other inside literal _
  simp [blank other inside]

/-- The tree of a group answers with the leaf of the selected record. -/
theorem selected_of_grows {fields : List Field} {tree : DecisionTree}
    (grows : Grows fields records tree)
    (ascending : fields.Pairwise fun left right => left.index < right.index) :
    (records.filter (Selected read fields records)).map Record.leaf =
      (tree.follow read).toOption.toList := by
  induction grows with
  | single =>
      rename_i fields record
      have only : [record].filter (Selected read fields [record]) = [record] := by
        simp [selected_of_length_le_one]
      rw [only]
      simp [follow, Except.toOption]
  | skip blank grows ih =>
      rw [← ih ascending.tail]
      congr 1
      apply List.filter_congr
      intro record member
      rw [decide_eq_decide]
      exact selected_iff_of_blank ascending blank member
  | @branch field rest records arms several defaults literals below ih =>
      rw [follow_branch]
      by_cases absent : ∀ literal ∈ literalsAt field records, read field ≠ some literal
      · rw [chosen_of_forall_ne]
        · have blanks : records.filter (Selected read (field :: rest) records) =
              blankAt field records := by
            apply List.filter_congr
            intro record member
            have blank := selected_iff_of_forall_ne ascending several defaults absent member
            cases held : record.value field <;> simp_all [FieldValue.isExact]
          rw [blanks]
          cases left : blankAt field records with
          | nil => rfl
          | cons record others =>
              rw [left, List.length_cons, Nat.succ_le_succ_iff, Nat.le_zero,
                List.length_eq_zero_iff] at defaults
              simp [defaults, follow, Except.toOption]
        · intro arm member
          apply absent
          exact literals ▸ List.mem_map_of_mem member
      · obtain ⟨literal, member, value⟩ :
            ∃ literal ∈ literalsAt field records, read field = some literal := by
          simpa using absent
        obtain ⟨child, inside, choice⟩ := chosen_of_mem (literals ▸ member)
        rw [value, choice]
        dsimp only
        rw [← ih _ inside ascending.tail]
        conv_rhs => rw [recordsAt, List.filter_filter]
        congr 1
        apply List.filter_congr
        intro record _
        rw [← Bool.decide_and, decide_eq_decide, and_comm]
        exact selected_iff_of_mem ascending several value member record

end DecisionTree

/-- The fields of a schema ascend by position. -/
theorem Schema.ascending (schema : Schema) :
    schema.fields.Pairwise fun left right => left.index < right.index := by
  rw [List.pairwise_iff_getElem]
  intro left right _ _ before
  simpa [fields] using before

namespace DecisionTree

/-- The leaves of the selected records are what a query of the tree answers. -/
theorem map_leaf_selects {set : RecordSet} {tree : DecisionTree}
    (built : (build set).result = .ok tree) (values : List Literal) :
    (set.records.filter (set.Selects values)).map Record.leaf = (tree.query values).toList := by
  by_cases empty : set.records = []
  · obtain rfl := eq_of_build_of_empty built empty
    rw [query, follow_branch]
    simp [empty, chosen, Except.toOption]
  · exact selected_of_grows (grows_of_build built empty) set.schema.ascending

/-- The tree of a table decodes a vector of values to the record that the
vector selects: there is at most one, its leaf is the answer, and without one
there is no answer. -/
theorem query_of_build {set : RecordSet} {tree : DecisionTree}
    (built : (build set).result = .ok tree) (values : List Literal) :
    (set.records.filter (set.Selects values)).length ≤ 1 ∧
      (∀ record ∈ set.records, set.Selects values record →
        tree.query values = some record.leaf) ∧
      ((∀ record ∈ set.records, ¬set.Selects values record) → tree.query values = none) := by
  have answers := map_leaf_selects built values
  refine ⟨?_, ?_, ?_⟩
  · have counted := congrArg List.length answers
    rw [List.length_map] at counted
    rw [counted]
    cases tree.query values <;> simp
  · intro record member selects
    have inside : record.leaf ∈ (tree.query values).toList := by
      rw [← answers]
      exact List.mem_map_of_mem (List.mem_filter.mpr ⟨member, by simpa using selects⟩)
    simpa [eq_comm] using inside
  · intro unselected
    have none_selected : set.records.filter (set.Selects values) = [] := by
      rw [List.filter_eq_nil_iff]
      intro record member
      simpa using unselected record member
    rw [none_selected] at answers
    simpa using answers.symm

/-- A table in which `rs` is blank in one row of opcode 16 and decides nothing
below opcode 2. -/
def coprocessorSet : RecordSet where
  table := .root
  schema := ⟨["opcode", "rs", "funct"], by decide, by decide, by decide⟩
  records := [
    ⟨4, [.exact (.int 16), .exact (.int 0), .wildcard], "mfc0", 1, 0, none⟩,
    ⟨5, [.exact (.int 16), .exact (.int 4), .wildcard], "mtc0", 1, 1, none⟩,
    ⟨6, [.exact (.int 16), .wildcard, .exact (.int 16)], "rfe", 1, 2, none⟩,
    ⟨7, [.exact (.int 2), .wildcard, .wildcard], "j", 1, 3, none⟩]
  arity := by decide

/-- The tree of `coprocessorSet`. -/
def coprocessorTree : DecisionTree :=
  .branch ⟨0, "opcode"⟩ [
    (.int 2, .leaf ⟨"j", 1, 3, none⟩),
    (.int 16, .branch ⟨1, "rs"⟩ [
      (.int 0, .leaf ⟨"mfc0", 1, 0, none⟩),
      (.int 4, .leaf ⟨"mtc0", 1, 1, none⟩)] (some (.leaf ⟨"rfe", 1, 2, none⟩)))] none

theorem build_coprocessorSet : (build coprocessorSet).result = .ok coprocessorTree := by
  cbv

/-- The row of `rfe` holds 16 for `funct`, and still 3 decodes to it: no other
row agrees with it on `rs`. -/
theorem query_coprocessorSet :
    (build coprocessorSet).result = .ok coprocessorTree ∧
      (coprocessorSet.records.filter
        (coprocessorSet.Selects [.int 16, .int 7, .int 3])).length ≤ 1 ∧
      coprocessorTree.query [.int 16, .int 7, .int 3] = some ⟨"rfe", 1, 2, none⟩ ∧
      coprocessorTree.query [.int 3, .int 7, .int 3] = none := by
  have built := build_coprocessorSet
  refine ⟨built, (query_of_build built _).1, ?_, ?_⟩
  · apply (query_of_build built _).2.1
      ⟨6, [.exact (.int 16), .wildcard, .exact (.int 16)], "rfe", 1, 2, none⟩
    · decide
    · decide
  · apply (query_of_build built _).2.2
    decide

end DecisionTree

end OpcodeTables
