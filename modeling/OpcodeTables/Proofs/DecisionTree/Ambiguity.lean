import Mathlib
import OpcodeTables.Proofs.DecisionTree.Selection

/-!
# When records can be told apart

Whether the tree of a table can be built is decided by its records alone.  No
two of them may hold the same throughout, and where some record holds a literal
for a field, at most one of those that agree with it before that field may
leave the field blank.

Both conditions pass from a group to the groups that its first field splits it
into, as building does.
-/

namespace OpcodeTables

/-- Records of which no two hold the same for each of some fields. -/
def Distinguished (fields : List Field) (records : List Record) : Prop :=
  records.Pairwise fun left right => ∃ field ∈ fields, left.value field ≠ right.value field

/-- Records of which at most one leaves a field blank among those that share
all before it with a record that holds a literal for it. -/
def Uncontested (fields : List Field) (records : List Record) : Prop :=
  ∀ field ∈ fields, ∀ record ∈ records, (record.value field).isExact →
    (DecisionTree.blankAt field (sharing fields field records record)).length ≤ 1

/-- Records that can be told apart by some fields, tested in their order. -/
structure Separable (fields : List Field) (records : List Record) : Prop where
  distinguished : Distinguished fields records
  uncontested : Uncontested fields records

/-- Where a relation goes both ways, it holds between any two positions. -/
theorem pairwise_iff_forall_ne {α : Type} {items : List α} {relation : α → α → Prop}
    (symm : ∀ left right, relation left right → relation right left) :
    items.Pairwise relation ↔
      ∀ left right : Fin items.length, left ≠ right → relation items[left] items[right] := by
  rw [List.pairwise_iff_getElem]
  constructor
  · intro ordered left right different
    rcases Nat.lt_or_gt_of_ne (Fin.val_ne_of_ne different) with before | after
    · exact ordered left right left.isLt right.isLt before
    · exact symm _ _ (ordered right left right.isLt left.isLt after)
  · intro every left right leftInside rightInside before
    exact every ⟨left, leftInside⟩ ⟨right, rightInside⟩ (Fin.ne_of_val_ne (Nat.ne_of_lt before))

/-- At most one item is kept if no two positions hold items that are. -/
theorem length_filter_le_one_iff {α : Type} {items : List α} {keep : α → Bool} :
    (items.filter keep).length ≤ 1 ↔
      ∀ left right : Fin items.length, left ≠ right → ¬(keep items[left] ∧ keep items[right]) := by
  have few : (items.filter keep).length ≤ 1 ↔ (items.filter keep).Pairwise fun _ _ => False := by
    rw [List.pairwise_iff_getElem]
    constructor
    · intro few left right _ inside before
      omega
    · intro apart
      by_contra several
      exact apart 0 1 (by omega) (by omega) (by omega)
  have symm (left right : α) (apart : ¬(keep left ∧ keep right)) : ¬(keep right ∧ keep left) :=
    fun both => apart ⟨both.2, both.1⟩
  rw [few, List.pairwise_filter, ← pairwise_iff_forall_ne symm]
  simp only [imp_false, not_and]

section Groups

variable {first : Field} {rest : List Field} {records : List Record} {record other : Record}

theorem mem_alike : other ∈ alike first records record ↔
    other ∈ records ∧ record.value first = other.value first := by
  simp [alike]

theorem alike_eq_of_mem (member : other ∈ alike first records record) :
    alike first records other = alike first records record := by
  rw [alike, alike, (mem_alike.mp member).2]

/-- Two records differ if they differ on the first field or, being alike
there, on a later one. -/
theorem distinguished_cons :
    Distinguished (first :: rest) records ↔
      ∀ record ∈ records, Distinguished rest (alike first records record) := by
  simp only [Distinguished, alike, List.pairwise_filter, decide_eq_true_eq]
  constructor
  · intro distinct record _
    apply distinct.imp
    rintro left right ⟨field, member, differ⟩ leftAlike rightAlike
    rcases List.mem_cons.mp member with rfl | member
    · exact absurd (leftAlike.symm.trans rightAlike) differ
    · exact ⟨field, member, differ⟩
  · intro distinct
    rw [List.pairwise_iff_getElem]
    intro left right leftInside rightInside before
    by_cases same : records[left].value first = records[right].value first
    · have later := distinct records[left] (List.getElem_mem leftInside)
      rw [List.pairwise_iff_getElem] at later
      obtain ⟨field, member, differ⟩ := later left right leftInside rightInside before rfl same
      exact ⟨field, List.mem_cons_of_mem _ member, differ⟩
    · exact ⟨first, List.mem_cons_self, same⟩

theorem uncontested_cons (ascending : (first :: rest).Pairwise fun left right =>
      left.index < right.index) :
    Uncontested (first :: rest) records ↔
      (∀ record ∈ records, (record.value first).isExact →
        (DecisionTree.blankAt first records).length ≤ 1) ∧
      ∀ record ∈ records, Uncontested rest (alike first records record) := by
  rw [Uncontested, List.forall_mem_cons]
  refine and_congr ?_ ?_
  · apply forall₂_congr
    intro record _
    rw [sharing_first ascending]
  · constructor
    · intro uncontested record _ field member other inside exact
      rw [← alike_eq_of_mem inside, ← sharing_rest ascending member]
      exact uncontested field member other (mem_alike.mp inside).1 exact
    · intro uncontested field member record inside exact
      rw [sharing_rest ascending member]
      exact uncontested record inside field member record (mem_alike.mpr ⟨inside, rfl⟩) exact

/-- Records can be told apart if no field is contested that some record holds a
literal for, and if the records that are alike on it can be told apart. -/
theorem separable_cons (ascending : (first :: rest).Pairwise fun left right =>
      left.index < right.index) :
    Separable (first :: rest) records ↔
      (∀ record ∈ records, (record.value first).isExact →
        (DecisionTree.blankAt first records).length ≤ 1) ∧
      ∀ record ∈ records, Separable rest (alike first records record) := by
  constructor
  · rintro ⟨distinct, uncontested⟩
    rw [distinguished_cons] at distinct
    rw [uncontested_cons ascending] at uncontested
    exact ⟨uncontested.1, fun record member =>
      ⟨distinct record member, uncontested.2 record member⟩⟩
  · rintro ⟨here, below⟩
    constructor
    · rw [distinguished_cons]
      exact fun record member => (below record member).distinguished
    · rw [uncontested_cons ascending]
      exact ⟨here, fun record member => (below record member).uncontested⟩

/-- A group of at most one record has nothing to be told apart. -/
theorem separable_of_length_le_one {fields : List Field} (single : records.length ≤ 1) :
    Separable fields records := by
  constructor
  · rw [Distinguished, List.pairwise_iff_getElem]
    intro left right _ inside before
    omega
  · intro field _ record _ _
    exact (List.length_filter_le _ _).trans ((List.length_filter_le _ _).trans single)

/-- Where all records of a group hold the same for a field, each is alike with
every other. -/
theorem alike_eq_self (blank : ∀ other ∈ records, other.value first = .wildcard)
    (member : record ∈ records) : alike first records record = records := by
  apply List.filter_eq_self.mpr
  intro other inside
  simp [blank record member, blank other inside]

end Groups

namespace DecisionTree

variable {table : TableName} {field : Field} {rest : List Field} {tested : Option Field}
  {records : List Record}

/-! ## One round of building -/

/-- A split succeeds if its field is left blank at most once and every part is
built. -/
theorem exists_split_iff {build : List Record → Except Fault DecisionTree} :
    (∃ tree, split table field records build = .ok tree) ↔
      (blankAt field records).length ≤ 1 ∧
        ∀ literal ∈ literalsAt field records,
          ∃ child, build (recordsAt field literal records) = .ok child := by
  constructor
  · rintro ⟨tree, built⟩
    obtain ⟨defaults, arms, literals, below, -⟩ := split_eq_ok built
    refine ⟨defaults, ?_⟩
    intro literal member
    rw [← literals] at member
    obtain ⟨arm, inside, rfl⟩ := List.mem_map.mp member
    exact ⟨arm.2, below arm inside⟩
  · rintro ⟨defaults, parts⟩
    cases result : split table field records build with
    | ok tree => exact ⟨tree, rfl⟩
    | error fault =>
        rcases split_eq_error result with ⟨several, -⟩ | ⟨literal, member, failed⟩
        · exact absurd defaults (Nat.not_le_of_lt several)
        · obtain ⟨child, built⟩ := parts literal member
          rw [failed] at built
          contradiction

/-! ## Whole groups -/

/-- A field that some record holds a literal for splits its group: at most one
record may leave it blank, and the records of each literal have to be told
apart further on. -/
theorem separable_cons_of_exact (ascending : (field :: rest).Pairwise fun left right =>
      left.index < right.index) {holder : Record} (member : holder ∈ records)
    (exact : (holder.value field).isExact) :
    Separable (field :: rest) records ↔
      (blankAt field records).length ≤ 1 ∧
        ∀ literal ∈ literalsAt field records, Separable rest (recordsAt field literal records) := by
  rw [separable_cons ascending]
  constructor
  · rintro ⟨here, below⟩
    refine ⟨here holder member exact, ?_⟩
    intro literal inside
    obtain ⟨record, among, held⟩ := mem_literalsAt.mp inside
    rw [← alike_of_exact held]
    exact below record among
  · rintro ⟨defaults, below⟩
    refine ⟨fun _ _ _ => defaults, ?_⟩
    intro record among
    cases held : record.value field with
    | exact literal =>
        rw [alike_of_exact held]
        exact below literal (mem_literalsAt.mpr ⟨record, among, held⟩)
    | wildcard =>
        rw [alike_of_wildcard held]
        exact separable_of_length_le_one defaults

/-- A field that is blank throughout tells nothing apart. -/
theorem separable_cons_of_blank (ascending : (field :: rest).Pairwise fun left right =>
      left.index < right.index) (nonempty : records ≠ [])
    (blank : ∀ record ∈ records, record.value field = .wildcard) :
    Separable (field :: rest) records ↔ Separable rest records := by
  rw [separable_cons ascending]
  constructor
  · rintro ⟨-, below⟩
    obtain ⟨record, member⟩ := List.exists_mem_of_ne_nil records nonempty
    rw [← alike_eq_self blank member]
    exact below record member
  · intro separable
    constructor
    · intro record member exact
      rw [blank record member] at exact
      contradiction
    · intro record member
      rwa [alike_eq_self blank member]

/-- A group is built if its records can be told apart. -/
theorem exists_ofGroup_iff {fields : List Field}
    (ascending : fields.Pairwise fun left right => left.index < right.index)
    (nonempty : records ≠ []) :
    (∃ tree, ofGroup table fields tested records = .ok tree) ↔ Separable fields records := by
  induction fields generalizing tested records with
  | nil =>
      by_cases single : records.length = 1
      · obtain ⟨record, rfl⟩ := List.length_eq_one_iff.mp single
        simp [ofGroup_single, separable_of_length_le_one]
      · have several := List.length_pos_iff.mpr nonempty
        rw [ofGroup_nil single]
        simp only [reduceCtorEq, exists_false, false_iff]
        intro separable
        have pairs := List.pairwise_iff_getElem.mp separable.distinguished
        obtain ⟨field, member, -⟩ := pairs 0 1 (by omega) (by omega) (by omega)
        contradiction
  | cons field rest ih =>
      by_cases single : records.length = 1
      · obtain ⟨record, rfl⟩ := List.length_eq_one_iff.mp single
        simp [ofGroup_single, separable_of_length_le_one]
      · rw [ofGroup_cons single]
        split
        · next decided =>
            obtain ⟨holder, member, exact⟩ := List.any_eq_true.mp decided
            rw [exists_split_iff, separable_cons_of_exact ascending member exact]
            apply and_congr_right
            intro _
            apply forall₂_congr
            intro literal inside
            obtain ⟨record, among, held⟩ := mem_literalsAt.mp inside
            have part : record ∈ recordsAt field literal records := by
              simp [recordsAt, among, held]
            exact ih ascending.tail (List.ne_nil_of_mem part)
        · next undecided =>
            have blank := blank_of_not_any undecided
            rw [separable_cons_of_blank ascending nonempty blank]
            exact ih ascending.tail nonempty

end DecisionTree

/-! ## Record sets -/

namespace RecordSet

/-- Two positions whose records hold the same values throughout. -/
def Repeats (set : RecordSet) (left right : Fin set.records.length) : Prop :=
  left ≠ right ∧ set.records[left].values = set.records[right].values

/-- Two positions that are blank for a field, while a third holds a literal for
it and all three agree on the fields before it. -/
structure Contests (set : RecordSet) (field : Field)
    (left right holder : Fin set.records.length) : Prop where
  different : left ≠ right
  agreeLeft : set.records[holder].AgreeBefore set.schema.fields field set.records[left]
  agreeRight : set.records[holder].AgreeBefore set.schema.fields field set.records[right]
  blankLeft : set.records[left].value field = .wildcard
  blankRight : set.records[right].value field = .wildcard
  held : ∃ literal, set.records[holder].value field = .exact literal

/-- Records of a set hold the same for each field of its schema exactly where
their values are the same. -/
theorem values_eq_iff {set : RecordSet} {left right : Record} (leftMember : left ∈ set.records)
    (rightMember : right ∈ set.records) :
    left.values = right.values ↔
      ∀ field ∈ set.schema.fields, left.value field = right.value field := by
  constructor
  · intro same field _
    rw [Record.value, Record.value, same]
  · intro same
    apply List.ext_getElem
    · rw [set.arity left leftMember, set.arity right rightMember]
    · intro index leftInside rightInside
      have inside : index < set.schema.names.length := by
        rwa [set.arity left leftMember] at leftInside
      have held := same ⟨index, set.schema.names[index]⟩
        (List.mem_mapIdx.mpr ⟨index, inside, rfl⟩)
      simpa [Record.value, leftInside, rightInside] using held

theorem distinguished_iff {set : RecordSet} :
    Distinguished set.schema.fields set.records ↔
      ∀ left right, ¬set.Repeats left right := by
  rw [Distinguished, pairwise_iff_forall_ne]
  · apply forall₂_congr
    intro left right
    simp only [Repeats, not_and, values_eq_iff (List.getElem_mem left.isLt)
      (List.getElem_mem right.isLt), Fin.getElem_fin, not_forall, exists_prop]
  · rintro left right ⟨field, member, differ⟩
    exact ⟨field, member, differ.symm⟩

theorem uncontested_iff {set : RecordSet} :
    Uncontested set.schema.fields set.records ↔
      ∀ field ∈ set.schema.fields, ∀ left right holder,
        ¬set.Contests field left right holder := by
  apply forall₂_congr
  intro field _
  simp only [DecisionTree.blankAt, sharing, List.filter_filter, length_filter_le_one_iff,
    Bool.and_eq_true, Bool.not_eq_true', FieldValue.isExact_eq_false, decide_eq_true_eq]
  constructor
  · intro apart left right holder contest
    exact apart _ (List.getElem_mem holder.isLt) (FieldValue.isExact_iff.mpr contest.held) left
      right contest.different
      ⟨⟨contest.blankLeft, contest.agreeLeft⟩, contest.blankRight, contest.agreeRight⟩
  · rintro uncontested record member exact left right different ⟨keepLeft, keepRight⟩
    obtain ⟨index, inside, rfl⟩ := List.mem_iff_getElem.mp member
    exact uncontested left right ⟨index, inside⟩
      ⟨different, keepLeft.2, keepRight.2, keepLeft.1, keepRight.1, FieldValue.isExact_iff.mp exact⟩

end RecordSet

namespace DecisionTree

/-- The tree of a table is built exactly if no two of its records hold the same
values throughout and no three contest a field: two that leave it blank and one
that holds a literal for it, all agreeing on the fields before. -/
theorem exists_build_iff (set : RecordSet) :
    (∃ tree, (build set).result = .ok tree) ↔
      (∀ left right, ¬set.Repeats left right) ∧
        ∀ field ∈ set.schema.fields, ∀ left right holder,
          ¬set.Contests field left right holder := by
  rw [← RecordSet.distinguished_iff, ← RecordSet.uncontested_iff]
  change (∃ tree, ofRecordSet set = .ok tree) ↔ _
  rw [ofRecordSet]
  split
  · next empty =>
      have none_left : set.records.length ≤ 1 := by simp_all
      have separable : Separable set.schema.fields set.records :=
        separable_of_length_le_one none_left
      simp [separable.distinguished, separable.uncontested]
  · next occupied =>
      rw [exists_ofGroup_iff set.schema.ascending (by simpa using occupied)]
      exact ⟨fun separable => ⟨separable.1, separable.2⟩, fun both => ⟨both.1, both.2⟩⟩

end DecisionTree

end OpcodeTables
