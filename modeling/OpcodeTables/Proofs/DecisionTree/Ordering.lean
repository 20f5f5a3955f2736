import Mathlib.Data.List.Lex
import Mathlib.Data.List.Nodup
import Mathlib.Order.WithBot
import OpcodeTables.Proofs.DecisionTree.RowOrder
import OpcodeTables.Proofs.DecisionTree.Subtrees

/-!
# The order of leaves

Building splits the records of a table into groups and those into further
groups.  Read from left to right, the leaves that come of it are the records
sorted by their values, field after field, where a blank comes after every
literal.  Passing over fields and turning single records into leaves early
leaves no trace in that order.
-/

namespace OpcodeTables

namespace FieldValue

/-- Where a field value stands among those of one field: literals by their
order, and a blank after all of them. -/
def place : FieldValue → WithTop Nat
  | .exact literal => WithTop.some literal.rank
  | .wildcard => ⊤

theorem place_injective : Function.Injective place := by
  intro left right same
  cases left with
  | wildcard =>
      cases right with
      | wildcard => rfl
      | exact literal => exact absurd same.symm WithTop.coe_ne_top
  | exact literal =>
      cases right with
      | wildcard => exact absurd same WithTop.coe_ne_top
      | exact other => rw [Literal.rank_injective (WithTop.coe_inj.mp same)]

instance : LinearOrder FieldValue :=
  LinearOrder.lift' place place_injective

theorem exact_lt_exact {left right : Literal} :
    FieldValue.exact left < .exact right ↔ left < right :=
  WithTop.coe_lt_coe

theorem exact_lt_wildcard (literal : Literal) : FieldValue.exact literal < .wildcard :=
  WithTop.coe_lt_top _

end FieldValue

/-- The records of a set by their values, which are compared field after field. -/
def RecordSet.sorted (set : RecordSet) : List Record :=
  set.records.mergeSort fun left right => decide (left.values ≤ right.values)

namespace DecisionTree

/-! ## Groups of one field -/

section Groups

variable {field : Field} {records : List Record}

/-- Leaving out repetitions makes an ascending list of literals ascend strictly. -/
theorem pairwise_lt_eraseDups {literals : List Literal} (sorted : literals.Pairwise (· ≤ ·)) :
    literals.eraseDups.Pairwise (· < ·) := by
  induction size : literals.length using Nat.strong_induction_on generalizing literals with
  | _ size ih =>
      cases literals with
      | nil => exact .nil
      | cons literal rest =>
          obtain ⟨least, ascending⟩ := List.pairwise_cons.mp sorted
          rw [List.eraseDups_cons, List.pairwise_cons]
          constructor
          · intro other member
            rw [List.mem_eraseDups, List.mem_filter] at member
            have different : literal ≠ other := by
              intro same
              simp [same] at member
            have above := Literal.le_def.mp (least other member.1)
            rw [Literal.lt_def]
            exact Nat.lt_of_le_of_ne above fun same => different (Literal.rank_injective same)
          · apply ih _ _ (ascending.filter _) rfl
            rw [← size]
            exact Nat.lt_succ_of_le (List.length_filter_le _ _)

/-- The literals that a field is split by ascend strictly. -/
theorem pairwise_literalsAt (field : Field) (records : List Record) :
    (literalsAt field records).Pairwise (· < ·) :=
  pairwise_lt_eraseDups (pairwise_sort _)

/-- The records of each of some literals make up the records that hold one of
them. -/
theorem flatMap_recordsAt_perm {literals : List Literal} (nodup : literals.Nodup) :
    (literals.flatMap fun literal => recordsAt field literal records).Perm
      (records.filter fun record => ∃ literal ∈ literals, record.value field = .exact literal) := by
  induction literals with
  | nil => simp
  | cons literal rest ih =>
      obtain ⟨fresh, distinct⟩ := List.nodup_cons.mp nodup
      let here (record : Record) : Bool := record.value field = .exact literal
      let holders := records.filter fun record =>
        ∃ other ∈ literal :: rest, record.value field = .exact other
      have first : recordsAt field literal records = holders.filter here := by
        rw [recordsAt, List.filter_filter]
        apply List.filter_congr
        intro record _
        by_cases held : record.value field = .exact literal <;> simp [here, held]
      have others : (records.filter fun record =>
          ∃ other ∈ rest, record.value field = .exact other) =
            holders.filter fun record => !here record := by
        rw [List.filter_filter]
        apply List.filter_congr
        intro record _
        by_cases held : record.value field = .exact literal
        · simp [here, held, fresh]
        · simp [here, held]
      rw [List.flatMap_cons, first]
      apply List.Perm.trans ((ih distinct).append_left _)
      rw [others]
      exact List.filter_append_perm here holders

/-- Splitting a group loses no record and repeats none. -/
theorem flatMap_literalsAt_perm (field : Field) (records : List Record) :
    ((literalsAt field records).flatMap (fun literal => recordsAt field literal records) ++
      blankAt field records).Perm records := by
  have nodup : (literalsAt field records).Nodup := by
    apply (pairwise_literalsAt field records).imp
    intro left right before same
    exact absurd before (same ▸ Nat.lt_irrefl _)
  have holders : (records.filter fun record =>
      ∃ literal ∈ literalsAt field records, record.value field = .exact literal) =
        records.filter fun record => (record.value field).isExact := by
    apply List.filter_congr
    intro record member
    rw [Bool.eq_iff_iff, decide_eq_true_iff, FieldValue.isExact_iff]
    constructor
    · intro found
      obtain ⟨literal, _, held⟩ := found
      exact ⟨literal, held⟩
    · intro found
      obtain ⟨literal, held⟩ := found
      exact ⟨literal, mem_literalsAt.mpr ⟨record, member, held⟩, held⟩
  apply List.Perm.trans ((flatMap_recordsAt_perm nodup).append_right _)
  rw [holders]
  exact List.filter_append_perm _ records

end Groups

/-! ## Groups of all fields -/

/-- The records of a group in the order of the groups that the fields split it
into, those that leave a field blank after the others. -/
def ordered : List Field → List Record → List Record
  | [], records => records
  | field :: rest, records =>
      ((literalsAt field records).flatMap fun literal =>
        ordered rest (recordsAt field literal records)) ++ ordered rest (blankAt field records)

theorem ordered_perm (fields : List Field) (records : List Record) :
    (ordered fields records).Perm records := by
  induction fields generalizing records with
  | nil => exact .refl records
  | cons field rest ih =>
      apply List.Perm.trans _ (flatMap_literalsAt_perm field records)
      rw [ordered]
      apply List.Perm.append _ (ih _)
      exact List.Perm.flatMap_left _ fun literal _ => ih _

/-- A group of at most one record is in order. -/
theorem ordered_eq_self {fields : List Field} {records : List Record}
    (single : records.length ≤ 1) : ordered fields records = records := by
  symm
  exact eq_of_perm_of_length_le_one (ordered_perm fields records).symm single

/-- A field that is blank throughout does not order a group. -/
theorem ordered_of_blank {field : Field} {rest : List Field} {records : List Record}
    (blank : ∀ record ∈ records, record.value field = .wildcard) :
    ordered (field :: rest) records = ordered rest records := by
  have free : literalsAt field records = [] := by
    rw [List.eq_nil_iff_forall_not_mem]
    intro literal member
    obtain ⟨record, inside, held⟩ := mem_literalsAt.mp member
    rw [blank record inside] at held
    contradiction
  have whole : blankAt field records = records := by
    apply List.filter_eq_self.mpr
    intro record member
    rw [blank record member]
    rfl
  rw [ordered, free, whole, List.flatMap_nil, List.nil_append]

/-- The leaves of a tree that is grown are those of its records in order. -/
theorem flatten_of_grows {fields : List Field} {records : List Record} {tree : DecisionTree}
    (grows : Grows fields records tree) :
    tree.flatten = (ordered fields records).map Record.leaf := by
  induction grows with
  | single => rw [ordered_eq_self (Nat.le_refl _), flatten, List.map_singleton]
  | skip blank _ ih => rw [ordered_of_blank blank, ih]
  | @branch field rest records arms several defaults literals below ih =>
      have inArms : flattenArms arms = ((literalsAt field records).flatMap fun literal =>
          ordered rest (recordsAt field literal records)).map Record.leaf := by
        rw [flattenArms_eq_flatMap, ← literals, List.flatMap_map, List.flatMap_map,
          List.map_flatMap]
        exact List.flatMap_congr ih
      have inOtherwise : flattenOtherwise ((blankAt field records).head?.map fun record =>
          .leaf record.leaf) = (blankAt field records).map Record.leaf := by
        cases blanks : blankAt field records with
        | nil => rfl
        | cons record others =>
            rw [blanks, List.length_cons, Nat.succ_le_succ_iff, Nat.le_zero,
              List.length_eq_zero_iff] at defaults
            rw [defaults]
            rfl
      rw [flatten, inArms, inOtherwise, ordered, ordered_eq_self defaults, List.map_append]

/-- What a record holds for some fields, in their order. -/
def valuesOn (fields : List Field) (record : Record) : List FieldValue :=
  fields.map record.value

section First

variable {field : Field} {rest : List Field} {left right : Record}

/-- Records that agree on the first field are in the order of the others. -/
theorem valuesOn_lt_of_eq (same : left.value field = right.value field)
    (before : valuesOn rest left < valuesOn rest right) :
    valuesOn (field :: rest) left < valuesOn (field :: rest) right := by
  rw [valuesOn, valuesOn, List.map_cons, List.map_cons, same]
  exact List.Lex.cons before

/-- Where the first field tells records apart, it decides on their order. -/
theorem valuesOn_lt_of_lt (before : left.value field < right.value field) :
    valuesOn (field :: rest) left < valuesOn (field :: rest) right := by
  rw [valuesOn, valuesOn, List.map_cons, List.map_cons]
  exact List.Lex.rel before

/-- The records of an arm hold its literal. -/
theorem value_of_mem_ordered {records : List Record} {literal : Literal}
    (member : left ∈ ordered rest (recordsAt field literal records)) :
    left.value field = .exact literal := by
  have inside := (ordered_perm rest _).mem_iff.mp member
  simpa using (List.mem_filter.mp inside).2

end First

/-- The records of a group that is grown are in order by their values, no two of
which are the same throughout. -/
theorem pairwise_ordered_of_grows {fields : List Field} {records : List Record}
    {tree : DecisionTree} (grows : Grows fields records tree) :
    (ordered fields records).Pairwise fun left right =>
      valuesOn fields left < valuesOn fields right := by
  induction grows with
  | single =>
      rw [ordered_eq_self (Nat.le_refl _)]
      exact List.pairwise_singleton _ _
  | @skip field rest records tree blank _ ih =>
      rw [ordered_of_blank blank]
      apply ih.imp_of_mem
      intro left right leftMember rightMember before
      have held {record : Record} (member : record ∈ ordered rest records) :
          record.value field = .wildcard :=
        blank record ((ordered_perm rest records).mem_iff.mp member)
      apply valuesOn_lt_of_eq _ before
      rw [held leftMember, held rightMember]
  | @branch field rest records arms several defaults literals below ih =>
      rw [ordered, ordered_eq_self defaults, List.pairwise_append, List.pairwise_flatMap]
      refine ⟨⟨?arm, ?arms⟩, ?blank, ?last⟩
      case arm =>
        intro literal member
        rw [← literals] at member
        obtain ⟨arm, inside, rfl⟩ := List.mem_map.mp member
        apply (ih arm inside).imp_of_mem
        intro left right leftMember rightMember before
        apply valuesOn_lt_of_eq _ before
        rw [value_of_mem_ordered leftMember, value_of_mem_ordered rightMember]
      case arms =>
        apply (pairwise_literalsAt field records).imp
        intro lower upper before left leftMember right rightMember
        apply valuesOn_lt_of_lt
        rw [value_of_mem_ordered leftMember, value_of_mem_ordered rightMember]
        exact FieldValue.exact_lt_exact.mpr before
      case blank =>
        -- There is at most one record to compare.
        rw [List.pairwise_iff_getElem]
        intro left right _ inside before
        omega
      case last =>
        intro left leftMember right rightMember
        obtain ⟨literal, _, inside⟩ := List.mem_flatMap.mp leftMember
        have blank : right.value field = .wildcard :=
          FieldValue.isExact_eq_false.mp (by simpa using (List.mem_filter.mp rightMember).2)
        apply valuesOn_lt_of_lt
        rw [value_of_mem_ordered inside, blank]
        exact FieldValue.exact_lt_wildcard literal

end DecisionTree

/-! ## Tables -/

namespace RecordSet

variable {set : RecordSet}

/-- On all fields of its schema, a record of a set holds its values. -/
theorem valuesOn_fields {record : Record} (member : record ∈ set.records) :
    DecisionTree.valuesOn set.schema.fields record = record.values := by
  have count := set.arity record member
  apply List.ext_getElem
  · rw [DecisionTree.valuesOn, List.length_map, Schema.length_fields, count]
  · intro index inside _
    have bound : index < record.values.length := by
      rw [DecisionTree.valuesOn, List.length_map, Schema.length_fields] at inside
      rwa [count]
    simp [DecisionTree.valuesOn, Schema.fields, Record.value, bound]

theorem sorted_perm (set : RecordSet) : set.sorted.Perm set.records :=
  List.mergeSort_perm _ _

theorem pairwise_sorted (set : RecordSet) :
    set.sorted.Pairwise fun left right => left.values ≤ right.values :=
  Sorting.pairwise_mergeSort Record.values set.records

end RecordSet

namespace DecisionTree

/-- The records of a table that is built have different values. -/
theorem pairwise_ordered_of_build {set : RecordSet} {tree : DecisionTree}
    (built : (build set).result = .ok tree) :
    (ordered set.schema.fields set.records).Pairwise fun left right =>
      left.values < right.values := by
  by_cases empty : set.records = []
  · rw [empty, ordered_eq_self (Nat.zero_le _)]
    exact .nil
  · apply (pairwise_ordered_of_grows (grows_of_build built empty)).imp_of_mem
    intro left right leftMember rightMember before
    rw [RecordSet.valuesOn_fields ((ordered_perm _ _).mem_iff.mp leftMember),
      RecordSet.valuesOn_fields ((ordered_perm _ _).mem_iff.mp rightMember)] at before
    exact before

/-- Splitting the records of a table field by field sorts them by their values. -/
theorem ordered_eq_sorted {set : RecordSet} {tree : DecisionTree}
    (built : (build set).result = .ok tree) :
    ordered set.schema.fields set.records = set.sorted := by
  have strict := pairwise_ordered_of_build built
  have distinct : ((ordered set.schema.fields set.records).map Record.values).Nodup :=
    List.pairwise_map.mpr (strict.imp ne_of_lt)
  apply List.Perm.eq_of_pairwise _ (strict.imp le_of_lt) set.pairwise_sorted
  · exact (ordered_perm _ _).trans set.sorted_perm.symm
  · intro left right leftMember rightMember below above
    have inside : right ∈ ordered set.schema.fields set.records :=
      ((ordered_perm _ _).trans set.sorted_perm.symm).mem_iff.mpr rightMember
    exact List.inj_on_of_nodup_map distinct leftMember inside (le_antisymm below above)

/-- The leaves of a table's tree are those of its records, sorted by their
values. -/
theorem flatten_build {set : RecordSet} {tree : DecisionTree}
    (built : (build set).result = .ok tree) :
    tree.flatten = set.sorted.map Record.leaf := by
  rw [← ordered_eq_sorted built]
  by_cases empty : set.records = []
  · obtain rfl := eq_of_build_of_empty built empty
    rw [empty, ordered_eq_self (Nat.zero_le _)]
    rfl
  · exact flatten_of_grows (grows_of_build built empty)

/-- The leaves of a table's tree are those of its records. -/
theorem mem_flatten_build_iff {set : RecordSet} {tree : DecisionTree}
    (built : (build set).result = .ok tree) {target : Leaf} :
    target ∈ tree.flatten ↔ ∃ record ∈ set.records, record.leaf = target := by
  rw [flatten_build built, List.mem_map]
  exact exists_congr fun record => and_congr_left fun _ => set.sorted_perm.mem_iff

end DecisionTree

end OpcodeTables
