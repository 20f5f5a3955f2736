import OpcodeTables.Proofs.DecisionTree.Growth
import Mathlib.Data.List.Perm.Basic
import Mathlib.Order.Lattice.Nat

/-!
# The order of rows

The order in which the records of a table stand does not show in its tree.
Groups are formed by literals, which are taken in ascending order, and a group
becomes a leaf only when a single record is left of it.  Where building fails,
the order shows in the list of the records that the fault names and in nothing
else.
-/

namespace OpcodeTables

/-- Two results are alike if they are one value, or faults that are alike. -/
inductive Alike {ε α : Type} (faults : ε → ε → Prop) : Except ε α → Except ε α → Prop where
  | ok (value : α) : Alike faults (.ok value) (.ok value)
  | error {left right : ε} (same : faults left right) :
      Alike faults (.error left) (.error right)

namespace Alike

variable {ε α β : Type} {faults others : ε → ε → Prop} {left right : Except ε α}

theorem refl (same : ∀ fault, faults fault fault) (result : Except ε α) :
    Alike faults result result := by
  cases result with
  | error fault => exact .error (same fault)
  | ok value => exact .ok value

/-- Results that are alike stay so where both go on in ways that are alike. -/
theorem bind {next further : α → Except ε β} (alike : Alike faults left right)
    (each : ∀ value, Alike faults (next value) (further value)) :
    Alike faults (left >>= next) (right >>= further) := by
  cases alike with
  | ok value => exact each value
  | error same => exact .error same

theorem map (alike : Alike faults left right) (change : α → β) :
    Alike faults (left.map change) (right.map change) := by
  cases alike with
  | ok value => exact .ok (change value)
  | error same => exact .error same

theorem imp (alike : Alike faults left right)
    (weaker : ∀ left right, faults left right → others left right) :
    Alike others left right := by
  cases alike with
  | ok value => exact .ok value
  | error same => exact .error (weaker _ _ same)

end Alike

/-- The same fault, save that an ambiguity may list its records in another
order. -/
inductive Fault.SameButOrder : Fault → Fault → Prop where
  | same (fault : Fault) : SameButOrder fault fault
  | ambiguous (table : TableName) (field : Option String) (reason : Ambiguity)
      {left right : List RecordRef} (records : left.Perm right) :
      SameButOrder (.ambiguous table field reason left) (.ambiguous table field reason right)

/-! ## Sorting by a key -/

namespace Sorting

variable {α β : Type} [LinearOrder β] (key : α → β)

theorem transitive (a b c : α) : decide (key a ≤ key b) = true →
    decide (key b ≤ key c) = true → decide (key a ≤ key c) = true := by
  simp only [decide_eq_true_eq]
  exact le_trans

theorem total (a b : α) : (decide (key a ≤ key b) || decide (key b ≤ key a)) = true := by
  simp only [Bool.or_eq_true, decide_eq_true_eq]
  exact le_total _ _

/-- What is sorted by a key ascends by it. -/
theorem pairwise_mergeSort (items : List α) :
    (items.mergeSort fun left right => decide (key left ≤ key right)).Pairwise
      fun left right => key left ≤ key right :=
  (List.pairwise_mergeSort (transitive key) (total key) items).imp of_decide_eq_true

/-- Sorting by a key keeps the order of what has the same key. -/
theorem filter_mergeSort (items : List α) (value : β) :
    (items.mergeSort fun left right => decide (key left ≤ key right)).filter
        (fun item => key item = value) = items.filter fun item => key item = value := by
  let same (item : α) : Bool := key item = value
  let sorted := items.mergeSort fun left right => decide (key left ≤ key right)
  change sorted.filter same = items.filter same
  have level : (items.filter same).Pairwise fun left right =>
      decide (key left ≤ key right) = true := by
    rw [List.pairwise_iff_getElem]
    intro left right leftInside rightInside _
    have first := of_decide_eq_true (List.mem_filter.mp (List.getElem_mem leftInside)).2
    have second := of_decide_eq_true (List.mem_filter.mp (List.getElem_mem rightInside)).2
    rw [first, second]
    exact decide_eq_true (le_refl value)
  have kept : (items.filter same).Sublist sorted :=
    List.sublist_mergeSort (transitive key) (total key) level List.filter_sublist
  have inside := kept.filter same
  simp only [List.filter_filter, Bool.and_self] at inside
  symm
  apply inside.eq_of_length
  exact ((List.mergeSort_perm _ _).filter same).length_eq.symm

end Sorting

namespace DecisionTree

variable {table : TableName} {field : Field} {left right : List Record}

/-- Sorted literals ascend. -/
theorem pairwise_sort (literals : List Literal) :
    (Literal.sort literals).Pairwise (· ≤ ·) :=
  Sorting.pairwise_mergeSort Literal.rank literals

/-- A sorted list of literals is determined by what it holds. -/
theorem sort_eq_of_perm {literals others : List Literal} (perm : literals.Perm others) :
    Literal.sort literals = Literal.sort others := by
  apply List.Perm.eq_of_pairwise _ (pairwise_sort literals) (pairwise_sort others)
  · exact (List.mergeSort_perm _ _).trans (perm.trans (List.mergeSort_perm _ _).symm)
  · intro a b _ _ below above
    exact Literal.rank_injective (Nat.le_antisymm below above)

theorem literalsAt_eq_of_perm (perm : left.Perm right) :
    literalsAt field left = literalsAt field right := by
  rw [literalsAt, literalsAt, sort_eq_of_perm (perm.filterMap _)]

/-- At most one record leaves no choice of an order. -/
theorem eq_of_perm_of_length_le_one (perm : left.Perm right) (single : left.length ≤ 1) :
    left = right := by
  cases left with
  | nil => exact perm.nil_eq
  | cons record rest =>
      obtain rfl := List.length_eq_zero_iff.mp (Nat.le_zero.mp (Nat.le_of_succ_le_succ single))
      exact (List.singleton_perm.mp perm)

/-! ## Building -/

theorem armsFor_cons (build : Literal → Except Fault DecisionTree) (literal : Literal)
    (rest : List Literal) :
    armsFor build (literal :: rest) =
      build literal >>= fun child => (armsFor build rest).map ((literal, child) :: ·) := by
  rw [armsFor]
  cases build literal with
  | error fault => rfl
  | ok child => cases armsFor build rest <;> rfl

/-- Arms are alike where the trees for each literal are. -/
theorem armsFor_alike {faults : Fault → Fault → Prop}
    {build other : Literal → Except Fault DecisionTree}
    (each : ∀ literal, Alike faults (build literal) (other literal)) (literals : List Literal) :
    Alike faults (armsFor build literals) (armsFor other literals) := by
  induction literals with
  | nil => exact .ok []
  | cons literal rest ih =>
      rw [armsFor_cons, armsFor_cons]
      exact (each literal).bind fun child => ih.map _

theorem split_eq_map {records : List Record} {build : List Record → Except Fault DecisionTree}
    (defaults : (blankAt field records).length ≤ 1) :
    split table field records build =
      (armsFor (fun literal => build (recordsAt field literal records))
        (literalsAt field records)).map fun arms =>
          .branch field arms ((blankAt field records).head?.map fun record =>
            .leaf record.leaf) := by
  rw [split, if_pos defaults]
  cases armsFor (fun literal => build (recordsAt field literal records))
    (literalsAt field records) <;> rfl

theorem ambiguous_sameButOrder (reason : Ambiguity) (tested : Option Field)
    (perm : left.Perm right) :
    Fault.SameButOrder (ambiguous table tested reason left)
      (ambiguous table tested reason right) :=
  .ambiguous _ _ _ (perm.map _)

/-- A split of the same records in another order is alike if its parts are. -/
theorem split_alike {build : List Record → Except Fault DecisionTree}
    (parts : ∀ {left right : List Record}, left.Perm right →
      Alike Fault.SameButOrder (build left) (build right))
    (perm : left.Perm right) :
    Alike Fault.SameButOrder (split table field left build) (split table field right build) := by
  have blanks : (blankAt field left).Perm (blankAt field right) := perm.filter _
  by_cases defaults : (blankAt field left).length ≤ 1
  · rw [split_eq_map defaults, split_eq_map (blanks.length_eq ▸ defaults),
      literalsAt_eq_of_perm perm, eq_of_perm_of_length_le_one blanks defaults]
    apply Alike.map
    apply armsFor_alike
    intro literal
    exact parts (perm.filter _)
  · rw [split, split, if_neg defaults, if_neg (blanks.length_eq ▸ defaults)]
    exact .error (ambiguous_sameButOrder _ _ blanks)

/-- A group is built alike in whatever order its records stand. -/
theorem ofGroup_alike {fields : List Field} {tested : Option Field} (perm : left.Perm right) :
    Alike Fault.SameButOrder (ofGroup table fields tested left)
      (ofGroup table fields tested right) := by
  induction fields generalizing tested left right with
  | nil =>
      by_cases single : left.length = 1
      · rw [eq_of_perm_of_length_le_one perm (Nat.le_of_eq single)]
        exact .refl Fault.SameButOrder.same _
      · rw [ofGroup_nil single, ofGroup_nil (perm.length_eq ▸ single)]
        exact .error (ambiguous_sameButOrder _ _ perm)
  | cons field rest ih =>
      by_cases single : left.length = 1
      · rw [eq_of_perm_of_length_le_one perm (Nat.le_of_eq single)]
        exact .refl Fault.SameButOrder.same _
      · rw [ofGroup_cons single, ofGroup_cons (perm.length_eq ▸ single), perm.any_eq]
        split
        · exact split_alike ih perm
        · exact ih perm

/-- Tables that have the same records in some order are built alike. -/
theorem build_alike {left right : RecordSet} (table : left.table = right.table)
    (schema : left.schema = right.schema) (records : left.records.Perm right.records) :
    Alike Fault.SameButOrder (build left).result (build right).result := by
  change Alike _ (ofRecordSet left) (ofRecordSet right)
  rw [ofRecordSet, ofRecordSet, records.isEmpty_eq, table, schema]
  split
  · exact .ok _
  · exact ofGroup_alike records

end DecisionTree

end OpcodeTables
