import Mathlib
import OpcodeTables.Proofs.DecisionTree.Collapsing
import OpcodeTables.Proofs.DecisionTree.Ordering
import OpcodeTables.Proofs.DecisionTree.Selection
import OpcodeTables.Proofs.Records.Kinds

/-!
# Built trees are well formed

Every branch that is built separates records: it has an arm, more than one leaf
lies below it, and the branches below it test later fields.  Such a tree is no
deeper than its schema is long, and collapsing finds nothing to remove in it.
-/

namespace OpcodeTables

namespace DecisionTree

/-- A branch on a field of a schema that tells leaves apart: it has an arm and
more than one leaf, sends all other values to a leaf if anywhere, and every
branch below it tests a later field. -/
structure Separates (schema : Schema) (field : Field) (arms : List (Literal × DecisionTree))
    (otherwise : Option DecisionTree) : Prop where
  arms_ne_nil : arms ≠ []
  several : 1 < (branch field arms otherwise).leaves.length
  otherwise_leaf : ∀ child, otherwise = some child → ∃ target, child = .leaf target
  field_at : schema.fields[field.index]? = some field
  ascends : ∀ child ∈ children arms otherwise, ∀ inner, Tests inner child →
    field.index < inner.index

/-- A tree whose branches separate and hold literals of one kind for each field. -/
structure WellFormed (schema : Schema) (tree : DecisionTree) : Prop where
  separates : ∀ field arms otherwise, (branch field arms otherwise).OccursIn tree →
    Separates schema field arms otherwise
  kinds : ∀ field, ∃ kind, ∀ arms otherwise, (branch field arms otherwise).OccursIn tree →
    ∀ arm ∈ arms, arm.1.kind = kind

/-! ## What follows from being well formed -/

section Consequences

variable {schema : Schema} {tree : DecisionTree}

/-- Where the fields of a tree start at a position, no path is longer than the
fields from there on. -/
theorem depth_le_of_separates {start : Nat}
    (separates : ∀ field arms otherwise, (branch field arms otherwise).OccursIn tree →
      Separates schema field arms otherwise)
    (above : ∀ field, Tests field tree → start ≤ field.index) :
    tree.depth ≤ schema.size - start := by
  induction tree using DecisionTree.induction generalizing start with
  | leaf target => exact Nat.zero_le _
  | branch field arms otherwise below beside =>
      have here := separates field arms otherwise .here
      have inside : field.index < schema.size := by
        have bound := (List.getElem?_eq_some_iff.mp here.field_at).1
        rwa [Schema.length_fields] at bound
      have reached := above field .here
      -- The subtrees test the fields after the one of the branch.
      have split : (branch field arms otherwise).depth ≤ schema.size - (field.index + 1) + 1 := by
        rw [depth_branch_le_iff]
        constructor
        · intro arm member
          apply below arm member
          · intro inner under others occurs
            exact separates inner under others (.arm member occurs)
          · intro inner tests
            apply here.ascends arm.2 _ inner tests
            exact List.mem_append_left _ (List.mem_map_of_mem member)
        · intro child same
          subst same
          apply beside child rfl
          · intro inner under others occurs
            exact separates inner under others (.otherwise occurs)
          · intro inner tests
            apply here.ascends child _ inner tests
            exact List.mem_append_right _ (by simp)
      omega

/-- A well formed tree tests no more fields in a row than its schema has. -/
theorem WellFormed.depth_le (wellFormed : tree.WellFormed schema) : tree.depth ≤ schema.size :=
  depth_le_of_separates wellFormed.separates fun _ _ => Nat.zero_le _

/-- There is nothing to collapse in a well formed tree. -/
theorem WellFormed.collapse_eq (wellFormed : tree.WellFormed schema) : tree.collapse = tree := by
  apply collapse_eq_self
  intro field child occurs
  exact (wellFormed.separates field [] (some child) occurs).arms_ne_nil rfl

end Consequences

/-! ## Parts of a tree that is grown -/

section Parts

variable {fields : List Field} {records : List Record}

/-- Every part of a tree that is grown is grown from a group of its records on
the fields that are left there. -/
theorem exists_grows_of_occursIn {tree part : DecisionTree} (grows : Grows fields records tree)
    (occurs : part.OccursIn tree) :
    ∃ rest group, rest <:+ fields ∧ group ⊆ records ∧ Grows rest group part := by
  induction grows with
  | @single fields record =>
      cases occurs
      exact ⟨fields, [record], List.suffix_refl _, List.Subset.refl _, .single⟩
  | skip blank grows ih =>
      obtain ⟨rest, group, suffix, subset, grown⟩ := ih occurs
      exact ⟨rest, group, suffix.trans (List.suffix_cons _ _), subset, grown⟩
  | @branch field rest records arms several defaults literals below ih =>
      rcases occursIn_branch_iff.mp occurs with rfl | ⟨arm, member, inside⟩ | ⟨child, same, inside⟩
      · exact ⟨field :: rest, records, List.suffix_refl _, List.Subset.refl _,
          .branch several defaults literals below⟩
      · obtain ⟨others, group, suffix, subset, grown⟩ := ih arm member inside
        refine ⟨others, group, suffix.trans (List.suffix_cons _ _), ?_, grown⟩
        exact List.Subset.trans subset (List.filter_subset_self _)
      · obtain ⟨record, blank, rfl⟩ := Option.map_eq_some_iff.mp same
        cases inside
        refine ⟨rest, [record], List.suffix_cons _ _, ?_, .single⟩
        intro other member
        rw [List.mem_singleton.mp member]
        exact (List.mem_filter.mp (List.mem_of_head? blank)).1

/-- A branch that is grown splits its records on one of the fields, and what is
below it is grown on the fields after that. -/
theorem grows_branch {field : Field} {arms : List (Literal × DecisionTree)}
    {otherwise : Option DecisionTree} (grows : Grows fields records (.branch field arms otherwise)) :
    ∃ rest, (field :: rest) <:+ fields ∧ 1 < records.length ∧
      (blankAt field records).length ≤ 1 ∧ arms.map Prod.fst = literalsAt field records ∧
      (∀ arm ∈ arms, Grows rest (recordsAt field arm.1 records) arm.2) ∧
      otherwise = (blankAt field records).head?.map fun record => .leaf record.leaf := by
  generalize same : branch field arms otherwise = tree at grows
  induction grows with
  | single => contradiction
  | skip blank grows ih =>
      obtain ⟨rest, suffix, parts⟩ := ih same
      exact ⟨rest, suffix.trans (List.suffix_cons _ _), parts⟩
  | @branch other rest records others several defaults literals below ih =>
      cases same
      exact ⟨rest, List.suffix_refl _, several, defaults, literals, below, rfl⟩

/-- More than one record, of which at most one leaves a field blank, hold some
literal for it. -/
theorem literalsAt_ne_nil {field : Field} (several : 1 < records.length)
    (defaults : (blankAt field records).length ≤ 1) : literalsAt field records ≠ [] := by
  intro none_held
  have parts := (flatMap_literalsAt_perm field records).length_eq
  rw [none_held, List.flatMap_nil, List.nil_append] at parts
  omega

/-- A tree that is grown has as many leaves as there are records. -/
theorem length_leaves_of_grows {tree : DecisionTree} (grows : Grows fields records tree) :
    tree.leaves.length = records.length := by
  rw [leaves_eq_flatten, flatten_of_grows grows, List.length_map, (ordered_perm _ _).length_eq]

end Parts

end DecisionTree

theorem Schema.getElem?_fields {schema : Schema} {field : Field}
    (member : field ∈ schema.fields) : schema.fields[field.index]? = some field := by
  obtain ⟨index, inside, rfl⟩ := List.mem_mapIdx.mp member
  simp [fields, inside]

namespace DecisionTree

/-- A branch that is grown on fields of a schema separates its leaves. -/
theorem separates_of_grows {schema : Schema} {fields : List Field} {records : List Record}
    {field : Field} {arms : List (Literal × DecisionTree)} {otherwise : Option DecisionTree}
    (grows : Grows fields records (.branch field arms otherwise))
    (suffix : fields <:+ schema.fields) : Separates schema field arms otherwise := by
  obtain ⟨rest, tail, several, defaults, literals, below, rfl⟩ := grows_branch grows
  have left := tail.trans suffix
  have ascending := List.pairwise_cons.mp (schema.ascending.sublist left.sublist)
  constructor
  · intro empty
    rw [empty] at literals
    exact literalsAt_ne_nil several defaults literals.symm
  · rw [length_leaves_of_grows grows]
    exact several
  · intro child same
    obtain ⟨record, _, rfl⟩ := Option.map_eq_some_iff.mp same
    exact ⟨record.leaf, rfl⟩
  · exact Schema.getElem?_fields (left.subset List.mem_cons_self)
  · intro child member inner tests
    rcases List.mem_append.mp member with member | member
    · obtain ⟨arm, inside, rfl⟩ := List.mem_map.mp member
      exact ascending.1 inner (mem_of_tests_of_grows (below arm inside) tests)
    · obtain ⟨record, _, rfl⟩ := Option.map_eq_some_iff.mp (Option.mem_toList.mp member)
      exact absurd tests not_tests_leaf

/-- The arms on one field hold literals of the kind that the records hold for it. -/
theorem kind_of_grows {fields : List Field} {records : List Record} {tree : DecisionTree}
    (grows : Grows fields records tree) {field : Field} {kind : LiteralKind}
    (uniform : Record.AllOfKind kind field records) {arms : List (Literal × DecisionTree)}
    {otherwise : Option DecisionTree} (occurs : (branch field arms otherwise).OccursIn tree)
    {arm : Literal × DecisionTree} (member : arm ∈ arms) : arm.1.kind = kind := by
  obtain ⟨rest, group, _, subset, grown⟩ := exists_grows_of_occursIn grows occurs
  obtain ⟨_, _, _, _, literals, _⟩ := grows_branch grown
  have held : arm.1 ∈ literalsAt field group := by
    rw [← literals]
    exact List.mem_map_of_mem member
  obtain ⟨record, inside, same⟩ := mem_literalsAt.mp held
  exact uniform record (subset inside) arm.1 same

/-- A table that has records and is built has a well formed tree: every branch
has an arm and more than one leaf, sends other values to a leaf if anywhere, tests
the field of the schema at its position and stands above branches on later fields
only, and all arms on one field hold literals of one kind.  No path is longer
than the schema, and collapsing leaves the tree as it is. -/
theorem wellFormed_of_build {table : TableName} {schema : Schema} {records : List Record}
    {set : RecordSet} {tree : DecisionTree}
    (made : RecordSet.ofRecords table schema records = .ok set) (nonempty : records ≠ [])
    (built : (build set).result = .ok tree) :
    tree.WellFormed schema ∧ tree.depth ≤ schema.size ∧ tree.collapse = tree := by
  obtain ⟨_, schemas, same⟩ := RecordSet.ofRecords_eq_ok made
  have grows : Grows schema.fields records tree := by
    rw [← schemas, ← same]
    exact grows_of_build built (same ▸ nonempty)
  have wellFormed : tree.WellFormed schema := by
    constructor
    · intro field arms otherwise occurs
      obtain ⟨rest, group, suffix, _, grown⟩ := exists_grows_of_occursIn grows occurs
      exact separates_of_grows grown suffix
    · intro field
      by_cases known : field ∈ schema.fields
      · obtain ⟨kind, uniform⟩ := RecordSet.exists_allOfKind_of_ofRecords made known
        exact ⟨kind, fun _ _ occurs _ member => kind_of_grows grows uniform occurs member⟩
      · -- No branch tests a field that is not in the schema.
        refine ⟨.bool, fun _ _ occurs => absurd ?_ known⟩
        exact mem_of_tests_of_grows grows (tests_of_occursIn occurs)
  exact ⟨wellFormed, wellFormed.depth_le, wellFormed.collapse_eq⟩

/-- A table with truth values in its last field, in which the second field is
blank in all rows of the first family. -/
def flaggedSet : RecordSet where
  table := .root
  schema := ⟨["family", "shape", "flag"], by decide, by decide, by decide⟩
  records := [
    ⟨1, [.exact (.int 1), .wildcard, .exact (.bool true)], "bt", 1, 0, none⟩,
    ⟨2, [.exact (.int 1), .wildcard, .exact (.bool false)], "bf", 1, 1, none⟩,
    ⟨3, [.exact (.int 4), .exact (.int 2), .exact (.bool true)], "ld", 2, 2, none⟩,
    ⟨4, [.exact (.int 4), .wildcard, .exact (.bool true)], "st", 2, 3, none⟩,
    ⟨5, [.exact (.int 4), .exact (.int 2), .wildcard], "nop", 1, 4, none⟩]
  arity := by decide

/-- The tree of `flaggedSet`. -/
def flaggedTree : DecisionTree :=
  .branch ⟨0, "family"⟩ [
    (.int 1, .branch ⟨2, "flag"⟩ [
      (.bool false, .leaf ⟨"bf", 1, 1, none⟩),
      (.bool true, .leaf ⟨"bt", 1, 0, none⟩)] none),
    (.int 4, .branch ⟨1, "shape"⟩ [
      (.int 2, .branch ⟨2, "flag"⟩ [
        (.bool true, .leaf ⟨"ld", 2, 2, none⟩)] (some (.leaf ⟨"nop", 1, 4, none⟩)))]
      (some (.leaf ⟨"st", 2, 3, none⟩)))] none

/-- The tree of `flaggedSet` tests up to three fields, and its branch with a
single arm stays. -/
theorem wellFormed_flaggedTree :
    RecordSet.ofRecords .root flaggedSet.schema flaggedSet.records = .ok flaggedSet ∧
      flaggedSet.records ≠ [] ∧ (build flaggedSet).result = .ok flaggedTree ∧
      flaggedTree.WellFormed flaggedSet.schema ∧ flaggedTree.depth ≤ 3 ∧
      flaggedTree.collapse = flaggedTree := by
  have made : RecordSet.ofRecords .root flaggedSet.schema flaggedSet.records = .ok flaggedSet := by
    decide
  have nonempty : flaggedSet.records ≠ [] := List.cons_ne_nil _ _
  have built : (build flaggedSet).result = .ok flaggedTree := by
    cbv
  exact ⟨made, nonempty, built, wellFormed_of_build made nonempty built⟩

end DecisionTree

end OpcodeTables
