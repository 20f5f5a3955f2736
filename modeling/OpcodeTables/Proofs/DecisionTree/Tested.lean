import OpcodeTables.DecisionTree.Collapse
import OpcodeTables.Proofs.DecisionTree.Growth

/-!
# Tested fields

A tree fails only at a field that one of its branches tests, and every branch
that is built tests a field of the table's schema.  Collapsing removes branches
and adds none.
-/

namespace OpcodeTables

namespace DecisionTree

/-- Some branch of a tree tests a field. -/
inductive Tests (field : Field) : DecisionTree → Prop where
  | here {arms : List (Literal × DecisionTree)} {otherwise : Option DecisionTree} :
      Tests field (.branch field arms otherwise)
  | arm {other : Field} {arms : List (Literal × DecisionTree)}
      {otherwise : Option DecisionTree} {arm : Literal × DecisionTree} (member : arm ∈ arms)
      (below : Tests field arm.2) : Tests field (.branch other arms otherwise)
  | otherwise {other : Field} {arms : List (Literal × DecisionTree)} {child : DecisionTree}
      (below : Tests field child) : Tests field (.branch other arms (some child))

theorem not_tests_leaf {field : Field} {target : Leaf} : ¬Tests field (.leaf target) := by
  rintro ⟨⟩

theorem tests_branch_iff {field other : Field} {arms : List (Literal × DecisionTree)}
    {otherwise : Option DecisionTree} :
    Tests field (.branch other arms otherwise) ↔
      field = other ∨ (∃ arm ∈ arms, Tests field arm.2) ∨
        ∃ child, otherwise = some child ∧ Tests field child := by
  constructor
  · intro tests
    cases tests with
    | here => exact .inl rfl
    | arm member below => exact .inr (.inl ⟨_, member, below⟩)
    | otherwise below => exact .inr (.inr ⟨_, rfl, below⟩)
  · rintro (rfl | ⟨arm, member, below⟩ | ⟨child, rfl, below⟩)
    · exact .here
    · exact .arm member below
    · exact .otherwise below

/-- Following a tree fails at a field that it tests. -/
theorem tests_of_follow {read : Field → Option Literal} {tree : DecisionTree} {field : Field}
    (failed : tree.follow read = .error field) : Tests field tree := by
  induction tree using DecisionTree.induction with
  | leaf target => contradiction
  | branch other arms otherwise below beside =>
      rw [follow_branch] at failed
      cases choice : chosen (read other) arms otherwise with
      | none =>
          obtain rfl : other = field := by simpa [choice] using failed
          exact .here
      | some child =>
          simp only [choice] at failed
          rcases mem_of_chosen choice with ⟨arm, member, rfl⟩ | rfl
          · exact .arm member (below arm member failed)
          · exact .otherwise (beside child rfl failed)

/-! ## Collapsed trees -/

theorem collapseArms_eq_map (arms : List (Literal × DecisionTree)) :
    collapseArms arms = arms.map fun arm => (arm.1, arm.2.collapse) := by
  induction arms with
  | nil => rfl
  | cons arm rest ih => rw [collapseArms, ih, List.map_cons]

theorem collapseOtherwise_eq_map (otherwise : Option DecisionTree) :
    collapseOtherwise otherwise = otherwise.map collapse := by
  cases otherwise <;> rfl

/-- What is tested where a branch gives way, the branch tested as well. -/
theorem tests_of_joinBranch {field other : Field} {arms : List (Literal × DecisionTree)}
    {otherwise : Option DecisionTree} (tests : Tests field (joinBranch other arms otherwise)) :
    Tests field (.branch other arms otherwise) := by
  unfold joinBranch at tests
  split at tests
  · exact .otherwise tests
  · exact tests

/-- A collapsed tree tests no field that the tree does not test. -/
theorem tests_of_collapse {field : Field} {tree : DecisionTree}
    (tests : Tests field tree.collapse) : Tests field tree := by
  induction tree using DecisionTree.induction with
  | leaf target => exact tests
  | branch other arms otherwise below beside =>
      rw [collapse, collapseArms_eq_map, collapseOtherwise_eq_map] at tests
      rcases tests_branch_iff.mp (tests_of_joinBranch tests) with
        rfl | ⟨arm, member, tested⟩ | ⟨child, same, tested⟩
      · exact .here
      · obtain ⟨arm, inside, rfl⟩ := List.mem_map.mp member
        exact .arm inside (below arm inside tested)
      · obtain ⟨child, rfl, rfl⟩ := Option.map_eq_some_iff.mp same
        exact .otherwise (beside child rfl tested)

/-! ## Built trees -/

/-- A tree that is grown tests only the fields that it is grown on. -/
theorem mem_of_tests_of_grows {fields : List Field} {records : List Record}
    {tree : DecisionTree} (grows : Grows fields records tree) {field : Field}
    (tests : Tests field tree) : field ∈ fields := by
  induction grows with
  | single => exact absurd tests not_tests_leaf
  | skip _ _ ih => exact List.mem_cons_of_mem _ (ih tests)
  | branch several defaults literals below ih =>
      rcases tests_branch_iff.mp tests with rfl | ⟨arm, member, tested⟩ | ⟨child, same, tested⟩
      · exact List.mem_cons_self
      · exact List.mem_cons_of_mem _ (ih arm member tested)
      · obtain ⟨record, _, rfl⟩ := Option.map_eq_some_iff.mp same
        exact absurd tested not_tests_leaf

end DecisionTree

theorem Schema.first_mem_fields (schema : Schema) : schema.first ∈ schema.fields := by
  have nonempty := List.length_pos_iff.mpr schema.nonempty
  refine List.mem_mapIdx.mpr ⟨0, nonempty, ?_⟩
  rw [first, List.head_eq_getElem]

/-- No field of a schema is without a name. -/
theorem Schema.name_ne_empty {schema : Schema} {field : Field}
    (member : field ∈ schema.fields) : field.name ≠ "" := by
  obtain ⟨index, inside, rfl⟩ := List.mem_mapIdx.mp member
  intro empty
  have valid := schema.identifiers _ (List.getElem_mem inside)
  rw [show schema.names[index] = "" from empty] at valid
  exact absurd valid (by decide)

namespace DecisionTree

/-- The tree of a table tests only fields of its schema. -/
theorem mem_fields_of_tests {set : RecordSet} {tree : DecisionTree}
    (built : (build set).result = .ok tree) {field : Field} (tests : Tests field tree) :
    field ∈ set.schema.fields := by
  by_cases empty : set.records = []
  · obtain rfl := eq_of_build_of_empty built empty
    rcases tests_branch_iff.mp tests with rfl | ⟨arm, member, _⟩ | ⟨child, same, _⟩
    · exact set.schema.first_mem_fields
    · contradiction
    · contradiction
  · exact mem_of_tests_of_grows (grows_of_build built empty) tests

end DecisionTree

end OpcodeTables
