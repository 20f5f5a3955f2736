import OpcodeTables.Proofs.DecisionTree.Branching

/-!
# Growth of decision trees

`Grows` is what a successful build comes to, freed of faults: a single record
is a leaf, a field that is blank throughout is passed over, and any other field
splits its group.  Facts about built trees are proved by induction on it.
-/

namespace OpcodeTables.DecisionTree

/-- The tree that a group of records grows into on the fields that are left. -/
inductive Grows : List Field → List Record → DecisionTree → Prop where
  | single {fields : List Field} {record : Record} :
      Grows fields [record] (.leaf record.leaf)
  | skip {field : Field} {rest : List Field} {records : List Record} {tree : DecisionTree}
      (blank : ∀ record ∈ records, record.value field = .wildcard)
      (grows : Grows rest records tree) :
      Grows (field :: rest) records tree
  | branch {field : Field} {rest : List Field} {records : List Record}
      {arms : List (Literal × DecisionTree)}
      (several : 1 < records.length)
      (defaults : (blankAt field records).length ≤ 1)
      (literals : arms.map Prod.fst = literalsAt field records)
      (below : ∀ arm ∈ arms, Grows rest (recordsAt field arm.1 records) arm.2) :
      Grows (field :: rest) records
        (.branch field arms ((blankAt field records).head?.map fun record => .leaf record.leaf))

/-! ## One round of building -/

section Rounds

variable {table : TableName} {field : Field} {rest : List Field} {tested : Option Field}
  {records : List Record}

theorem ofGroup_single (fields : List Field) (record : Record) :
    ofGroup table fields tested [record] = .ok (.leaf record.leaf) := by
  cases fields <;> rfl

theorem ofGroup_nil (several : records.length ≠ 1) :
    ofGroup table [] tested records = .error (ambiguous table tested .exhausted records) := by
  unfold ofGroup
  split
  · contradiction
  · rfl

theorem ofGroup_cons (several : records.length ≠ 1) :
    ofGroup table (field :: rest) tested records =
      if records.any fun record => (record.value field).isExact then
        split table field records (ofGroup table rest (some field))
      else ofGroup table rest tested records := by
  conv_lhs => unfold ofGroup
  split
  · contradiction
  · rfl

theorem blank_of_not_any
    (undecided : ¬(records.any fun record => (record.value field).isExact) = true) :
    ∀ record ∈ records, record.value field = .wildcard := by
  intro record member
  rw [← FieldValue.isExact_eq_false, Bool.eq_false_iff]
  exact fun exact => undecided (List.any_eq_true.mpr ⟨record, member, exact⟩)

end Rounds

theorem map_fst_of_armsFor {literals : List Literal}
    {build : Literal → Except Fault DecisionTree} {arms : List (Literal × DecisionTree)}
    (built : armsFor build literals = .ok arms) : arms.map Prod.fst = literals := by
  induction literals generalizing arms with
  | nil =>
      obtain rfl : [] = arms := Except.ok.inj built
      rfl
  | cons literal rest ih =>
      rw [armsFor] at built
      cases first : build literal with
      | error fault => simp [first] at built
      | ok child =>
          cases others : armsFor build rest with
          | error fault => simp [first, others] at built
          | ok tail =>
              obtain rfl : (literal, child) :: tail = arms := by
                simpa [first, others] using built
              rw [List.map_cons, ih others]

/-- A split that succeeds has an arm for each literal of its field, and at
most one record leaves the field blank. -/
theorem split_eq_ok {table : TableName} {field : Field} {records : List Record}
    {build : List Record → Except Fault DecisionTree} {tree : DecisionTree}
    (built : split table field records build = .ok tree) :
    (blankAt field records).length ≤ 1 ∧
      ∃ arms, arms.map Prod.fst = literalsAt field records ∧
        (∀ arm ∈ arms, build (recordsAt field arm.1 records) = .ok arm.2) ∧
        tree = .branch field arms
          ((blankAt field records).head?.map fun record => .leaf record.leaf) := by
  rw [split] at built
  split at built
  · next defaults =>
      refine ⟨defaults, ?_⟩
      cases made : armsFor (fun literal => build (recordsAt field literal records))
          (literalsAt field records) with
      | error fault => simp [made] at built
      | ok arms =>
          refine ⟨arms, map_fst_of_armsFor made, ?_, ?_⟩
          · intro arm member
            exact (mem_of_armsFor made member).2
          · simpa [made, eq_comm] using built
  · contradiction

/-- A group that is built grows into the tree that is built for it. -/
theorem grows_of_ofGroup {table : TableName} {fields : List Field} {tested : Option Field}
    {records : List Record} {tree : DecisionTree}
    (built : ofGroup table fields tested records = .ok tree) : Grows fields records tree := by
  induction fields generalizing tested records tree with
  | nil =>
      by_cases single : records.length = 1
      · obtain ⟨record, rfl⟩ := List.length_eq_one_iff.mp single
        rw [ofGroup_single] at built
        obtain rfl := Except.ok.inj built
        exact .single
      · rw [ofGroup_nil single] at built
        contradiction
  | cons field rest ih =>
      by_cases single : records.length = 1
      · obtain ⟨record, rfl⟩ := List.length_eq_one_iff.mp single
        rw [ofGroup_single] at built
        obtain rfl := Except.ok.inj built
        exact .single
      · rw [ofGroup_cons single] at built
        split at built
        · next decided =>
            obtain ⟨record, member, _⟩ := List.any_eq_true.mp decided
            have several := List.length_pos_of_mem member
            obtain ⟨defaults, arms, literals, below, rfl⟩ := split_eq_ok built
            apply Grows.branch (by omega) defaults literals
            intro arm inside
            exact ih (below arm inside)
        · next undecided => exact .skip (blank_of_not_any undecided) (ih built)

/-- A table without records has a tree that tests its first field and never
decodes anything. -/
theorem eq_of_build_of_empty {set : RecordSet} {tree : DecisionTree}
    (built : (build set).result = .ok tree) (empty : set.records = []) :
    tree = .branch set.schema.first [] none := by
  have grown : ofRecordSet set = .ok tree := built
  simpa [ofRecordSet, empty, eq_comm] using grown

/-- The records of a table that is built grow into its tree on all fields of
the schema. -/
theorem grows_of_build {set : RecordSet} {tree : DecisionTree}
    (built : (build set).result = .ok tree) (nonempty : set.records ≠ []) :
    Grows set.schema.fields set.records tree := by
  have grouped : ofRecordSet set = .ok tree := built
  rw [ofRecordSet, if_neg (by simpa using nonempty)] at grouped
  exact grows_of_ofGroup grouped

/-! ## Faults of building -/

theorem exists_of_armsFor_eq_error {literals : List Literal}
    {build : Literal → Except Fault DecisionTree} {fault : Fault}
    (failed : armsFor build literals = .error fault) :
    ∃ literal ∈ literals, build literal = .error fault := by
  induction literals with
  | nil => contradiction
  | cons literal rest ih =>
      rw [armsFor] at failed
      cases first : build literal with
      | error other =>
          obtain rfl : other = fault := by simpa [first] using failed
          exact ⟨literal, by simp, first⟩
      | ok child =>
          cases others : armsFor build rest with
          | ok arms => simp [first, others] at failed
          | error other =>
              obtain rfl : other = fault := by simpa [first, others] using failed
              obtain ⟨later, member, failure⟩ := ih others
              exact ⟨later, List.mem_cons_of_mem _ member, failure⟩

/-- A split fails because more than one record leaves its field blank, or at
one of its arms. -/
theorem split_eq_error {table : TableName} {field : Field} {records : List Record}
    {build : List Record → Except Fault DecisionTree} {fault : Fault}
    (failed : split table field records build = .error fault) :
    (1 < (blankAt field records).length ∧
        fault = ambiguous table (some field) .multipleDefaults (blankAt field records)) ∨
      ∃ literal ∈ literalsAt field records,
        build (recordsAt field literal records) = .error fault := by
  rw [split] at failed
  split at failed
  · right
    cases made : armsFor (fun literal => build (recordsAt field literal records))
        (literalsAt field records) with
    | ok arms => simp [made] at failed
    | error other =>
        obtain rfl : other = fault := by simpa [made] using failed
        exact exists_of_armsFor_eq_error made
  · next several =>
      left
      exact ⟨Nat.lt_of_not_le several, (Except.error.inj failed).symm⟩

theorem length_ne_one_of_ofGroup {table : TableName} {fields : List Field}
    {tested : Option Field} {records : List Record} {fault : Fault}
    (failed : ofGroup table fields tested records = .error fault) : records.length ≠ 1 := by
  intro single
  obtain ⟨record, rfl⟩ := List.length_eq_one_iff.mp single
  rw [ofGroup_single] at failed
  contradiction

/-- Building fails only because records cannot be told apart. -/
theorem exists_ambiguous_of_ofGroup {table : TableName} {fields : List Field}
    {tested : Option Field} {records : List Record} {fault : Fault}
    (failed : ofGroup table fields tested records = .error fault) :
    ∃ field reason group, fault = ambiguous table field reason group := by
  induction fields generalizing tested records with
  | nil =>
      rw [ofGroup_nil (length_ne_one_of_ofGroup failed)] at failed
      exact ⟨_, _, _, (Except.error.inj failed).symm⟩
  | cons field rest ih =>
      rw [ofGroup_cons (length_ne_one_of_ofGroup failed)] at failed
      split at failed
      · rcases split_eq_error failed with ⟨_, same⟩ | ⟨literal, _, below⟩
        · exact ⟨_, _, _, same⟩
        · exact ih below
      · exact ih failed

theorem exists_ambiguous_of_build {set : RecordSet} {fault : Fault}
    (failed : (build set).result = .error fault) :
    ∃ field reason group, fault = ambiguous set.table field reason group := by
  have grouped : ofRecordSet set = .error fault := failed
  rw [ofRecordSet] at grouped
  split at grouped
  · contradiction
  · exact exists_ambiguous_of_ofGroup grouped

end OpcodeTables.DecisionTree
