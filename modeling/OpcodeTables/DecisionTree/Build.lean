import OpcodeTables.DecisionTree.Basic
import OpcodeTables.Log
import OpcodeTables.RecordSet

/-!
# Building decision trees

The records of a table are split on one field after another, in schema order.
Records that leave a field blank fall to `otherwise` of that branch.  A field
that is blank for every record of a group is passed over, and a group of one
record is a leaf at once, so that a tree tests only what separates its
records.
-/

namespace OpcodeTables

namespace DecisionTree

/-- The literals that records hold for a field, ascending and each once. -/
def literalsAt (field : Field) (records : List Record) : List Literal :=
  (Literal.sort (records.filterMap fun record => (record.value field).literal?)).eraseDups

/-- The records that hold a literal for a field. -/
def recordsAt (field : Field) (literal : Literal) (records : List Record) : List Record :=
  records.filter fun record => record.value field = .exact literal

/-- The records that leave a field blank. -/
def blankAt (field : Field) (records : List Record) : List Record :=
  records.filter fun record => !(record.value field).isExact

/-- The fault that records cannot be told apart. -/
def ambiguous (table : TableName) (field : Option Field) (reason : Ambiguity)
    (records : List Record) : Fault :=
  .ambiguous table (field.map Field.name) reason (records.map Record.reference)

/-- Builds an arm for each literal in turn. The first failure counts. -/
def armsFor (build : Literal → Except Fault DecisionTree) :
    List Literal → Except Fault (List (Literal × DecisionTree))
  | [] => .ok []
  | literal :: rest =>
      match build literal with
      | .error fault => .error fault
      | .ok child =>
          match armsFor build rest with
          | .error fault => .error fault
          | .ok arms => .ok ((literal, child) :: arms)

/-- Splits records on a field that some of them hold a literal for. At most
one record may leave it blank, and it becomes the leaf for other values. -/
def split (table : TableName) (field : Field) (records : List Record)
    (build : List Record → Except Fault DecisionTree) : Except Fault DecisionTree :=
  if (blankAt field records).length ≤ 1 then
    match armsFor (fun literal => build (recordsAt field literal records))
        (literalsAt field records) with
    | .error fault => .error fault
    | .ok arms =>
        .ok (.branch field arms ((blankAt field records).head?.map fun record =>
          .leaf record.leaf))
  else
    .error (ambiguous table (some field) .multipleDefaults (blankAt field records))

/-- Builds the subtree for records that agree on every field before `fields`,
`tested` being the last field that a branch above tests. A single record is a
leaf, whatever fields are left. -/
def ofGroup (table : TableName) :
    (fields : List Field) → (tested : Option Field) → (records : List Record) →
      Except Fault DecisionTree
  | [], tested, records =>
      match records with
      | [record] => .ok (.leaf record.leaf)
      | _ => .error (ambiguous table tested .exhausted records)
  | field :: fields, tested, records =>
      match records with
      | [record] => .ok (.leaf record.leaf)
      | _ =>
          if records.any fun record => (record.value field).isExact then
            split table field records (ofGroup table fields (some field))
          else
            ofGroup table fields tested records

/-- The tree of a table, not yet collapsed. A table without records has a
branch that fails for every value. -/
def ofRecordSet (set : RecordSet) : Except Fault DecisionTree :=
  if set.records.isEmpty then .ok (.branch set.schema.first [] none)
  else ofGroup set.table set.schema.fields none set.records

/-- Builds the tree of a table and warns where the table is empty. -/
def build (set : RecordSet) : Traced Fault DecisionTree where
  log := if set.records.isEmpty then [.noRecords set.table] else []
  result := ofRecordSet set

theorem mem_literalsAt {field : Field} {records : List Record} {literal : Literal} :
    literal ∈ literalsAt field records ↔
      ∃ record ∈ records, record.value field = .exact literal := by
  have exact_iff (value : FieldValue) : value.literal? = some literal ↔ value = .exact literal := by
    cases value <;> simp [FieldValue.literal?]
  simp [literalsAt, Literal.sort, exact_iff]

/-- The arms that are built for some literals hold what is built for each. -/
theorem mem_of_armsFor {literals : List Literal} {build : Literal → Except Fault DecisionTree}
    {arms : List (Literal × DecisionTree)} {literal : Literal} {child : DecisionTree}
    (built : armsFor build literals = .ok arms) (member : (literal, child) ∈ arms) :
    literal ∈ literals ∧ build literal = .ok child := by
  induction literals generalizing arms with
  | nil =>
      obtain rfl : [] = arms := Except.ok.inj built
      contradiction
  | cons head rest ih =>
      unfold armsFor at built
      split at built
      · contradiction
      · next tree first =>
          split at built
          · contradiction
          · next tail others =>
              obtain rfl := Except.ok.inj built
              rcases List.mem_cons.mp member with same | member
              · obtain ⟨rfl, rfl⟩ := Prod.mk.inj same
                exact ⟨by simp, first⟩
              · obtain ⟨inside, made⟩ := ih others member
                exact ⟨List.mem_cons_of_mem _ inside, made⟩

theorem mem_flattenArms {arms : List (Literal × DecisionTree)} {target : Leaf} :
    target ∈ flattenArms arms ↔ ∃ arm ∈ arms, target ∈ flatten arm.2 := by
  induction arms with
  | nil => simp [flattenArms]
  | cons arm rest ih => simp [flattenArms, ih]

/-- Where each part's leaves come from its records, so do those of a split. -/
theorem mem_flatten_split {table : TableName} {field : Field} {records : List Record}
    {build : List Record → Except Fault DecisionTree} {tree : DecisionTree} {target : Leaf}
    (parts : ∀ part child, build part = .ok child → target ∈ child.flatten →
      ∃ record ∈ part, record.leaf = target)
    (built : split table field records build = .ok tree) (member : target ∈ tree.flatten) :
    ∃ record ∈ records, record.leaf = target := by
  unfold split at built
  split at built
  · split at built
    · contradiction
    · next arms made =>
        obtain rfl := Except.ok.inj built
        rcases List.mem_append.mp member with member | member
        · obtain ⟨⟨literal, child⟩, inside, member⟩ := mem_flattenArms.mp member
          obtain ⟨record, found, same⟩ := parts _ _ (mem_of_armsFor made inside).2 member
          exact ⟨record, (List.mem_filter.mp found).1, same⟩
        · cases blanks : (blankAt field records).head? with
          | none => simp [blanks, flattenOtherwise] at member
          | some record =>
              simp only [blanks, Option.map_some, flattenOtherwise, flatten,
                List.mem_singleton] at member
              exact ⟨record, (List.mem_filter.mp (List.mem_of_head? blanks)).1, member.symm⟩
  · contradiction

/-- Every leaf of a group's tree is the leaf of one of its records. -/
theorem mem_flatten_ofGroup {table : TableName} {fields : List Field} {tested : Option Field}
    {records : List Record} {tree : DecisionTree} {target : Leaf}
    (built : ofGroup table fields tested records = .ok tree) (member : target ∈ tree.flatten) :
    ∃ record ∈ records, record.leaf = target := by
  induction fields generalizing tested records tree with
  | nil =>
      unfold ofGroup at built
      split at built
      · obtain rfl := Except.ok.inj built
        simp_all [flatten]
      · contradiction
  | cons field fields ih =>
      unfold ofGroup at built
      split at built
      · obtain rfl := Except.ok.inj built
        simp_all [flatten]
      · split at built
        · exact mem_flatten_split (fun _ _ made inside => ih made inside) built member
        · exact ih built member

/-- Every leaf of a table's tree is the leaf of one of its records. -/
theorem mem_flatten_ofRecordSet {set : RecordSet} {tree : DecisionTree} {target : Leaf}
    (built : ofRecordSet set = .ok tree) (member : target ∈ tree.flatten) :
    ∃ record ∈ set.records, record.leaf = target := by
  unfold ofRecordSet at built
  split at built
  · obtain rfl := Except.ok.inj built
    simp [flatten, flattenArms, flattenOtherwise] at member
  · exact mem_flatten_ofGroup built member

end DecisionTree

end OpcodeTables
