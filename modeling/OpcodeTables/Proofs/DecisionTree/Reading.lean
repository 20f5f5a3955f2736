import Mathlib
import OpcodeTables.Program.Lookup
import OpcodeTables.Proofs.DecisionTree.Collapsing
import OpcodeTables.Proofs.DecisionTree.Selection

/-!
# Reading fields by position and by name

A tree reads the fields that it tests and no others.  Those of a built tree are
fields of the table's schema, whose names are distinct and whose positions are
their places in the list of names.  Values that are given in the order of the
schema are therefore found by name as well as by position, however many there are.
-/

namespace OpcodeTables

/-- In a list that pairs distinct names with values, a name is found with the value
at its own position, if there is one. -/
theorem lookup_zip {names : List String} (nodup : names.Nodup) {index : Nat}
    (inside : index < names.length) (values : List Literal) :
    (names.zip values).lookup names[index] = values[index]? := by
  induction names generalizing index values with
  | nil => contradiction
  | cons name rest ih =>
      obtain ⟨fresh, nodup⟩ := List.nodup_cons.mp nodup
      cases values with
      | nil => simp
      | cons value values =>
          cases index with
          | zero => simp
          | succ index =>
              have later : index < rest.length := Nat.lt_of_succ_lt_succ inside
              have other : (rest[index] == name) = false := by
                rw [beq_eq_false_iff_ne]
                exact fun same => fresh (same ▸ List.getElem_mem later)
              rw [List.zip_cons_cons, List.getElem_cons_succ, List.lookup_cons, other,
                List.getElem?_cons_succ]
              exact ih nodup later values

/-- Values under the names of a schema's fields, as far as both go. -/
def Schema.named (schema : Schema) (values : List Literal) : FieldSource :=
  .ofList (schema.names.zip values)

/-- A field of a schema is read by name where it is read by position. -/
theorem Schema.named_name {schema : Schema} {field : Field} (member : field ∈ schema.fields)
    (values : List Literal) : schema.named values field.name = values[field.index]? := by
  obtain ⟨index, inside, rfl⟩ := List.mem_mapIdx.mp member
  exact lookup_zip schema.nodup inside values

namespace DecisionTree

/-- What a tree decodes, or where it fails, depends on the fields alone that it
tests. -/
theorem follow_congr {left right : Field → Option Literal} {tree : DecisionTree}
    (agree : ∀ field, Tests field tree → left field = right field) :
    tree.follow left = tree.follow right := by
  induction tree using DecisionTree.induction with
  | leaf target => rfl
  | branch field arms otherwise below beside =>
      rw [follow_branch, follow_branch, agree field .here]
      cases choice : chosen (right field) arms otherwise with
      | none => rfl
      | some child =>
          rcases mem_of_chosen choice with ⟨arm, member, rfl⟩ | rfl
          · exact below arm member fun inner tests => agree inner (.arm member tests)
          · exact beside child rfl fun inner tests => agree inner (.otherwise tests)

/-- Where a table is built, its tree answers a list of values by their positions as
it answers the same values by the names of the schema: with the same leaf, or with
a failure at the same field.  So does the collapsed tree, and it makes no
difference whether there are fewer values than fields or more. -/
theorem query_eq_follow_named {set : RecordSet} {tree : DecisionTree}
    (built : (build set).result = .ok tree) (values : List Literal) :
    let named := fun field : Field => set.schema.named values field.name
    tree.query values = (tree.follow named).toOption ∧
      tree.collapse.query values = (tree.follow named).toOption ∧
      tree.collapse.follow named = tree.follow named ∧
      tree.follow (fun field => values[field.index]?) = tree.follow named := by
  intro named
  have same : tree.follow (fun field => values[field.index]?) = tree.follow named := by
    apply follow_congr
    intro field tests
    exact (Schema.named_name (mem_fields_of_tests built tests) values).symm
  refine ⟨?_, ?_, follow_collapse named tree, same⟩
  · rw [query, same]
  · rw [query, follow_collapse, same]

/-- A list that stops before `rs` decodes to the row that leaves `rs` blank, one
that goes on after `funct` to what its first values select, and an empty one
fails at the first field. -/
theorem query_eq_follow_named_coprocessorSet :
    (build coprocessorSet).result = .ok coprocessorTree ∧
      coprocessorTree.query [.int 16] = some ⟨"rfe", 1, 2, none⟩ ∧
      coprocessorTree.collapse.query [.int 16, .int 4, .int 0, .int 9] =
        some ⟨"mtc0", 1, 1, none⟩ ∧
      coprocessorTree.follow (fun field => ([] : List Literal)[field.index]?) =
        .error ⟨0, "opcode"⟩ := by
  have built := build_coprocessorSet
  refine ⟨built, ?_, ?_, ?_⟩
  · rw [(query_eq_follow_named built [.int 16]).1]
    cbv
  · rw [(query_eq_follow_named built [.int 16, .int 4, .int 0, .int 9]).2.1]
    cbv
  · rw [(query_eq_follow_named built []).2.2.2]
    cbv

end DecisionTree

end OpcodeTables
