import OpcodeTables.Proofs.DecisionTree.Tested
import OpcodeTables.Proofs.Program.Evaluation

/-!
# Answers of lookup

What lookup answers in a program that was resolved.  A lookup may also fail
because a table is missing or because it went through too many tables, and both
failures name no field; neither ever occurs.  What is left are the handlers of
tables and failures at fields that tables test.
-/

namespace OpcodeTables

/-- The names of the tables that a walk from a table enters. -/
def Walk.entered (walk : Walk) (start : TableName) : List TableName :=
  start :: walk.hops.map Prod.snd

namespace Program

/-- What a table of a program may answer: the handler of one of its leaves, or
the failure at a field that it tests, which has a name. -/
inductive Answers (program : Program) : Except DecodeFailure (TableName × Leaf) → Prop where
  | decoded {table : GeneratedTable} {leaf : Leaf} (member : table ∈ program.tables)
      (inside : leaf ∈ table.tree.flatten) (stays : leaf.isProxy = false) :
      Answers program (.ok (table.name, leaf))
  | failed {table : GeneratedTable} {field : Field} (member : table ∈ program.tables)
      (tested : DecisionTree.Tests field table.tree) (named : field.name ≠ "") :
      Answers program (.error ⟨table.name, field.name⟩)

variable {program : Program} {read : FieldSource} {table : GeneratedTable}
  {entered : List TableName} {walk : Walk}

/-- Every field that a program tests has a name. -/
def Named (program : Program) : Prop :=
  ∀ table ∈ program.tables, ∀ field, DecisionTree.Tests field table.tree → field.name ≠ ""

namespace Resolved

/-- Where a lookup ends it hands nothing over any more, and the table has the
answer. -/
theorem answers_of_turn (resolved : program.Resolved) (named : program.Named)
    (member : table ∈ program.tables) (stop : program.turn read table = .ended walk) :
    walk.hops = [] ∧ program.Answers walk.outcome := by
  rw [turn] at stop
  cases followed : table.tree.follow fun field => read field.name with
  | error field =>
      obtain rfl : _ = walk := by simpa [followed] using stop
      have tested := DecisionTree.tests_of_follow followed
      exact ⟨rfl, .failed member tested (named table member field tested)⟩
  | ok leaf =>
      cases proxy : leaf.delegate with
      | none =>
          obtain rfl : _ = walk := by simpa [followed, proxy] using stop
          refine ⟨rfl, .decoded member (DecisionTree.mem_flatten_of_follow followed) ?_⟩
          rw [Leaf.isProxy, proxy, Option.isSome_none]
      | some next =>
          -- The table handed over to is there, so that the lookup goes on.
          obtain ⟨target, found⟩ :=
            resolved.exists_target member (resolved.mem_delegates member followed proxy)
          simp [followed, proxy, found] at stop

/-- A lookup that ends enters the tables it hops to, and its last table has the
answer. -/
theorem answers_of_chases (resolved : program.Resolved) (named : program.Named)
    (run : program.Chases read table entered walk)
    (first : program.table? table.name = some table) :
    walk.entered table.name = entered ∧ program.Answers walk.outcome := by
  induction run with
  | ended stop =>
      obtain ⟨stays, answers⟩ := resolved.answers_of_turn named (mem_of_table? first) stop
      exact ⟨by rw [Walk.entered, stays]; rfl, answers⟩
  | handed step further ih =>
      obtain ⟨entered, answers⟩ := ih (table?_of_turn step)
      exact ⟨by rw [← entered]; rfl, answers⟩

end Resolved

end Program

/-- The trees of a resolved program test fields of schemas, which have names. -/
theorem TableSource.named_of_resolve? {source : TableSource} {resolution : Resolution}
    {program : Program} (ended : source.resolve? = some resolution)
    (success : resolution.result = .ok program) : program.Named := by
  have discovers := discovers_of_resolve? ended success
  intro table member field tests
  obtain ⟨set, _, made⟩ := discovers.generates table member
  obtain ⟨tree, built, same⟩ := GeneratedTable.ofRecordSet_eq_ok made
  have trees : table.tree = tree.collapse := congrArg GeneratedTable.tree same
  rw [trees] at tests
  exact Schema.name_ne_empty
    (DecisionTree.mem_fields_of_tests built (DecisionTree.tests_of_collapse tests))

/-- In a program that resolving returns, every lookup is answered by one of its
tables: with a handler, or with the field that decided.  On the way it enters
tables of the program only and none of them twice.  So it never uses up its
budget, and the number of tables would do for one. -/
theorem Program.answers_lookup? {source : TableSource} {resolution : Resolution}
    {program : Program} (ended : source.resolve? = some resolution)
    (success : resolution.result = .ok program) (read : FieldSource) :
    ∃ root walk, program.root? = some root ∧ program.lookup? read = some walk ∧
      program.Answers walk.outcome ∧
      (walk.entered root.name).Nodup ∧ walk.entered root.name ⊆ program.names ∧
      ∀ budget, program.tables.length ≤ budget → program.walkFrom read budget root = walk := by
  have resolved := TableSource.resolved_of_resolve? ended success
  have named := TableSource.named_of_resolve? ended success
  obtain ⟨root, found⟩ := resolved.rooted
  have first := Program.table?_of_root? found
  obtain ⟨entered, walk, run⟩ := resolved.exists_chase read first
  obtain ⟨same, answers⟩ := resolved.answers_of_chases named run first
  refine ⟨root, walk, found, run.lookup?_eq found, answers, ?_, ?_, ?_⟩
  · rw [same]
    exact run.nodup_entered first
  · rw [same]
    exact run.entered_subset first
  · intro budget enough
    exact run.walkFrom_eq ((run.length_entered_le first).trans enough)

/-- A lookup through all three tables of a program, the last of which two
others hand over to, and one that fails in the second table. -/
theorem Program.answers_lookup?_shared :
    ∃ decoded failed,
      TableSource.sharedProgram.lookup? (.ofList [("opcode", .int 0), ("funct", .int 63)]) =
        some decoded ∧
      TableSource.sharedProgram.Answers decoded.outcome ∧
      decoded.outcome = .ok (⟨"cop0"⟩, ⟨"mfc0", 1, 4, none⟩) ∧
      (decoded.entered .root).Nodup ∧
      decoded.entered .root = [.root, ⟨"special"⟩, ⟨"cop0"⟩] ∧
      TableSource.sharedProgram.lookup? (.ofList [("opcode", .int 0)]) = some failed ∧
      TableSource.sharedProgram.Answers failed.outcome ∧
      failed.outcome = .error ⟨⟨"special"⟩, "funct"⟩ := by
  obtain ⟨resolution, ended, success⟩ := TableSource.resolve?_sharedSource
  obtain ⟨root, decoded, found, looked, answers, nodup, -⟩ :=
    Program.answers_lookup? ended success (.ofList [("opcode", .int 0), ("funct", .int 63)])
  obtain ⟨_, failed, _, missed, refuses, -⟩ :=
    Program.answers_lookup? ended success (.ofList [("opcode", .int 0)])
  obtain rfl : TableSource.sharedProgram.tables[0] = root := Option.some.inj found
  refine ⟨decoded, failed, looked, answers, ?_, nodup, ?_, missed, refuses, ?_⟩
  · rw [← Option.some.inj looked]
    cbv
  · rw [← Option.some.inj looked]
    cbv
  · rw [← Option.some.inj missed]
    cbv

end OpcodeTables
