import OpcodeTables.Proofs.Dispatch.Lowering
import OpcodeTables.Proofs.Dispatch.Mentions
import OpcodeTables.Proofs.Program.Chase
import OpcodeTables.Proofs.Program.Cycles
import OpcodeTables.Proofs.Program.Discovery

/-!
# Evaluation of dispatch

How the functions of a program decode when each does what its dispatch says:
select on a field, call the function of another table, or answer with a
handler.  Nothing bounds the calls.  For a program that was resolved every
evaluation ends, and it ends as the lookup does.
-/

namespace OpcodeTables

/-- An instruction that was decoded: the table that knew it, the name of its
handler and its cost. -/
structure Decoded where
  table : TableName
  handler : String
  cycles : UInt32
  deriving DecidableEq, Repr

/-- What the leaf of a table answers. -/
def Decoded.ofLeaf (answer : TableName × Leaf) : Decoded :=
  ⟨answer.1, answer.2.handler, answer.2.cycles⟩

namespace Program

variable {program : Program} {read : FieldSource} {table : TableName}
  {outcome : Except DecodeFailure Decoded}

/-- What a dispatch comes to within the function of a table. A value without
an arm and without a fallback is a decode failure at its field, and a call is
what the function of its table comes to. -/
inductive Evaluates (program : Program) (read : FieldSource) :
    TableName → Dispatch → Except DecodeFailure Decoded → Prop where
  | run {table : TableName} {handler : Handler} :
      Evaluates program read table (.run handler) (.ok ⟨table, handler.name, handler.cycles⟩)
  | delegate {table next : TableName} {target : GeneratedTable}
      {outcome : Except DecodeFailure Decoded} (found : program.table? next = some target)
      (called : Evaluates program read target.emission.table target.emission.body outcome) :
      Evaluates program read table (.delegate next) outcome
  | select {table : TableName} {field : Field} {arms : List (Literal × Dispatch)}
      {fallback : Option Dispatch} {body : Dispatch} {outcome : Except DecodeFailure Decoded}
      (choice : chosen (read field.name) arms fallback = some body)
      (further : Evaluates program read table body outcome) :
      Evaluates program read table (.select field arms fallback) outcome
  | fail {table : TableName} {field : Field} {arms : List (Literal × Dispatch)}
      {fallback : Option Dispatch} (choice : chosen (read field.name) arms fallback = none) :
      Evaluates program read table (.select field arms fallback) (.error ⟨table, field.name⟩)

/-! ## Each form of dispatch -/

theorem evaluates_run {handler : Handler} :
    program.Evaluates read table (.run handler) outcome ↔
      outcome = .ok ⟨table, handler.name, handler.cycles⟩ := by
  constructor
  · rintro ⟨⟩
    rfl
  · rintro rfl
    exact .run

theorem evaluates_delegate {next : TableName} {target : GeneratedTable}
    (found : program.table? next = some target) :
    program.Evaluates read table (.delegate next) outcome ↔
      program.Evaluates read target.emission.table target.emission.body outcome := by
  constructor
  · intro evaluated
    cases evaluated with
    | delegate again called =>
        obtain rfl := Option.some.inj (found.symm.trans again)
        exact called
  · exact .delegate found

theorem evaluates_select {field : Field} {arms : List (Literal × Dispatch)}
    {fallback : Option Dispatch} :
    program.Evaluates read table (.select field arms fallback) outcome ↔
      match chosen (read field.name) arms fallback with
      | some body => program.Evaluates read table body outcome
      | none => outcome = .error ⟨table, field.name⟩ := by
  constructor
  · intro evaluated
    cases evaluated with
    | select choice further => simpa [choice] using further
    | fail choice => simp [choice]
  · intro evaluated
    cases choice : chosen (read field.name) arms fallback with
    | some body =>
        rw [choice] at evaluated
        exact .select choice evaluated
    | none =>
        rw [choice] at evaluated
        rw [evaluated]
        exact .fail choice

/-- A lowered tree evaluates as the leaf does that following the tree comes to. -/
theorem evaluates_lower (tree : DecisionTree) :
    program.Evaluates read table (.lower tree) outcome ↔
      match tree.follow fun field => read field.name with
      | .error field => outcome = .error ⟨table, field.name⟩
      | .ok leaf => program.Evaluates read table (.lower (.leaf leaf)) outcome := by
  induction tree using DecisionTree.induction with
  | leaf target => rfl
  | branch field arms otherwise below beside =>
      rw [Dispatch.lower_branch, evaluates_select, chosen_map, DecisionTree.follow_branch]
      cases choice : chosen (read field.name) arms otherwise with
      | none => simp
      | some child =>
          rcases mem_of_chosen choice with ⟨arm, member, rfl⟩ | same
          · exact below arm member
          · exact beside child same

/-! ## Programs that were resolved -/

/-- What decoding relies on in a program: there is a root, every table is
lowered from its tree and hands over to tables of the program only, and no
table comes back to itself. -/
structure Resolved (program : Program) : Prop where
  rooted : ∃ root, program.root? = some root
  lowered : ∀ table ∈ program.tables, table = .ofTree table.name table.tree
  closed : ∀ table ∈ program.tables, ∀ next ∈ table.delegates, next ∈ program.names
  acyclic : cycle? program.tables = none

namespace Resolved

variable {entered : List TableName} {walk : Walk} {table target : GeneratedTable}

/-- Wherever the tree of a table may hand over, the table says so. -/
theorem mem_delegates (resolved : program.Resolved) (member : table ∈ program.tables)
    {leaf : Leaf} (followed : (table.tree.follow fun field => read field.name) = .ok leaf)
    {next : TableName} (proxy : leaf.delegate = some next) : next ∈ table.delegates := by
  rw [resolved.lowered table member]
  exact Emission.mem_delegates_ofTree.mpr
    ⟨leaf, DecisionTree.mem_flatten_of_follow followed, proxy⟩

/-- Wherever the dispatch of a table hands over, the program has a table. -/
theorem mem_names_of_handed (resolved : program.Resolved) (member : table ∈ program.tables)
    {next : TableName} (handed : next ∈ table.emission.body.delegations) :
    next ∈ program.names := by
  refine resolved.closed table member next ?_
  rw [resolved.lowered table member] at handed ⊢
  exact Emission.mem_delegations_ofTree.mp handed

theorem exists_target (resolved : program.Resolved) (member : table ∈ program.tables)
    {next : TableName} (mentioned : next ∈ table.delegates) :
    ∃ target, program.table? next = some target := by
  obtain ⟨target, among, same⟩ := List.mem_map.mp (resolved.closed table member next mentioned)
  rw [← Option.isSome_iff_exists]
  exact List.find?_isSome.mpr ⟨target, among, by simpa using same⟩

theorem leads_of_turn (resolved : program.Resolved)
    (first : program.table? table.name = some table)
    (handed : program.turn read table = .handed target) :
    Leads program.tables table.name target.name := by
  obtain ⟨leaf, next, followed, proxy, found⟩ := turn_eq_handed.mp handed
  have mentioned := resolved.mem_delegates (mem_of_table? first) followed proxy
  rw [Leads, delegatesOf, show program.tables.find? (·.name = table.name) = some table from first,
    name_of_table? found]
  exact mentioned

/-- A lookup without a bound ends from every table among settled names. -/
theorem exists_chase_of_settled (resolved : program.Resolved) {order : List TableName}
    (settled : Settled program.tables order) (read : FieldSource)
    (first : program.table? table.name = some table) (member : table.name ∈ order) :
    ∃ entered walk, program.Chases read table entered walk := by
  induction order generalizing table with
  | nil => contradiction
  | cons name rest ih =>
      obtain ⟨behind, settled⟩ := settled
      rcases List.mem_cons.mp member with rfl | member
      · cases step : program.turn read table with
        | ended walk => exact ⟨_, _, .ended step⟩
        | handed target =>
            have leads := resolved.leads_of_turn first step
            obtain ⟨entered, walk, run⟩ :=
              ih settled (table?_of_turn step) (behind target.name leads)
            exact ⟨_, _, .handed step run⟩
      · exact ih settled first member

/-- No lookup goes on for ever. -/
theorem exists_chase (resolved : program.Resolved) (read : FieldSource)
    (first : program.table? table.name = some table) :
    ∃ entered walk, program.Chases read table entered walk := by
  obtain ⟨order, settled, every⟩ := exists_settled_of_cycle? resolved.acyclic
  exact resolved.exists_chase_of_settled settled read first
    (every table.name (List.mem_map_of_mem (mem_of_table? first)))

/-- The function of a table does what its leaf does. -/
theorem evaluates_body (resolved : program.Resolved) (member : table ∈ program.tables) :
    program.Evaluates read table.emission.table table.emission.body outcome ↔
      match table.tree.follow fun field => read field.name with
      | .error field => outcome = .error ⟨table.name, field.name⟩
      | .ok leaf => program.Evaluates read table.name (.lower (.leaf leaf)) outcome := by
  rw [← evaluates_lower, resolved.lowered table member]
  rfl

/-- The functions of a program come to what a lookup that ends comes to. -/
theorem evaluates_iff_of_chases (resolved : program.Resolved) {table : GeneratedTable}
    (run : program.Chases read table entered walk)
    (first : program.table? table.name = some table) :
    program.Evaluates read table.emission.table table.emission.body outcome ↔
      outcome = walk.outcome.map Decoded.ofLeaf := by
  induction run with
  | @ended table walk stop =>
      have member := mem_of_table? first
      rw [resolved.evaluates_body member]
      rw [turn] at stop
      cases followed : table.tree.follow fun field => read field.name with
      | error field =>
          obtain rfl : _ = walk := by simpa [followed] using stop
          rfl
      | ok leaf =>
          cases proxy : leaf.delegate with
          | none =>
              obtain rfl : _ = walk := by simpa [followed, proxy] using stop
              dsimp only
              rw [Dispatch.lower_handler proxy, evaluates_run]
              rfl
          | some next =>
              -- Nothing ends here, since the table handed over to is there.
              obtain ⟨target, found⟩ :=
                resolved.exists_target member (resolved.mem_delegates member followed proxy)
              simp [followed, proxy, found] at stop
  | @handed table target entered walk step further ih =>
      obtain ⟨leaf, next, followed, proxy, found⟩ := turn_eq_handed.mp step
      rw [resolved.evaluates_body (mem_of_table? first), followed]
      dsimp only
      rw [Dispatch.lower_proxy proxy, evaluates_delegate found, ih (table?_of_turn step)]
      rfl

end Resolved

end Program

namespace TableSource

variable {source : TableSource} {resolution : Resolution} {program : Program}

/-- Every program that resolving returns is resolved. -/
theorem resolved_of_resolve? (ended : source.resolve? = some resolution)
    (success : resolution.result = .ok program) : program.Resolved := by
  obtain ⟨found, run, rfl⟩ := resolve?_eq_some_iff.mp ended
  obtain ⟨success, acyclic⟩ := resolution_eq_ok.mp success
  have discovers := discovers_of_explores run success
  refine ⟨?_, ?_, ?_, acyclic⟩
  · cases listed : program.tables with
    | nil =>
        have member := (discovers.reachable .root).mpr .refl
        simp [listed] at member
    | cons root rest => exact ⟨root, by simp [Program.root?, listed]⟩
  · intro table member
    obtain ⟨tree, same⟩ := (discovers.generates table member).eq_ofTree
    have trees : table.tree = tree := congrArg GeneratedTable.tree same
    rw [trees]
    exact same
  · intro table member next mentioned
    exact mem_names_of_mentioned discovers.order member mentioned

end TableSource

/-- Whatever program resolving returns, its functions decode as lookup does.
Started at the root, without any bound on their calls, they come to one
outcome, and it is that of the lookup: the same table, handler and cycles, or a
failure at the same field of the same table. -/
theorem Program.evaluates_iff_lookup {source : TableSource} {resolution : Resolution}
    {program : Program} (ended : source.resolve? = some resolution)
    (success : resolution.result = .ok program) (read : FieldSource) :
    ∃ root walk, program.root? = some root ∧ program.lookup? read = some walk ∧
      ∀ outcome, program.Evaluates read root.emission.table root.emission.body outcome ↔
        outcome = walk.outcome.map Decoded.ofLeaf := by
  have resolved := TableSource.resolved_of_resolve? ended success
  obtain ⟨root, found⟩ := resolved.rooted
  have first := Program.table?_of_root? found
  obtain ⟨entered, walk, run⟩ := resolved.exists_chase read first
  refine ⟨root, walk, found, run.lookup?_eq found, ?_⟩
  intro outcome
  exact resolved.evaluates_iff_of_chases run first

/-- An instruction that goes through three tables, and one that no arm of the
root takes. -/
theorem Program.evaluates_iff_lookup_shared :
    ∃ root, TableSource.sharedProgram.root? = some root ∧
      (∀ outcome, TableSource.sharedProgram.Evaluates
        (.ofList [("opcode", .int 0), ("funct", .int 63)])
        root.emission.table root.emission.body outcome ↔
          outcome = .ok ⟨⟨"cop0"⟩, "mfc0", 1⟩) ∧
      ∀ outcome, TableSource.sharedProgram.Evaluates (.ofList [("opcode", .int 3)])
        root.emission.table root.emission.body outcome ↔
          outcome = .error ⟨.root, "opcode"⟩ := by
  obtain ⟨resolution, ended, success⟩ := TableSource.resolve?_sharedSource
  obtain ⟨root, walk, found, looked, decodes⟩ := Program.evaluates_iff_lookup ended success
    (.ofList [("opcode", .int 0), ("funct", .int 63)])
  obtain ⟨same, other, again, missed, fails⟩ := Program.evaluates_iff_lookup ended success
    (.ofList [("opcode", .int 3)])
  obtain rfl : root = same := Option.some.inj (found.symm.trans again)
  have answer : walk.outcome.map Decoded.ofLeaf = .ok ⟨⟨"cop0"⟩, "mfc0", 1⟩ := by
    rw [← Option.some.inj looked]
    cbv
  have failure : other.outcome.map Decoded.ofLeaf = .error ⟨.root, "opcode"⟩ := by
    rw [← Option.some.inj missed]
    cbv
  refine ⟨root, found, ?_, ?_⟩
  · simpa [answer] using decodes
  · simpa [failure] using fails

end OpcodeTables
