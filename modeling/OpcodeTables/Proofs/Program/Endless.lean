import Mathlib
import OpcodeTables.Proofs.Program.Chase

/-!
# Lookups without end

In a program that nobody checked tables may hand over in a circle, names may
repeat and tables may be missing.  Wherever a chase ends, lookup ends with it.
A chase without end comes back to a table within as many hand-overs as the
program has tables, and from there on it goes round.  Lookup, whose budget is
one more, stops on the round and not on the way to it.
-/

namespace OpcodeTables

namespace Program

/-- The table that an instruction has come to after a number of hand-overs, if
it is handed over as often. -/
def stage (program : Program) (read : FieldSource) :
    GeneratedTable → Nat → Option GeneratedTable
  | table, 0 => some table
  | table, count + 1 =>
      match program.turn read table with
      | .ended _ => none
      | .handed target => stage program read target count

variable {program : Program} {read : FieldSource} {table target : GeneratedTable}

theorem stage_succ_of_handed (handed : program.turn read table = .handed target) (count : Nat) :
    program.stage read table (count + 1) = program.stage read target count := by
  rw [stage, handed]

/-- The hand-overs after some others are those of the table that these lead to. -/
theorem stage_add {count : Nat} (reached : program.stage read table count = some target)
    (more : Nat) : program.stage read table (count + more) = program.stage read target more := by
  induction count generalizing table with
  | zero =>
      obtain rfl := Option.some.inj reached
      rw [Nat.zero_add]
  | succ count ih =>
      cases step : program.turn read table with
      | ended walk => simp [stage, step] at reached
      | handed next =>
          rw [stage_succ_of_handed step] at reached
          rw [Nat.add_right_comm, stage_succ_of_handed step]
          exact ih reached

/-- Whatever an instruction comes to is the first table of its name. -/
theorem table?_of_stage (first : program.table? table.name = some table) {count : Nat}
    (reached : program.stage read table count = some target) :
    program.table? target.name = some target := by
  induction count generalizing table with
  | zero =>
      obtain rfl := Option.some.inj reached
      exact first
  | succ count ih =>
      cases step : program.turn read table with
      | ended walk => simp [stage, step] at reached
      | handed next =>
          rw [stage_succ_of_handed step] at reached
          exact ih (table?_of_turn step) reached

/-- What a lookup comes to at a table that hands it on to no other: a handler,
a field that has no arm for the instruction, or a table that is missing. -/
inductive Stops (program : Program) (read : FieldSource) (table : GeneratedTable) :
    Except DecodeFailure (TableName × Leaf) → Prop where
  | decoded {leaf : Leaf} (followed : table.tree.follow (fun field => read field.name) = .ok leaf)
      (handler : leaf.delegate = none) : Stops program read table (.ok (table.name, leaf))
  | failed {field : Field}
      (unmatched : table.tree.follow (fun field => read field.name) = .error field) :
      Stops program read table (.error ⟨table.name, field.name⟩)
  | missing {leaf : Leaf} {next : TableName}
      (followed : table.tree.follow (fun field => read field.name) = .ok leaf)
      (proxy : leaf.delegate = some next) (absent : program.table? next = none) :
      Stops program read table (.error ⟨next, ""⟩)

/-- The chase from a table stops with an outcome after some hand-overs. -/
def EndsIn (program : Program) (read : FieldSource) (table : GeneratedTable)
    (outcome : Except DecodeFailure (TableName × Leaf)) : Prop :=
  ∃ count last, program.stage read table count = some last ∧ program.Stops read last outcome

/-- The chase from a table hands the instruction over any number of times. -/
def Endless (program : Program) (read : FieldSource) (table : GeneratedTable) : Prop :=
  ∀ count, ∃ target, program.stage read table count = some target

theorem stops_iff {outcome : Except DecodeFailure (TableName × Leaf)} :
    program.Stops read table outcome ↔
      ∃ walk, program.turn read table = .ended walk ∧ walk.outcome = outcome := by
  rw [turn]
  constructor
  · intro stops
    cases stops with
    | @decoded leaf followed handler =>
        refine ⟨⟨[], .ok (table.name, leaf)⟩, ?_, rfl⟩
        simp [followed, handler]
    | @failed field unmatched =>
        refine ⟨⟨[], .error ⟨table.name, field.name⟩⟩, ?_, rfl⟩
        simp [unmatched]
    | @missing leaf next followed proxy absent =>
        refine ⟨⟨[(table.name, next)], .error ⟨next, ""⟩⟩, ?_, rfl⟩
        simp [followed, proxy, absent]
  · rintro ⟨walk, ended, rfl⟩
    split at ended
    · next field unmatched =>
        obtain rfl := Turn.ended.inj ended
        exact .failed unmatched
    · next leaf followed =>
        split at ended
        · next handler =>
            obtain rfl := Turn.ended.inj ended
            exact .decoded followed handler
        · next proxy =>
            split at ended
            · next absent =>
                obtain rfl := Turn.ended.inj ended
                exact .missing followed proxy absent
            · contradiction

/-! ## Chases that end -/

/-- A chase that stops after some hand-overs is one that ends. -/
theorem EndsIn.exists_chases {outcome : Except DecodeFailure (TableName × Leaf)}
    (ends : program.EndsIn read table outcome) :
    ∃ entered walk, program.Chases read table entered walk ∧ walk.outcome = outcome := by
  obtain ⟨count, last, reached, stops⟩ := ends
  induction count generalizing table with
  | zero =>
      obtain rfl := Option.some.inj reached
      obtain ⟨walk, stop, same⟩ := stops_iff.mp stops
      exact ⟨_, walk, .ended stop, same⟩
  | succ count ih =>
      cases step : program.turn read table with
      | ended walk => simp [stage, step] at reached
      | handed next =>
          rw [stage_succ_of_handed step] at reached
          obtain ⟨entered, walk, run, same⟩ := ih reached
          exact ⟨_, _, .handed step run, same⟩

/-- A chase that never stops has no end. -/
theorem endless_of_forall_not (never : ∀ outcome, ¬program.EndsIn read table outcome) :
    program.Endless read table := by
  intro count
  induction count with
  | zero => exact ⟨table, rfl⟩
  | succ count ih =>
      obtain ⟨last, reached⟩ := ih
      cases step : program.turn read last with
      | ended walk =>
          exact absurd ⟨count, last, reached, stops_iff.mpr ⟨walk, step, rfl⟩⟩ (never walk.outcome)
      | handed next =>
          refine ⟨next, ?_⟩
          rw [stage_add reached, stage_succ_of_handed step]
          rfl

/-! ## Chases that never end -/

/-- A walk that is out of budget fails at the table that it has come to. -/
theorem outcome_walkFrom_of_stage {budget : Nat}
    (reached : program.stage read table budget = some target) :
    (program.walkFrom read budget table).outcome = .error ⟨target.name, ""⟩ := by
  induction budget generalizing table with
  | zero =>
      obtain rfl := Option.some.inj reached
      rfl
  | succ budget ih =>
      cases step : program.turn read table with
      | ended walk => simp [stage, step] at reached
      | handed next =>
          rw [stage_succ_of_handed step] at reached
          rw [walkFrom_succ, step]
          exact ih reached

/-- Among one more hand-overs than there are tables, two lead to the same table. -/
theorem exists_repeat (first : program.table? table.name = some table)
    (endless : program.Endless read table) :
    ∃ left right, left < right ∧ right ≤ program.tables.length ∧
      program.stage read table left = program.stage read table right := by
  choose targets reached using endless
  have listed (count : Nat) : program.table? (targets count).name = some (targets count) :=
    table?_of_stage first (reached count)
  have inside : ∀ count ∈ Finset.range (program.tables.length + 1),
      (targets count).name ∈ program.names.toFinset := by
    intro count _
    rw [List.mem_toFinset]
    exact List.mem_map_of_mem (mem_of_table? (listed count))
  have few : program.names.toFinset.card < (Finset.range (program.tables.length + 1)).card := by
    rw [Finset.card_range, Nat.lt_succ_iff]
    apply (List.toFinset_card_le _).trans
    rw [names, List.length_map]
  obtain ⟨left, leftInside, right, rightInside, different, same⟩ :=
    Finset.exists_ne_map_eq_of_card_lt_of_maps_to few inside
  -- One name stands for one table, the first of that name.
  have table_eq : targets left = targets right := by
    have found := listed left
    rw [same, listed right] at found
    exact (Option.some.inj found).symm
  have stages : program.stage read table left = program.stage read table right := by
    rw [reached, reached, table_eq]
  rw [Finset.mem_range, Nat.lt_succ_iff] at leftInside rightInside
  rcases Nat.lt_or_gt_of_ne different with before | after
  · exact ⟨left, right, before, rightInside, stages⟩
  · exact ⟨right, left, after, leftInside, stages.symm⟩

/-- From a table that it comes back to on, a chase goes round. -/
theorem stage_add_mul {left right count : Nat} (before : left < right)
    (same : program.stage read table left = program.stage read table right)
    (reached : program.stage read table left = some target) (later : left ≤ count) (rounds : Nat) :
    program.stage read table (count + rounds * (right - left)) = program.stage read table count := by
  induction rounds with
  | zero => rw [Nat.zero_mul, Nat.add_zero]
  | succ rounds ih =>
      rw [← ih]
      have shifted : count + (rounds + 1) * (right - left) =
          right + (count + rounds * (right - left) - left) := by
        rw [Nat.succ_mul]
        omega
      have unshifted : count + rounds * (right - left) =
          left + (count + rounds * (right - left) - left) := by
        omega
      rw [shifted, stage_add (same.symm.trans reached)]
      conv_rhs => rw [unshifted, stage_add reached]

/-- A chase without end comes to the table at which lookup gives up, and comes
to it again after any number of hand-overs. -/
theorem exists_recurring (first : program.table? table.name = some table)
    (endless : program.Endless read table) :
    ∃ target, program.stage read table (program.tables.length + 1) = some target ∧
      ∀ count, ∃ later, count ≤ later ∧ program.stage read table later = some target := by
  obtain ⟨left, right, before, within, same⟩ := exists_repeat first endless
  obtain ⟨start, reached⟩ := endless left
  obtain ⟨target, stopped⟩ := endless (program.tables.length + 1)
  refine ⟨target, stopped, ?_⟩
  intro count
  have behind : left ≤ program.tables.length + 1 := by omega
  refine ⟨program.tables.length + 1 + count * (right - left), ?_, ?_⟩
  · have period : count * 1 ≤ count * (right - left) := Nat.mul_le_mul_left count (by omega)
    omega
  · rw [stage_add_mul before same reached behind, stopped]

end Program

/-- Lookup in any program that has a table, whatever it hands over to, is the
chase from its first table.  A chase that ends is followed to its end: lookup
has its outcome.  Where the chase has no end, lookup fails without a field at a
table that the chase comes to again and again. -/
theorem Program.lookup?_exact {program : Program} {root : GeneratedTable}
    (rooted : program.root? = some root) (read : FieldSource) :
    ((∃ outcome, program.EndsIn read root outcome) ∨ program.Endless read root) ∧
    (∀ outcome, program.EndsIn read root outcome →
      ∃ walk, program.lookup? read = some walk ∧ walk.outcome = outcome) ∧
    (program.Endless read root →
      ∃ walk target, program.lookup? read = some walk ∧
        walk.outcome = .error ⟨target.name, ""⟩ ∧
        ∀ count, ∃ later, count ≤ later ∧ program.stage read root later = some target) := by
  refine ⟨?_, ?_, ?_⟩
  · by_cases never : ∃ outcome, program.EndsIn read root outcome
    · exact .inl never
    · exact .inr (endless_of_forall_not (not_exists.mp never))
  · intro outcome ends
    obtain ⟨entered, walk, run, same⟩ := ends.exists_chases
    exact ⟨walk, run.lookup?_eq rooted, same⟩
  · intro endless
    obtain ⟨target, stopped, again⟩ := exists_recurring (table?_of_root? rooted) endless
    refine ⟨_, target, ?_, outcome_walkFrom_of_stage stopped, again⟩
    rw [lookup?, rooted, Option.map_some]

/-- A program that nobody checked: `fetch` and `wait` hand over to each other, a
second `fetch` is never entered, and `trap` is missing. -/
def uncheckedProgram : Program :=
  .ofTrees [
    (.root, .branch ⟨0, "opcode"⟩ [
      (.int 0, .leaf ⟨"", 0, 0, some ⟨"fetch"⟩⟩),
      (.int 1, .leaf ⟨"", 0, 1, some ⟨"trap"⟩⟩)] none),
    (⟨"fetch"⟩, .leaf ⟨"", 0, 0, some ⟨"wait"⟩⟩),
    (⟨"wait"⟩, .leaf ⟨"", 0, 0, some ⟨"fetch"⟩⟩),
    (⟨"fetch"⟩, .leaf ⟨"nop", 1, 0, none⟩)]

/-- Lookup reports a table of the circle and not the root that leads to it, and
the table that is missing. -/
theorem Program.lookup?_exact_unchecked :
    (∃ root, uncheckedProgram.root? = some root ∧
      uncheckedProgram.Endless (.ofList [("opcode", .int 0)]) root ∧
      uncheckedProgram.EndsIn (.ofList [("opcode", .int 1)]) root (.error ⟨⟨"trap"⟩, ""⟩) ∧
      ∃ target, target.name = ⟨"fetch"⟩ ∧ ∀ count, ∃ later, count ≤ later ∧
        uncheckedProgram.stage (.ofList [("opcode", .int 0)]) root later = some target) ∧
    (∃ walk, uncheckedProgram.lookup? (.ofList [("opcode", .int 0)]) = some walk ∧
      walk.outcome = .error ⟨⟨"fetch"⟩, ""⟩) ∧
    ∃ walk, uncheckedProgram.lookup? (.ofList [("opcode", .int 1)]) = some walk ∧
      walk.outcome = .error ⟨⟨"trap"⟩, ""⟩ := by
  have rooted : uncheckedProgram.root? = some uncheckedProgram.tables[0] := rfl
  have toFetch : uncheckedProgram.turn (.ofList [("opcode", .int 0)])
      uncheckedProgram.tables[0] = .handed uncheckedProgram.tables[1] := by cbv
  have toWait : uncheckedProgram.turn (.ofList [("opcode", .int 0)])
      uncheckedProgram.tables[1] = .handed uncheckedProgram.tables[2] := by cbv
  have back : uncheckedProgram.turn (.ofList [("opcode", .int 0)])
      uncheckedProgram.tables[2] = .handed uncheckedProgram.tables[1] := by cbv
  have round : uncheckedProgram.Endless (.ofList [("opcode", .int 0)])
        uncheckedProgram.tables[1] ∧
      uncheckedProgram.Endless (.ofList [("opcode", .int 0)]) uncheckedProgram.tables[2] := by
    rw [Endless, Endless, ← forall_and]
    intro count
    induction count with
    | zero => exact ⟨⟨_, rfl⟩, ⟨_, rfl⟩⟩
    | succ count ih =>
        rw [stage_succ_of_handed toWait, stage_succ_of_handed back]
        exact ih.symm
  have endless : uncheckedProgram.Endless (.ofList [("opcode", .int 0)])
      uncheckedProgram.tables[0] := by
    intro count
    cases count with
    | zero => exact ⟨_, rfl⟩
    | succ count =>
        rw [stage_succ_of_handed toFetch]
        exact round.1 count
  have toTrap : uncheckedProgram.tables[0].tree.follow
      (fun field => FieldSource.ofList [("opcode", .int 1)] field.name) =
        .ok ⟨"", 0, 1, some ⟨"trap"⟩⟩ := by cbv
  have ends : uncheckedProgram.EndsIn (.ofList [("opcode", .int 1)])
      uncheckedProgram.tables[0] (.error ⟨⟨"trap"⟩, ""⟩) :=
    ⟨0, _, rfl, .missing toTrap rfl (by cbv)⟩
  obtain ⟨walk, target, looked, failed, again⟩ :=
    (Program.lookup?_exact rooted (.ofList [("opcode", .int 0)])).2.2 endless
  have outcome : walk.outcome = .error ⟨⟨"fetch"⟩, ""⟩ := by
    rw [← Option.some.inj looked]
    cbv
  have same : target.name = ⟨"fetch"⟩ :=
    congrArg DecodeFailure.table (Except.error.inj (failed.symm.trans outcome))
  exact ⟨⟨_, rooted, endless, ends, target, same, again⟩, ⟨walk, looked, outcome⟩,
    (Program.lookup?_exact rooted (.ofList [("opcode", .int 1)])).2.1 _ ends⟩

end OpcodeTables
