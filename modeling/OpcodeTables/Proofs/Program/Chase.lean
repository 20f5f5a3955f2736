import OpcodeTables.Program.Lookup
import Mathlib.Data.List.Nodup
import Mathlib.Data.List.Perm.Subperm

/-!
# Chases

A lookup without a bound: from table to table until one has the answer.  A
chase that ends never enters a table twice, since it would enter it for ever.
So it enters no more tables than the program has, and lookup follows it to its
end.
-/

namespace OpcodeTables

/-- The course of a lookup that comes from a table before it. -/
def Walk.after (walk : Walk) (hop : TableName × TableName) : Walk :=
  ⟨hop :: walk.hops, walk.outcome⟩

/-- What a table does with an instruction: it ends the lookup or hands the
instruction over. -/
inductive Turn where
  | ended (walk : Walk)
  | handed (target : GeneratedTable)

namespace Program

variable {program : Program} {read : FieldSource} {table target : GeneratedTable}

/-- What a table does with an instruction. -/
def turn (program : Program) (read : FieldSource) (table : GeneratedTable) : Turn :=
  match table.tree.follow fun field => read field.name with
  | .error field => .ended ⟨[], .error ⟨table.name, field.name⟩⟩
  | .ok leaf =>
      match leaf.delegate with
      | none => .ended ⟨[], .ok (table.name, leaf)⟩
      | some next =>
          match program.table? next with
          | none => .ended ⟨[(table.name, next)], .error ⟨next, ""⟩⟩
          | some target => .handed target

/-- The leaf by which a table hands an instruction over. -/
theorem turn_eq_handed :
    program.turn read table = .handed target ↔
      ∃ leaf next, table.tree.follow (fun field => read field.name) = .ok leaf ∧
        leaf.delegate = some next ∧ program.table? next = some target := by
  rw [turn]
  constructor
  · intro handed
    split at handed
    · contradiction
    · next leaf followed =>
        split at handed
        · contradiction
        · next next proxy =>
            split at handed
            · contradiction
            · next other found =>
                obtain rfl := Turn.handed.inj handed
                exact ⟨leaf, next, followed, proxy, found⟩
  · rintro ⟨leaf, next, followed, proxy, found⟩
    simp [followed, proxy, found]

/-- Whatever is handed over goes to the first table of its name. -/
theorem table?_of_turn (handed : program.turn read table = .handed target) :
    program.table? target.name = some target := by
  obtain ⟨_, next, _, _, found⟩ := turn_eq_handed.mp handed
  rw [name_of_table? found]
  exact found

theorem walkFrom_succ (program : Program) (read : FieldSource) (budget : Nat)
    (table : GeneratedTable) :
    program.walkFrom read (budget + 1) table =
      match program.turn read table with
      | .ended walk => walk
      | .handed target =>
          (program.walkFrom read budget target).after (table.name, target.name) := by
  rw [walkFrom, turn]
  cases table.tree.follow fun field => read field.name with
  | error field => rfl
  | ok leaf =>
      cases proxy : leaf.delegate with
      | none => simp [proxy]
      | some next =>
          cases found : program.table? next with
          | none => simp [proxy, found]
          | some target => simp [proxy, found, Walk.after, name_of_table? found]

/-- A lookup without a bound, with the names of the tables that it enters. -/
inductive Chases (program : Program) (read : FieldSource) :
    GeneratedTable → List TableName → Walk → Prop where
  | ended {table : GeneratedTable} {walk : Walk}
      (stop : program.turn read table = .ended walk) :
      Chases program read table [table.name] walk
  | handed {table target : GeneratedTable} {entered : List TableName} {walk : Walk}
      (step : program.turn read table = .handed target)
      (further : Chases program read target entered walk) :
      Chases program read table (table.name :: entered)
        (walk.after (table.name, target.name))

namespace Chases

variable {entered : List TableName} {walk : Walk}

/-- The instruction decides what tables a chase enters. -/
theorem entered_unique {others : List TableName} {other : Walk}
    (first : program.Chases read table entered walk)
    (second : program.Chases read table others other) : entered = others := by
  induction first generalizing others other with
  | ended stop =>
      cases second with
      | ended _ => rfl
      | handed step _ =>
          rw [stop] at step
          contradiction
  | handed step _ ih =>
      cases second with
      | ended stop =>
          rw [step] at stop
          contradiction
      | handed again further =>
          obtain rfl := Turn.handed.inj (step.symm.trans again)
          rw [ih further]

/-- From a table that a chase enters, the rest of it is a chase of its own. -/
theorem exists_rest (run : program.Chases read table entered walk)
    (first : program.table? table.name = some table) {name : TableName}
    (member : name ∈ entered) :
    ∃ other rest last, program.table? name = some other ∧
      program.Chases read other rest last ∧ rest <:+ entered := by
  induction run with
  | ended stop =>
      obtain rfl := List.mem_singleton.mp member
      exact ⟨_, _, _, first, .ended stop, List.suffix_refl _⟩
  | handed step further ih =>
      rcases List.mem_cons.mp member with rfl | member
      · exact ⟨_, _, _, first, .handed step further, List.suffix_refl _⟩
      · obtain ⟨other, rest, last, found, run, suffix⟩ := ih (table?_of_turn step) member
        exact ⟨other, rest, last, found, run, suffix.trans (List.suffix_cons _ _)⟩

/-- A chase that ends enters no table twice. -/
theorem nodup_entered (run : program.Chases read table entered walk)
    (first : program.table? table.name = some table) : entered.Nodup := by
  induction run with
  | ended stop => exact List.nodup_singleton _
  | @handed table target entered walk step further ih =>
      refine List.nodup_cons.mpr ⟨?_, ih (table?_of_turn step)⟩
      intro again
      -- Its rest from there would be the whole chase once more.
      obtain ⟨other, rest, last, found, run, suffix⟩ :=
        further.exists_rest (table?_of_turn step) again
      obtain rfl : table = other := Option.some.inj (first.symm.trans found)
      obtain rfl := run.entered_unique (.handed step further)
      have shorter := suffix.length_le
      rw [List.length_cons] at shorter
      exact absurd shorter (Nat.not_succ_le_self _)

theorem entered_subset (run : program.Chases read table entered walk)
    (first : program.table? table.name = some table) : entered ⊆ program.names := by
  intro name member
  obtain ⟨other, _, _, found, _⟩ := run.exists_rest first member
  rw [← name_of_table? found]
  exact List.mem_map_of_mem (mem_of_table? found)

/-- A chase that ends enters at most as many tables as there are. -/
theorem length_entered_le (run : program.Chases read table entered walk)
    (first : program.table? table.name = some table) : entered.length ≤ program.tables.length := by
  have bound := ((run.nodup_entered first).subperm (run.entered_subset first)).length_le
  rwa [names, List.length_map] at bound

/-- A walk whose budget is large enough is the chase. -/
theorem walkFrom_eq (run : program.Chases read table entered walk) {budget : Nat}
    (enough : entered.length ≤ budget) : program.walkFrom read budget table = walk := by
  induction run generalizing budget with
  | ended stop =>
      cases budget with
      | zero => contradiction
      | succ budget => simp [walkFrom_succ, stop]
  | handed step _ ih =>
      cases budget with
      | zero => contradiction
      | succ budget => simp [walkFrom_succ, step, ih (Nat.le_of_succ_le_succ enough)]

/-- Lookup follows every chase that ends. -/
theorem lookup?_eq (run : program.Chases read table entered walk)
    (root : program.root? = some table) : program.lookup? read = some walk := by
  have few := run.length_entered_le (table?_of_root? root)
  simp [lookup?, root, run.walkFrom_eq (Nat.le_succ_of_le few)]

end Chases

end Program

end OpcodeTables
