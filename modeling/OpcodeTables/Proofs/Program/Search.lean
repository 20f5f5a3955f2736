import OpcodeTables.Program.Resolve
import OpcodeTables.Proofs.Dispatch.Mentions
import Mathlib.Data.List.Nodup
import Mathlib.Logic.Relation

/-!
# Searches for tables

The search for tables is breadth first.  `Explores` retells a search that ends,
one table at a time, and what a search keeps is proved by induction on it: the
names seen are the names loaded followed by the names that wait, and all of
them are reachable from the root.
-/

namespace OpcodeTables

/-- Names that were seen before may be left out where only first mentions count. -/
theorem eraseDups_append_unseen (seen mentioned rest : List TableName) :
    (seen ++ (mentioned.filter fun name => name ∉ seen) ++ rest).eraseDups =
      (seen ++ (mentioned ++ rest)).eraseDups := by
  rw [List.append_assoc, List.eraseDups_append, List.eraseDups_append]
  simp [List.removeAll, List.filter_filter]

namespace TableSource

variable {source : TableSource}

/-- The table that a source has under a name, its records loaded and generated. -/
def Generates (source : TableSource) (name : TableName) (table : GeneratedTable) : Prop :=
  ∃ set, (source.load name).result = .ok (some set) ∧
    (GeneratedTable.ofRecordSet name set).result = .ok table

/-- The table of one name hands over to the table of another. -/
def HandsTo (source : TableSource) (left right : TableName) : Prop :=
  ∃ table, source.Generates left table ∧ right ∈ table.delegates

/-- A name that hand-overs lead to from the root. -/
def Reachable (source : TableSource) (name : TableName) : Prop :=
  Relation.ReflTransGen source.HandsTo .root name

/-- Where a search starts, only the root waits. -/
theorem reachable_start : ∀ pending ∈ [(⟨.root, none⟩ : Pending)],
    source.Reachable pending.name := by
  intro pending waits
  obtain rfl := List.mem_singleton.mp waits
  exact .refl

theorem Generates.unique {name : TableName} {left right : GeneratedTable}
    (first : source.Generates name left) (second : source.Generates name right) :
    left = right := by
  obtain ⟨set, loaded, made⟩ := first
  obtain ⟨other, again, remade⟩ := second
  rw [loaded] at again
  obtain rfl : set = other := by simpa using again
  rw [made] at remade
  exact Except.ok.inj remade

/-- A generated table is its collapsed tree with what is lowered from it. -/
theorem Generates.eq_ofTree {name : TableName} {table : GeneratedTable}
    (generates : source.Generates name table) : ∃ tree, table = .ofTree name tree := by
  obtain ⟨set, _, made⟩ := generates
  obtain ⟨tree, _, rfl⟩ := GeneratedTable.ofRecordSet_eq_ok made
  exact ⟨tree.collapse, rfl⟩

theorem Generates.name_eq {name : TableName} {table : GeneratedTable}
    (generates : source.Generates name table) : table.name = name := by
  obtain ⟨tree, rfl⟩ := generates.eq_ofTree
  rfl

theorem Generates.nodup_delegates {name : TableName} {table : GeneratedTable}
    (generates : source.Generates name table) : table.delegates.Nodup := by
  obtain ⟨tree, rfl⟩ := generates.eq_ofTree
  exact Emission.nodup_delegates_ofTree name tree

theorem generate_eq_ok {pending : Pending} {table : GeneratedTable} :
    (source.generate pending).result = .ok table ↔ source.Generates pending.name table := by
  rw [generate, Traced.result_bind_eq_ok]
  constructor
  · rintro ⟨_, _, rest⟩
    obtain ⟨content, loaded, made⟩ := Traced.result_bind_eq_ok.mp rest
    cases content with
    | none => contradiction
    | some set => exact ⟨set, loaded, made⟩
  · rintro ⟨set, loaded, made⟩
    refine ⟨(), rfl, Traced.result_bind_eq_ok.mpr ⟨some set, loaded, made⟩⟩

/-- Generating fails because the table cannot be loaded, because it is missing,
or because it cannot be built. -/
theorem generate_eq_error {pending : Pending} {fault : Fault} :
    (source.generate pending).result = .error fault ↔
      (source.load pending.name).result = .error fault ∨
      ((source.load pending.name).result = .ok none ∧
        fault = .unresolvable pending.name pending.referencedBy (source.locate pending.name)) ∨
      ∃ set, (source.load pending.name).result = .ok (some set) ∧
        (DecisionTree.build set).result = .error fault := by
  rw [generate, Traced.result_bind_eq_error]
  simp only [Traced.event, reduceCtorEq, false_or, true_and, exists_const,
    Traced.result_bind_eq_error]
  refine or_congr_right ?_
  constructor
  · rintro ⟨content, loaded, failed⟩
    cases content with
    | none => exact .inl ⟨loaded, (Except.error.inj failed).symm⟩
    | some set =>
        rcases Traced.result_bind_eq_error.mp failed with unbuilt | ⟨tree, _, rest⟩
        · exact .inr ⟨set, loaded, unbuilt⟩
        · rcases Traced.result_bind_eq_error.mp rest with rest | ⟨_, _, rest⟩ <;> contradiction
  · rintro (⟨loaded, rfl⟩ | ⟨set, loaded, unbuilt⟩)
    · exact ⟨none, loaded, rfl⟩
    · exact ⟨some set, loaded, Traced.result_bind_eq_error.mpr (.inl unbuilt)⟩

/-! ## Searches that end -/

/-- What a search does from a queue on, told one table at a time. -/
inductive Explores (source : TableSource) :
    List Pending → List TableName → Exploration → Prop where
  | done {seen : List TableName} : Explores source [] seen ⟨[], [], .ok []⟩
  | failed {pending : Pending} {queue : List Pending} {seen : List TableName} {fault : Fault}
      (failure : (source.generate pending).result = .error fault) :
      Explores source (pending :: queue) seen
        ⟨[pending.name], (source.generate pending).log, .error fault⟩
  | loaded {pending : Pending} {queue : List Pending} {seen : List TableName}
      {table : GeneratedTable} {rest : Exploration}
      (success : (source.generate pending).result = .ok table)
      (further : Explores source (queue ++ enqueued pending (fresh seen table))
        (seen ++ fresh seen table) rest) :
      Explores source (pending :: queue) seen
        { loads := pending.name :: rest.loads
          log := (source.generate pending).log ++
            table.delegates.map (.delegates pending.name) ++ rest.log
          result := rest.result.map (table :: ·) }

theorem explores_of_explore {queue : List Pending} {seen : List TableName} {found : Exploration}
    (ended : source.explore queue seen = some found) : source.Explores queue seen found := by
  refine explore.partial_correctness source (fun queue seen found => source.Explores queue seen found)
    ?_ queue seen found ended
  intro explore further queue seen found ended
  cases queue with
  | nil =>
      obtain rfl := Option.some.inj ended
      exact .done
  | cons pending queue =>
      cases generated : (source.generate pending).result with
      | error fault =>
          simp only [generated, Option.some.injEq] at ended
          rw [← ended]
          exact .failed generated
      | ok table =>
          simp only [generated, Option.bind_eq_bind, Option.bind_eq_some_iff, Option.pure_def,
            Option.some.injEq] at ended
          obtain ⟨rest, found, rfl⟩ := ended
          exact .loaded generated (further _ _ _ found)

theorem explore_of_explores {queue : List Pending} {seen : List TableName} {found : Exploration}
    (run : source.Explores queue seen found) : source.explore queue seen = some found := by
  induction run with
  | done => rw [explore.eq_def]
  | failed failure => rw [explore.eq_def]; simp [failure]
  | loaded success _ ih => rw [explore.eq_def]; simp [success, ih]

/-! ## What a search that succeeds has met -/

namespace Explores

variable {queue : List Pending} {seen before : List TableName} {found : Exploration}
  {tables : List GeneratedTable}

/-- What a round adds to a search that succeeds: one table in front. -/
theorem exists_of_result_map {rest : Except Fault (List GeneratedTable)} {table : GeneratedTable}
    (success : rest.map (table :: ·) = .ok tables) :
    ∃ others, rest = .ok others ∧ tables = table :: others := by
  cases rest with
  | error fault => contradiction
  | ok others => exact ⟨others, rfl, (Except.ok.inj success).symm⟩

/-- Every table is loaded once, in the order in which the tables stand. -/
theorem loads_eq (run : source.Explores queue seen found) (success : found.result = .ok tables) :
    found.loads = tables.map GeneratedTable.name := by
  induction run generalizing tables with
  | done =>
      obtain rfl : [] = tables := Except.ok.inj success
      rfl
  | failed failure => contradiction
  | loaded generated further ih =>
      obtain ⟨others, succeeded, rfl⟩ := exists_of_result_map success
      rw [List.map_cons, ih succeeded, (generate_eq_ok.mp generated).name_eq]

/-- What joins the queue is reachable, as is the table that mentions it. -/
theorem reachable_enqueued {pending : Pending} {table : GeneratedTable}
    (generates : source.Generates pending.name table)
    (reachable : ∀ next ∈ pending :: queue, source.Reachable next.name) :
    ∀ next ∈ queue ++ enqueued pending (fresh seen table), source.Reachable next.name := by
  intro next waits
  rcases List.mem_append.mp waits with waits | waits
  · exact reachable next (List.mem_cons_of_mem _ waits)
  · obtain ⟨name, new, rfl⟩ := List.mem_map.mp waits
    exact (reachable pending (by simp)).tail ⟨table, generates, (List.mem_filter.mp new).1⟩

/-- The tables of a search that starts from reachable names are reachable, and
they are what the source has under their names. -/
theorem reachable_of_mem (run : source.Explores queue seen found)
    (success : found.result = .ok tables)
    (reachable : ∀ pending ∈ queue, source.Reachable pending.name) :
    ∀ table ∈ tables, source.Reachable table.name ∧ source.Generates table.name table := by
  induction run generalizing tables with
  | done =>
      obtain rfl : [] = tables := Except.ok.inj success
      simp
  | failed failure => contradiction
  | @loaded pending queue seen table rest generated further ih =>
      obtain ⟨others, succeeded, rfl⟩ := exists_of_result_map success
      have generates := generate_eq_ok.mp generated
      intro member inside
      rcases List.mem_cons.mp inside with rfl | inside
      · rw [generates.name_eq]
        exact ⟨reachable pending (by simp), generates⟩
      · exact ih succeeded (reachable_enqueued generates reachable) member inside

/-- The names seen are those loaded and then those that wait. At the end none
waits, and the names loaded are those seen and all that their tables hand over
to, each at its first mention. -/
theorem order_eq (run : source.Explores queue seen found) (success : found.result = .ok tables)
    (order : seen = before ++ queue.map Pending.name) (nodup : seen.Nodup) :
    before ++ tables.map GeneratedTable.name =
        (seen ++ tables.flatMap GeneratedTable.delegates).eraseDups ∧
      (before ++ tables.map GeneratedTable.name).Nodup := by
  induction run generalizing tables before with
  | done =>
      obtain rfl : [] = tables := Except.ok.inj success
      obtain rfl : _ = before := by simpa using order
      simp [eraseDups_of_nodup nodup, nodup]
  | failed failure => contradiction
  | @loaded pending queue seen table rest generated further ih =>
      obtain ⟨others, succeeded, rfl⟩ := exists_of_result_map success
      have generates := generate_eq_ok.mp generated
      have later : seen ++ fresh seen table =
          (before ++ [pending.name]) ++
            (queue ++ enqueued pending (fresh seen table)).map Pending.name := by
        simp [order, enqueued, Function.comp_def]
      have unseen : (seen ++ fresh seen table).Nodup := by
        rw [List.nodup_append]
        refine ⟨nodup, generates.nodup_delegates.filter _, ?_⟩
        rintro name old _ new rfl
        simp [fresh, old] at new
      obtain ⟨names, distinct⟩ := ih succeeded later unseen
      rw [List.append_assoc, List.singleton_append, ← generates.name_eq] at names distinct
      rw [List.map_cons, List.flatMap_cons, ← eraseDups_append_unseen]
      exact ⟨names, distinct⟩

/-- A search succeeds where every reachable table is there and is generated. -/
theorem exists_tables (run : source.Explores queue seen found)
    (complete : ∀ name, source.Reachable name → ∃ table, source.Generates name table)
    (reachable : ∀ pending ∈ queue, source.Reachable pending.name) :
    ∃ tables, found.result = .ok tables := by
  induction run with
  | done => exact ⟨[], rfl⟩
  | @failed pending queue seen fault failure =>
      obtain ⟨table, generates⟩ := complete pending.name (reachable pending (by simp))
      rw [generate_eq_ok.mpr generates] at failure
      contradiction
  | loaded generated further ih =>
      obtain ⟨others, succeeded⟩ :=
        ih (reachable_enqueued (generate_eq_ok.mp generated) reachable)
      exact ⟨_ :: others, by rw [succeeded]; rfl⟩

/-- A search that fails does so at a reachable table. -/
theorem exists_failure (run : source.Explores queue seen found) {fault : Fault}
    (failure : found.result = .error fault)
    (reachable : ∀ pending ∈ queue, source.Reachable pending.name) :
    ∃ pending : Pending, source.Reachable pending.name ∧
      (source.generate pending).result = .error fault := by
  induction run with
  | done => contradiction
  | @failed pending queue seen other failed =>
      obtain rfl := Except.error.inj failure
      exact ⟨pending, reachable pending (by simp), failed⟩
  | @loaded pending queue seen table rest generated further ih =>
      cases inner : rest.result with
      | ok others => simp [inner, Except.map] at failure
      | error other =>
          obtain rfl : other = fault := by simpa [inner, Except.map] using failure
          exact ih inner (reachable_enqueued (generate_eq_ok.mp generated) reachable)

/-- A source with the same reachable tables is searched in the same way. -/
theorem congr (run : source.Explores queue seen found) (success : found.result = .ok tables)
    (reachable : ∀ pending ∈ queue, source.Reachable pending.name) {other : TableSource}
    (agree : ∀ name, source.Reachable name →
      (other.load name).result = (source.load name).result) :
    ∃ same, other.Explores queue seen same ∧ same.loads = found.loads ∧
      same.result = found.result := by
  induction run generalizing tables with
  | done => exact ⟨_, .done, rfl, rfl⟩
  | failed failure => contradiction
  | @loaded pending queue seen table rest generated further ih =>
      obtain ⟨others, succeeded, rfl⟩ := exists_of_result_map success
      have generates := generate_eq_ok.mp generated
      obtain ⟨same, again, loads, result⟩ :=
        ih succeeded (reachable_enqueued generates reachable)
      obtain ⟨set, loaded, made⟩ := generates
      have regenerated : (other.generate pending).result = .ok table := by
        rw [generate_eq_ok]
        exact ⟨set, (agree _ (reachable pending (by simp))).trans loaded, made⟩
      exact ⟨_, .loaded regenerated again, by rw [loads], by rw [result]⟩

end Explores

end TableSource

end OpcodeTables
