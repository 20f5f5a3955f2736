import Mathlib
import OpcodeTables.Proofs.Program.Search

/-!
# Discovery of tables

A search from the root that succeeds loads the reachable tables, each once, in
the order in which a reader of their lists of delegates first meets them.  So
resolving depends on the reachable tables only.
-/

namespace OpcodeTables

namespace TableSource

variable {source : TableSource}

/-- The tables that a search from the root found: the reachable ones as the
source has them, each once, in the order in which they are first mentioned. -/
structure Discovers (source : TableSource) (tables : List GeneratedTable) : Prop where
  reachable : ∀ name, name ∈ tables.map GeneratedTable.name ↔ source.Reachable name
  generates : ∀ table ∈ tables, source.Generates table.name table
  order : tables.map GeneratedTable.name =
    (TableName.root :: tables.flatMap GeneratedTable.delegates).eraseDups
  nodup : (tables.map GeneratedTable.name).Nodup

/-- Every reachable table is there and is generated. -/
theorem Discovers.exists_generates {tables : List GeneratedTable}
    (discovers : source.Discovers tables) (name : TableName) (reachable : source.Reachable name) :
    ∃ table, source.Generates name table := by
  obtain ⟨table, member, rfl⟩ := List.mem_map.mp ((discovers.reachable name).mpr reachable)
  exact ⟨table, discovers.generates table member⟩

/-- Whatever a table hands over to is found as well. -/
theorem mem_names_of_mentioned {tables : List GeneratedTable}
    (order : tables.map GeneratedTable.name =
      (TableName.root :: tables.flatMap GeneratedTable.delegates).eraseDups)
    {table : GeneratedTable} (member : table ∈ tables) {name : TableName}
    (mentioned : name ∈ table.delegates) : name ∈ tables.map GeneratedTable.name := by
  rw [order, List.mem_eraseDups, List.mem_cons, List.mem_flatMap]
  exact .inr ⟨table, member, mentioned⟩

theorem discovers_of_explores {found : Exploration} {tables : List GeneratedTable}
    (run : source.Explores [⟨.root, none⟩] [.root] found) (success : found.result = .ok tables) :
    source.Discovers tables := by
  have inside := run.reachable_of_mem success reachable_start
  have waiting : [TableName.root] = [] ++ [(⟨.root, none⟩ : Pending)].map Pending.name := rfl
  obtain ⟨order, nodup⟩ := run.order_eq success waiting (List.nodup_singleton _)
  rw [List.nil_append] at order nodup
  refine ⟨?_, fun table member => (inside table member).2, order, nodup⟩
  intro name
  constructor
  · intro member
    obtain ⟨table, among, rfl⟩ := List.mem_map.mp member
    exact (inside table among).1
  · intro reachable
    induction reachable with
    | refl => simp [order]
    | tail _ handsTo member =>
        obtain ⟨table, generates, mentioned⟩ := handsTo
        obtain ⟨other, among, same⟩ := List.mem_map.mp member
        obtain rfl : table = other := generates.unique (same ▸ (inside other among).2)
        exact mem_names_of_mentioned order among mentioned

theorem resolve?_eq_some_iff {resolution : Resolution} :
    source.resolve? = some resolution ↔
      ∃ found, source.Explores [⟨.root, none⟩] [.root] found ∧
        found.resolution = resolution := by
  simp only [resolve?, Option.map_eq_some_iff]
  constructor
  · rintro ⟨found, ended, same⟩
    exact ⟨found, explores_of_explore ended, same⟩
  · rintro ⟨found, run, same⟩
    exact ⟨found, explore_of_explores run, same⟩

theorem resolution_eq_ok {found : Exploration} {program : Program} :
    found.resolution.result = .ok program ↔
      found.result = .ok program.tables ∧ Program.cycle? program.tables = none := by
  rw [Exploration.resolution]
  cases found.result with
  | error fault => simp
  | ok tables =>
      cases program with
      | mk others =>
          dsimp only
          constructor
          · intro resolved
            cases cyclic : Program.cycle? tables with
            | some path => simp [cyclic] at resolved
            | none =>
                obtain rfl : tables = others := by simpa [cyclic] using resolved
                exact ⟨rfl, cyclic⟩
          · rintro ⟨success, acyclic⟩
            obtain rfl := Except.ok.inj success
            rw [acyclic]

/-- The tables of a program that resolving returns are those that are
discovered. -/
theorem discovers_of_resolve? {resolution : Resolution} {program : Program}
    (ended : source.resolve? = some resolution) (success : resolution.result = .ok program) :
    source.Discovers program.tables := by
  obtain ⟨found, run, rfl⟩ := resolve?_eq_some_iff.mp ended
  exact discovers_of_explores run (resolution_eq_ok.mp success).1

end TableSource

/-- A search that ends well and finds no circle resolves. -/
theorem FiniteSource.resolve_of_explores {source : FiniteSource} {found : Exploration}
    {tables : List GeneratedTable} (run : source.Explores [⟨.root, none⟩] [.root] found)
    (success : found.result = .ok tables) (acyclic : Program.cycle? tables = none) :
    source.resolve.result = .ok ⟨tables⟩ := by
  have ended := TableSource.resolve?_eq_some_iff.mpr ⟨found, run, rfl⟩
  rw [← Option.some.inj (ended.symm.trans source.resolve?_eq_some)]
  exact TableSource.resolution_eq_ok.mpr ⟨success, acyclic⟩

/-- Resolving ends.  If it succeeds, the program has the reachable tables, each
once, the root first and then every table in the order in which the lists of
delegates of the tables before it first mention it.  These are the tables that
were loaded, each once and in this order, and a source that differs in no
reachable table is resolved in the same way. -/
theorem FiniteSource.resolve_discovers (source : FiniteSource) :
    ∃ resolution, source.resolve? = some resolution ∧
      ∀ program, resolution.result = .ok program →
        program.names.Nodup ∧
        (∀ name, name ∈ program.names ↔ source.Reachable name) ∧
        (∀ table ∈ program.tables, source.Generates table.name table) ∧
        program.names =
          (TableName.root :: program.tables.flatMap GeneratedTable.delegates).eraseDups ∧
        resolution.loads = program.names ∧
        ∀ other : TableSource,
          (∀ name, source.Reachable name →
            (other.load name).result = (source.load name).result) →
          ∃ same, other.resolve? = some same ∧ same.loads = program.names ∧
            same.result = .ok program := by
  obtain ⟨resolution, ended⟩ := Option.isSome_iff_exists.mp source.resolve?_isSome
  refine ⟨resolution, ended, ?_⟩
  intro program resolved
  obtain ⟨found, run, rfl⟩ := TableSource.resolve?_eq_some_iff.mp ended
  obtain ⟨success, acyclic⟩ := TableSource.resolution_eq_ok.mp resolved
  have discovers := TableSource.discovers_of_explores run success
  have loads : found.loads = program.names := run.loads_eq success
  refine ⟨discovers.nodup, discovers.reachable, discovers.generates, discovers.order, loads, ?_⟩
  intro other agree
  obtain ⟨same, again, sameLoads, sameResult⟩ :=
    run.congr success TableSource.reachable_start agree
  refine ⟨same.resolution, TableSource.resolve?_eq_some_iff.mpr ⟨same, again, rfl⟩, ?_, ?_⟩
  · exact sameLoads.trans loads
  · exact TableSource.resolution_eq_ok.mpr ⟨sameResult.trans success, acyclic⟩

namespace TableSource

/-- The root hands over to `special` and `cop0`, and `special` to `cop0` again. -/
def sharedSource : FiniteSource :=
  ofList [
    (.root, .ok {
      table := .root
      schema := ⟨["opcode", "rs"], by decide, by decide, by decide⟩
      records := [
        ⟨4, [.exact (.int 0), .wildcard], "", 0, 4, some ⟨"special"⟩⟩,
        ⟨5, [.exact (.int 16), .wildcard], "", 0, 5, some ⟨"cop0"⟩⟩,
        ⟨6, [.exact (.int 2), .wildcard], "j", 1, 6, none⟩]
      arity := by decide }),
    (⟨"special"⟩, .ok {
      table := ⟨"special"⟩
      schema := ⟨["funct"], by decide, by decide, by decide⟩
      records := [
        ⟨4, [.exact (.int 32)], "add", 1, 4, none⟩,
        ⟨5, [.exact (.int 63)], "", 0, 5, some ⟨"cop0"⟩⟩]
      arity := by decide }),
    (⟨"cop0"⟩, .ok {
      table := ⟨"cop0"⟩
      schema := ⟨["rs"], by decide, by decide, by decide⟩
      records := [⟨4, [.exact (.int 0)], "mfc0", 1, 4, none⟩]
      arity := by decide })] fun _ => none

/-- The program of `sharedSource`. -/
def sharedProgram : Program :=
  .ofTrees [
    (.root, .branch ⟨0, "opcode"⟩ [
      (.int 0, .leaf ⟨"", 0, 4, some ⟨"special"⟩⟩),
      (.int 2, .leaf ⟨"j", 1, 6, none⟩),
      (.int 16, .leaf ⟨"", 0, 5, some ⟨"cop0"⟩⟩)] none),
    (⟨"special"⟩, .branch ⟨0, "funct"⟩ [
      (.int 32, .leaf ⟨"add", 1, 4, none⟩),
      (.int 63, .leaf ⟨"", 0, 5, some ⟨"cop0"⟩⟩)] none),
    (⟨"cop0"⟩, .leaf ⟨"mfc0", 1, 4, none⟩)]

theorem resolve?_sharedSource :
    ∃ resolution, sharedSource.resolve? = some resolution ∧
      resolution.result = .ok sharedProgram := by
  have root : (sharedSource.generate ⟨.root, none⟩).result =
      .ok sharedProgram.tables[0] := by cbv
  have special : (sharedSource.generate ⟨⟨"special"⟩, some .root⟩).result =
      .ok sharedProgram.tables[1] := by cbv
  have cop0 : (sharedSource.generate ⟨⟨"cop0"⟩, some .root⟩).result =
      .ok sharedProgram.tables[2] := by cbv
  refine ⟨_, resolve?_eq_some_iff.mpr ⟨_, .loaded root (.loaded special (.loaded cop0 .done)),
    rfl⟩, ?_⟩
  exact resolution_eq_ok.mpr ⟨rfl, by cbv⟩

/-- Both the root and `special` hand over to `cop0`, which is loaded once. -/
theorem resolve_discovers_shared :
    ∃ resolution, sharedSource.resolve? = some resolution ∧
      resolution.result = .ok sharedProgram ∧
      resolution.loads = [.root, ⟨"special"⟩, ⟨"cop0"⟩] ∧
      sharedSource.Reachable ⟨"cop0"⟩ ∧ ¬sharedSource.Reachable ⟨"cop1"⟩ := by
  obtain ⟨resolution, ended, resolved⟩ := resolve?_sharedSource
  obtain ⟨same, endedSame, discovers⟩ := sharedSource.resolve_discovers
  obtain rfl : resolution = same := Option.some.inj (ended.symm.trans endedSame)
  obtain ⟨_, reachable, _, _, loads, _⟩ := discovers sharedProgram resolved
  refine ⟨resolution, ended, resolved, loads, ?_, ?_⟩
  · exact (reachable _).mp (by decide)
  · exact fun reached => absurd ((reachable _).mpr reached) (by decide)

end TableSource

end OpcodeTables
