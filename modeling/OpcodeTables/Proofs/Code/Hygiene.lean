import OpcodeTables.Proofs.Code.Definitions
import OpcodeTables.Proofs.Code.Tables

/-!
# Handlers that share a name

All tables of a program are emitted into one module, which imports the handlers
of each.  Nothing compares names between tables, so two tables may name two
handlers alike, and a handler may have the name of a lookup function.  Whether
that happens depends on the mnemonics of the tables alone.
-/

namespace OpcodeTables

/-- The mnemonics of the records that name a handler. -/
def RecordSet.handlerNames (set : RecordSet) : List String :=
  (set.records.filter fun record => !record.isProxy).map Record.handler

/-- The mnemonics in the file of a table that name a handler. -/
def TableDirectory.handlerNames (directory : TableDirectory) (files : FileView)
    (table : TableName) : List String :=
  match ((directory.source files).load table).result with
  | .ok (some set) => set.handlerNames
  | _ => []

/-- The handlers that a table runs, by their names. -/
def GeneratedTable.handlerNames (table : GeneratedTable) : List String :=
  table.emission.body.handlers.map Handler.name

theorem GeneratedTable.BuiltFrom.mem_handlerNames_iff {table : GeneratedTable} {set : RecordSet}
    (built : table.BuiltFrom set) {name : String} :
    name ∈ table.handlerNames ↔ name ∈ set.handlerNames := by
  simp only [handlerNames, RecordSet.handlerNames, List.mem_map, List.mem_filter,
    built.mem_handlers_iff]
  constructor
  · rintro ⟨_, ⟨record, among, proxy, rfl⟩, rfl⟩
    exact ⟨record, ⟨among, by simp [Record.isProxy, proxy]⟩, rfl⟩
  · rintro ⟨record, ⟨among, proxy⟩, rfl⟩
    exact ⟨_, ⟨record, among, by simpa [Record.isProxy] using proxy, rfl⟩, rfl⟩

/-- A table of a directory runs the handlers that its file names. -/
theorem TableDirectory.mem_handlerNames_iff {directory : TableDirectory} {files : FileView}
    {tables : List GeneratedTable} (discovers : (directory.source files).Discovers tables)
    {table : GeneratedTable} (member : table ∈ tables) {name : String} :
    name ∈ table.handlerNames ↔ name ∈ directory.handlerNames files table.name := by
  obtain ⟨set, loaded, built⟩ := discovers.exists_builtFrom member
  rw [TableDirectory.handlerNames, loaded]
  exact built.mem_handlerNames_iff

namespace Code

/-- Free names that are written alike are the same. -/
theorem Name.eq_of_write {left right : String} (free : isFreeName left = true)
    (other : isFreeName right = true) (same : write left = write right) : left = right :=
  congrArg text (@written_injective ⟨left, free⟩ ⟨right, other⟩ same)

/-- Each handler's name in a module stands for one handler: none of the functions
that the module defines has it, and no two of them name it. -/
structure Hygienic (definitions : List Definition) : Prop where
  functions : ∀ definition ∈ definitions, ∀ name ∈ definition.handlers,
    name ∉ definitions.map Definition.function
  handlers : definitions.Pairwise fun left right => left.handlers.Disjoint right.handlers

namespace LookupModule

variable {options : Options} {program : Program} {module : LookupModule}

/-- A module is hygienic where the names of its handlers and functions are, if
they are all free names. -/
theorem hygienic_iff (made : (ofProgram program options).result = .ok module)
    (functions : ∀ table ∈ program.names, isFreeName (options.function ++ table.suffix) = true)
    (handlers : ∀ table ∈ program.tables, ∀ name ∈ table.handlerNames, isFreeName name = true) :
    Hygienic module.definitions ↔
      (∀ table ∈ program.tables, ∀ name ∈ table.handlerNames, ∀ other ∈ program.names,
        name ≠ options.function ++ other.suffix) ∧
      program.tables.Pairwise fun left right => left.handlerNames.Disjoint right.handlerNames := by
  have apart : (∀ definition ∈ module.definitions, ∀ name ∈ definition.handlers,
      name ∉ module.definitions.map Definition.function) ↔
        ∀ table ∈ program.tables, ∀ name ∈ table.handlerNames, ∀ other ∈ program.names,
          name ≠ options.function ++ other.suffix := by
    constructor
    · intro clean table member name runs other among same
      have listed : table.handlerNames.map Name.write ∈
          module.definitions.map Definition.handlers := by
        rw [map_handlers made]
        exact List.mem_map_of_mem member
      obtain ⟨definition, inside, emitted⟩ := List.mem_map.mp listed
      refine clean definition inside (Name.write name) ?_ ?_
      · rw [emitted]
        exact List.mem_map_of_mem runs
      · rw [map_function made, same]
        exact List.mem_map.mpr ⟨other, among, rfl⟩
    · intro clean definition inside word runs shared
      have listed : definition.handlers ∈ module.definitions.map Definition.handlers :=
        List.mem_map_of_mem inside
      rw [map_handlers made] at listed
      obtain ⟨table, member, emitted⟩ := List.mem_map.mp listed
      rw [← emitted] at runs
      obtain ⟨name, named, rfl⟩ := List.mem_map.mp runs
      rw [map_function made] at shared
      obtain ⟨other, among, same⟩ := List.mem_map.mp shared
      refine clean table member name named other among ?_
      exact Name.eq_of_write (handlers table member name named) (functions other among) same.symm
  have disjoint : (module.definitions.Pairwise fun left right =>
      left.handlers.Disjoint right.handlers) ↔
        program.tables.Pairwise fun left right =>
          left.handlerNames.Disjoint right.handlerNames := by
    rw [← List.pairwise_map, map_handlers made, List.pairwise_map]
    refine List.Pairwise.iff_of_mem fun {left right} first second => ?_
    constructor
    · intro apart name here there
      exact apart (List.mem_map_of_mem here) (List.mem_map_of_mem there)
    · intro apart word here there
      obtain ⟨name, named, rfl⟩ := List.mem_map.mp here
      obtain ⟨other, shared, same⟩ := List.mem_map.mp there
      obtain rfl := Name.eq_of_write (handlers right second other shared)
        (handlers left first name named) same
      exact apart named shared
  rw [← apart, ← disjoint]
  exact ⟨fun ⟨first, second⟩ => ⟨first, second⟩, fun ⟨first, second⟩ => ⟨first, second⟩⟩

/-- Whether the handlers' names in an emitted module can be told apart depends
on the mnemonics of the tables alone.  In the function of a table, as the text of
the module has it, they are the mnemonics of the table's own records that hand
nothing over, as they are written.  The module is hygienic exactly where none of
these mnemonics is the name of a table's function, and no two tables have one in
common. -/
theorem hygienic_iff_of_resolve {directory : TableDirectory} {files : FileView} {text : String}
    (success : (directory.source files).resolve.result = .ok program)
    (emitted : (lookupText program options).result = .ok text) :
    ∃ definitions, definitionsIn? text = some definitions ∧
      definitions.map Definition.function =
        program.names.map (fun table => Name.write (options.function ++ table.suffix)) ∧
      List.Forall₂ (fun table definition => ∀ word, word ∈ definition.handlers ↔
          ∃ name ∈ directory.handlerNames files table, Name.write name = word)
        program.names definitions ∧
      (Hygienic definitions ↔
        (∀ table ∈ program.names, ∀ name ∈ directory.handlerNames files table,
          ∀ other ∈ program.names, name ≠ options.function ++ other.suffix) ∧
        program.names.Pairwise fun left right =>
          (directory.handlerNames files left).Disjoint (directory.handlerNames files right)) := by
  have discovers := TableSource.discovers_of_resolve?
    (directory.source files).resolve?_eq_some success
  obtain ⟨module, made, rfl⟩ := lookupText_eq_ok.mp emitted
  have emittable := (exists_lookupText_iff.mp ⟨_, emitted⟩).2
  have functions : ∀ table ∈ program.names,
      isFreeName (options.function ++ table.suffix) = true := by
    rw [Program.names, List.forall_mem_map]
    exact fun table member => (emittable table member).function
  have handlers : ∀ table ∈ program.tables, ∀ name ∈ table.handlerNames,
      isFreeName name = true := by
    intro table member
    rw [GeneratedTable.handlerNames, List.forall_mem_map]
    exact fun handler runs => isFreeName_of_mem_handlers discovers member runs
  have own {table : GeneratedTable} (member : table ∈ program.tables) {name : String} :
      name ∈ table.handlerNames ↔ name ∈ directory.handlerNames files table.name :=
    TableDirectory.mem_handlerNames_iff discovers member
  refine ⟨module.definitions, definitionsIn?_text made, map_function made, ?_, ?_⟩
  · have aligned := (map_handlers made).symm
    rw [← List.forall₂_eq_eq_eq, List.forall₂_map_left_iff, List.forall₂_map_right_iff] at aligned
    rw [Program.names, List.forall₂_map_left_iff]
    refine ((List.forall₂_and_left _ _).mpr ⟨fun _ member => member, aligned⟩).imp ?_
    rintro table definition ⟨member, same⟩ word
    rw [← same, List.mem_map]
    exact exists_congr fun name => and_congr_left fun _ => own member
  · rw [hygienic_iff made functions handlers]
    refine and_congr ?_ ?_
    · rw [Program.names, List.forall_mem_map]
      exact forall₂_congr fun table member => forall_congr' fun name => imp_congr_left (own member)
    · rw [Program.names, List.pairwise_map]
      refine List.Pairwise.iff_of_mem fun first second => ?_
      exact forall_congr' fun name => imp_congr (own first) (imp_congr_left (own second))

/-- Tables that both have a handler `unknown`, the first of which has one that
is called like the root's function. -/
def clashingFiles : FileView :=
  .ofList [
    (⟨"./Instruction List.csv"⟩, .ok (.file (
      "class,Mnemonic,CPI,Proxy,Index\n" ++
      "0,special,,true,\n" ++
      "1,lookup,1,,1\n" ++
      ",unknown,1,,2\n").toUTF8.data.toList)),
    (⟨"./SPECIAL Instruction List.csv"⟩, .ok (.file (
      "member,Mnemonic,CPI,Proxy,Index\n" ++
      "0,add,1,,0\n" ++
      ",unknown,1,,1\n").toUTF8.data.toList))]

/-- The records of the root among `clashingFiles`. -/
def clashingRoot : RecordSet where
  table := .root
  schema := ⟨["class"], by decide, by decide, by decide⟩
  records := [
    ⟨2, [.exact (.int 0)], "special", 0, 0, some ⟨"special"⟩⟩,
    ⟨3, [.exact (.int 1)], "lookup", 1, 1, none⟩,
    ⟨4, [.wildcard], "unknown", 1, 2, none⟩]
  arity := by decide

/-- The records of the other table among `clashingFiles`. -/
def clashingSpecial : RecordSet where
  table := ⟨"special"⟩
  schema := ⟨["member"], by decide, by decide, by decide⟩
  records := [
    ⟨2, [.exact (.int 0)], "add", 1, 0, none⟩,
    ⟨3, [.wildcard], "unknown", 1, 1, none⟩]
  arity := by decide

/-- The program of `clashingFiles`. -/
def clashingProgram : Program :=
  .ofTrees [
    (.root, .branch ⟨0, "class"⟩ [
      (.int 0, .leaf ⟨"special", 0, 0, some ⟨"special"⟩⟩),
      (.int 1, .leaf ⟨"lookup", 1, 1, none⟩)] (some (.leaf ⟨"unknown", 1, 2, none⟩))),
    (⟨"special"⟩, .branch ⟨0, "member"⟩ [
      (.int 0, .leaf ⟨"add", 1, 0, none⟩)] (some (.leaf ⟨"unknown", 1, 1, none⟩)))]

theorem load_clashingRoot :
    ((plainDirectory.source clashingFiles).load .root).result = .ok (some clashingRoot) := by
  decide +kernel

theorem load_clashingSpecial :
    ((plainDirectory.source clashingFiles).load ⟨"special"⟩).result =
      .ok (some clashingSpecial) := by
  decide +kernel

theorem resolve_clashingFiles :
    (plainDirectory.source clashingFiles).resolve.result = .ok clashingProgram := by
  have root : ((plainDirectory.source clashingFiles).generate ⟨.root, none⟩).result =
      .ok clashingProgram.tables[0] :=
    TableSource.generate_eq_ok.mpr ⟨clashingRoot, load_clashingRoot, by cbv⟩
  have special :
      ((plainDirectory.source clashingFiles).generate ⟨⟨"special"⟩, some .root⟩).result =
        .ok clashingProgram.tables[1] :=
    TableSource.generate_eq_ok.mpr ⟨clashingSpecial, load_clashingSpecial, by cbv⟩
  exact FiniteSource.resolve_of_explores (.loaded root (.loaded special .done)) rfl (by cbv)

/-- Options under which the handlers of each table are imported. -/
def importingOptions : Options :=
  { handlerModule := some "handlers" }

theorem exists_lookupText_clashing :
    ∃ text, (lookupText clashingProgram importingOptions).result = .ok text := by
  refine exists_lookupText_iff.mpr ⟨Options.exists_parts_default rfl rfl rfl rfl, ?_⟩
  intro table member
  rcases List.mem_pair.mp member with rfl | rfl
  · exact ⟨isOk_iff.mp (by decide +kernel), by decide, by decide,
      fun listed => absurd listed Bool.false_ne_true⟩
  · exact ⟨isOk_iff.mp (by decide +kernel), by decide, by decide,
      fun listed => absurd listed Bool.false_ne_true⟩

/-- A program whose module is emitted though its first function is called like
a handler, and though two functions name handlers alike. -/
theorem not_hygienic_clashing :
    ∃ text definitions,
      (plainDirectory.source clashingFiles).resolve.result = .ok clashingProgram ∧
      importingOptions.handlerModule = some "handlers" ∧
      (lookupText clashingProgram importingOptions).result = .ok text ∧
      definitionsIn? text = some definitions ∧
      definitions.map Definition.function = ["lookup", "lookup_special"] ∧
      definitions.map Definition.handlers = [["lookup", "unknown"], ["add", "unknown"]] ∧
      ¬Hygienic definitions := by
  obtain ⟨text, emitted⟩ := exists_lookupText_clashing
  obtain ⟨module, made, rfl⟩ := lookupText_eq_ok.mp emitted
  have functions : module.definitions.map Definition.function = ["lookup", "lookup_special"] := by
    rw [map_function made]
    cbv
  have handlers : module.definitions.map Definition.handlers =
      [["lookup", "unknown"], ["add", "unknown"]] := by
    rw [map_handlers made]
    cbv
  refine ⟨_, module.definitions, resolve_clashingFiles, rfl, emitted, definitionsIn?_text made,
    functions, handlers, ?_⟩
  intro hygienic
  have named : ["lookup", "unknown"] ∈ module.definitions.map Definition.handlers := by
    simp [handlers]
  obtain ⟨definition, inside, same⟩ := List.mem_map.mp named
  refine hygienic.functions definition inside "lookup" ?_ ?_
  · simp [same]
  · simp [functions]

/-- What the theorem says of a program that two tables name a handler in. -/
theorem hygienic_iff_of_resolve_clashing :
    ∃ text definitions,
      (plainDirectory.source clashingFiles).resolve.result = .ok clashingProgram ∧
      (lookupText clashingProgram importingOptions).result = .ok text ∧
      definitionsIn? text = some definitions ∧
      definitions.map Definition.function = ["lookup", "lookup_special"] ∧
      plainDirectory.handlerNames clashingFiles .root = ["lookup", "unknown"] ∧
      plainDirectory.handlerNames clashingFiles ⟨"special"⟩ = ["add", "unknown"] ∧
      ¬Hygienic definitions := by
  obtain ⟨text, emitted⟩ := exists_lookupText_clashing
  obtain ⟨definitions, read, functions, -, hygienic⟩ :=
    hygienic_iff_of_resolve resolve_clashingFiles emitted
  have root : plainDirectory.handlerNames clashingFiles .root = ["lookup", "unknown"] := by
    rw [TableDirectory.handlerNames, load_clashingRoot]
    rfl
  have special : plainDirectory.handlerNames clashingFiles ⟨"special"⟩ = ["add", "unknown"] := by
    rw [TableDirectory.handlerNames, load_clashingSpecial]
    rfl
  have names : clashingProgram.names = [.root, ⟨"special"⟩] := rfl
  refine ⟨text, definitions, resolve_clashingFiles, emitted, read, ?_, root, special, ?_⟩
  · rw [functions, names]
    cbv
  · rw [hygienic, names]
    rintro ⟨-, apart⟩
    have disjoint := List.rel_of_pairwise_cons apart (List.mem_singleton.mpr rfl)
    rw [root, special] at disjoint
    exact @disjoint "unknown" (by simp) (by simp)

end LookupModule

end Code

end OpcodeTables
