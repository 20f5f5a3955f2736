import OpcodeTables.Proofs.Code.Acceptance
import OpcodeTables.Proofs.Code.Lexing
import OpcodeTables.Proofs.Program.Evaluation
import OpcodeTables.Proofs.Program.Origins

/-!
# Emitting the tables of a directory

A table that is read from a file has been checked by the time that code is
emitted for it.  Handlers and tables have names that emitted code can use, and
only the names of fields may still be refused: they may be `self`, `Self`,
`super` or `crate`.
-/

namespace OpcodeTables

theorem isFreeName_iff {text : String} :
    isFreeName text = true ↔ isIdentifier text = true ∧ text ∉ reservedNames := by
  simp [isFreeName]

namespace Code

theorem isIdentifier_of_isWord {name : String} (word : isWord name.toList = true)
    (other : name ≠ "_") : isIdentifier name = true := by
  obtain ⟨first, rest, chars, start, parts⟩ := exists_cons_of_isWord word
  rw [isIdentifier, chars]
  simp only [Bool.and_eq_true, bne_iff_ne, List.all_eq_true]
  exact ⟨⟨start, other⟩, parts⟩

theorem isWord_append {left right : List Char} (word : isWord left = true)
    (parts : ∀ c ∈ right, isIdentifierPart c = true) : isWord (left ++ right) = true := by
  obtain ⟨first, rest, rfl, start, inside⟩ := exists_cons_of_isWord word
  rw [List.cons_append, isWord_cons]
  exact ⟨start, fun c member => (List.mem_append.mp member).elim (inside c) (parts c)⟩

/-- Two names with an underscore between them make a name. -/
theorem isFreeName_append {function text : String} (named : isFreeName function = true)
    (free : isFreeName text = true) : isFreeName (function ++ ("_" ++ text)) = true := by
  have word := isWord_of_isIdentifier (isFreeName_iff.mp named).1
  have suffix := isWord_of_isIdentifier (isFreeName_iff.mp free).1
  have chars : (function ++ ("_" ++ text)).toList = function.toList ++ '_' :: text.toList := by
    simp
  rw [isFreeName_iff]
  constructor
  · apply isIdentifier_of_isWord
    · rw [chars]
      refine isWord_append word fun c member => ?_
      rcases List.mem_cons.mp member with rfl | member
      · decide
      · exact isIdentifierPart_of_isWord suffix member
    · intro same
      obtain ⟨first, rest, begins, -⟩ := exists_cons_of_isWord word
      rw [same, begins] at chars
      simp at chars
  · intro reserved
    have bare : ∀ name ∈ reservedNames, '_' ∉ name.toList := by decide
    exact bare _ reserved (by simp [chars])

/-- The function of a table has a free name where the functions of the root and
the table itself have. -/
theorem isFreeName_function {function : String} {table : TableName}
    (named : isFreeName function = true) (free : table = .root ∨ isFreeName table.text = true) :
    isFreeName (function ++ table.suffix) = true := by
  rw [TableName.suffix]
  split
  · simpa using named
  · next other =>
      rcases free with rfl | free
      · contradiction
      · exact isFreeName_append named free

/-- The texts that a table needs as names are its handlers, the functions of
the tables that it hands over to, and the fields that it tests. -/
theorem Options.mem_texts_iff {options : Options} {table : GeneratedTable} {set : RecordSet}
    (built : table.BuiltFrom set) {text : String} :
    text ∈ options.texts table.emission.body ↔
      (∃ handler ∈ table.emission.body.handlers, handler.name = text) ∨
      (∃ next ∈ table.emission.body.delegations, options.function ++ next.suffix = text) ∨
        ∃ field, DecisionTree.Tests field table.tree ∧ field.name = text := by
  rw [built.emission, Emission.body_ofTree]
  exact mem_texts_lower

/-! ## Tables in files -/

section Directory

variable {directory : TableDirectory} {files : FileView} {tables : List GeneratedTable}
  {table : GeneratedTable}

/-- The handlers of a table in a file have free names. -/
theorem isFreeName_of_mem_handlers (discovers : (directory.source files).Discovers tables)
    (member : table ∈ tables) {handler : Handler} (runs : handler ∈ table.emission.body.handlers) :
    isFreeName handler.name = true := by
  obtain ⟨set, _, built, wellNamed⟩ := TableDirectory.exists_builtFrom discovers member
  obtain ⟨record, among, _, rfl⟩ := built.mem_handlers_iff.mp runs
  exact (wellNamed record among).free

/-- Code for a table in a file can be emitted, by options that import nothing
and whose functions have a free name, exactly where no field that it tests has
a reserved name. -/
theorem emittable_iff (discovers : (directory.source files).Discovers tables)
    (member : table ∈ tables) {options : Options} (imports : options.handlerModule = none)
    (function : isFreeName options.function = true) :
    Emittable options table ↔
      ∀ field, DecisionTree.Tests field table.tree → field.name ∉ reservedNames := by
  obtain ⟨set, _, built, wellNamed⟩ := TableDirectory.exists_builtFrom discovers member
  have functions {name : TableName} (inside : name ∈ tables.map GeneratedTable.name) :
      isFreeName (options.function ++ name.suffix) = true :=
    isFreeName_function function (TableDirectory.isFreeName_of_discovers discovers inside)
  constructor
  · intro emittable field tests
    have free := emittable.body field.name
      ((Options.mem_texts_iff built).mpr (.inr (.inr ⟨field, tests, rfl⟩)))
    exact (isFreeName_iff.mp free).2
  · intro fields
    refine ⟨⟨none, by rw [Options.handlerPath, imports]⟩, functions (List.mem_map_of_mem member),
      ?_, ?_⟩
    · intro text needed
      rcases (Options.mem_texts_iff built).mp needed with
        ⟨handler, runs, rfl⟩ | ⟨next, handed, rfl⟩ | ⟨field, tests, rfl⟩
      · exact isFreeName_of_mem_handlers discovers member runs
      · refine functions (TableSource.mem_names_of_mentioned discovers.order member ?_)
        exact built.mem_delegates_iff.mpr (built.mem_delegations_iff.mp handed)
      · exact isFreeName_iff.mpr ⟨built.isIdentifier_name tests, fields field tests⟩
    · intro _ handler listed
      exact isFreeName_of_mem_handlers discovers member (built.mem_emission_handlers_iff.mp listed)

end Directory

/-- A program of tables in files can be emitted under the default names,
whatever its functions do where nothing matches and whether or not handlers are
listed, exactly where no table tests a field with a reserved name.  The stub
module of each table can be emitted in any case. -/
theorem exists_lookupText_iff_of_resolve {directory : TableDirectory} {files : FileView}
    {program : Program} (success : (directory.source files).resolve.result = .ok program)
    (unmatched : Unmatched) (handlerTable : Bool) :
    ((∃ text, (lookupText program { unmatched, handlerTable }).result = .ok text) ↔
        ∀ table ∈ program.tables, ∀ field, DecisionTree.Tests field table.tree →
          field.name ∉ reservedNames) ∧
      ∀ table ∈ program.tables, ∃ text, stubText table { unmatched, handlerTable } = .ok text := by
  have discovers := TableSource.discovers_of_resolve?
    (directory.source files).resolve?_eq_some success
  have parts : ∃ parts, ({ unmatched, handlerTable } : Options).parts = .ok parts :=
    Options.exists_parts_default rfl rfl rfl rfl
  constructor
  · rw [exists_lookupText_iff, and_iff_right parts]
    exact forall₂_congr fun table member => emittable_iff discovers member rfl
      (by decide : isFreeName "lookup" = true)
  · intro table member
    obtain ⟨set, _, built, _⟩ := TableDirectory.exists_builtFrom discovers member
    refine exists_stubText_iff.mpr ⟨parts, fun handler listed => ?_⟩
    exact isFreeName_of_mem_handlers discovers member (built.mem_emission_handlers_iff.mp listed)

/-- A table whose only field has a reserved name, and tells two records apart. -/
def reservedFieldFile : String :=
  "self,Mnemonic,CPI,Proxy,Index\n0,add,1,,0\n1,sub,1,,1\n"

/-- Tables whose header is the first row. -/
def plainDirectory : TableDirectory :=
  { layout := { headerRow := 0 } }

def reservedFieldFiles : FileView :=
  .ofList [(⟨"./Instruction List.csv"⟩, .ok (.file reservedFieldFile.toUTF8.data.toList))]

/-- The program of `reservedFieldFiles`. -/
def reservedFieldProgram : Program :=
  .ofTrees [(.root, .branch ⟨0, "self"⟩ [
    (.int 0, .leaf ⟨"add", 1, 0, none⟩), (.int 1, .leaf ⟨"sub", 1, 1, none⟩)] none)]

/-- The records of `reservedFieldFiles`. -/
def reservedFieldSet : RecordSet where
  table := .root
  schema := ⟨["self"], by decide, by decide, by decide⟩
  records := [⟨2, [.exact (.int 0)], "add", 1, 0, none⟩, ⟨3, [.exact (.int 1)], "sub", 1, 1, none⟩]
  arity := by decide

theorem resolve_reservedFieldFiles :
    (plainDirectory.source reservedFieldFiles).resolve.result = .ok reservedFieldProgram := by
  have loaded : ((plainDirectory.source reservedFieldFiles).load .root).result =
      .ok (some reservedFieldSet) := by decide +kernel
  have made : (GeneratedTable.ofRecordSet .root reservedFieldSet).result =
      .ok reservedFieldProgram.tables[0] := by cbv
  have root : ((plainDirectory.source reservedFieldFiles).generate ⟨.root, none⟩).result =
      .ok reservedFieldProgram.tables[0] :=
    TableSource.generate_eq_ok.mpr ⟨reservedFieldSet, loaded, made⟩
  exact FiniteSource.resolve_of_explores (.loaded root .done) rfl (by cbv)

/-- A program that is resolved and that only stubs are emitted for. -/
theorem exists_lookupText_iff_of_resolve_reservedField :
    (plainDirectory.source reservedFieldFiles).resolve.result = .ok reservedFieldProgram ∧
      (¬∃ text, (lookupText reservedFieldProgram { handlerTable := true }).result = .ok text) ∧
      ∀ table ∈ reservedFieldProgram.tables,
        ∃ text, stubText table { handlerTable := true } = .ok text := by
  obtain ⟨emitted, stubs⟩ :=
    exists_lookupText_iff_of_resolve resolve_reservedFieldFiles .panic true
  refine ⟨resolve_reservedFieldFiles, ?_, stubs⟩
  rw [emitted]
  intro free
  exact free _ List.mem_cons_self ⟨0, "self"⟩ .here (by decide)

/-- What emitting reports where a field has a reserved name. -/
theorem lookupText_reservedField :
    (plainDirectory.source reservedFieldFiles).resolve.result = .ok reservedFieldProgram ∧
      (lookupText reservedFieldProgram {}).result = .error (.invalidPart .fields "self") := by
  obtain ⟨parts, passed⟩ := @Options.exists_parts_default {} rfl rfl rfl rfl
  have codes : (tableCodes {} reservedFieldProgram.tables).result =
      .error (.invalidPart .fields "self") := by cbv
  refine ⟨resolve_reservedFieldFiles, ?_⟩
  rw [lookupText, LookupModule.ofProgram, Traced.result_bind_eq_error]
  simp only [Traced.result_bind_eq_error]
  exact .inl (.inr ⟨parts, passed, .inl codes⟩)

end Code

end OpcodeTables
