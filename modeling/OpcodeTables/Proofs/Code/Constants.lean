import OpcodeTables.Proofs.Code.Hygiene

/-!
# Constants of emitted modules

On demand a module lists the handlers of each table in a constant, which is named
after the table in upper case.  Two tables whose names differ in case only are two
tables of a program, but their constants have one name.
-/

namespace OpcodeTables

/-! ## Names in upper case -/

theorem Text.upper_append (left right : String) :
    upper (left ++ right) = upper left ++ upper right := by
  simp [upper]

/-- The upper case of an identifier is not empty. -/
theorem Text.upper_ne_empty {name : String} (valid : isIdentifier name = true) :
    upper name ≠ "" := by
  obtain ⟨first, rest, chars, start, -⟩ :=
    Code.exists_cons_of_isWord (Code.isWord_of_isIdentifier valid)
  have ascii : first.toNat < 0x80 := by
    have bounds := toNat_of_isIdentifierPart (isIdentifierPart_of_isIdentifierStart start)
    omega
  intro empty
  simp [upper, chars, upperChar, ascii, String.ext_iff] at empty

theorem TableName.suffix_of_isFreeName {table : TableName} (free : isFreeName table.text = true) :
    table.suffix = "_" ++ table.text := by
  have other : table.isRoot = false := by
    rw [isRoot, beq_eq_false_iff_ne]
    intro empty
    rw [empty] at free
    exact absurd free (by decide)
  rw [suffix, other]
  rfl

/-- The arrays of two tables have one name where the tables' names are the same in
upper case. -/
theorem Code.arrayName_eq_iff {left right : TableName}
    (first : left = .root ∨ isFreeName left.text = true)
    (second : right = .root ∨ isFreeName right.text = true) :
    arrayName left = arrayName right ↔ Text.upper left.text = Text.upper right.text := by
  have spelled {table : TableName} (free : isFreeName table.text = true) :
      Text.upper table.suffix = "_" ++ Text.upper table.text := by
    rw [TableName.suffix_of_isFreeName free, Text.upper_append]
    rfl
  have rootless {table : TableName} (free : isFreeName table.text = true) :
      Text.upper TableName.root.text ≠ Text.upper table.text ∧
        Text.upper TableName.root.suffix ≠ Text.upper table.suffix := by
    refine ⟨(Text.upper_ne_empty (isFreeName_iff.mp free).1).symm, ?_⟩
    have empty : Text.upper TableName.root.suffix = "" := by decide
    rw [empty, spelled free]
    simp [String.ext_iff]
  rw [arrayName, arrayName, String.append_right_inj]
  rcases first with rfl | first
  · rcases second with rfl | second
    · exact iff_of_true rfl rfl
    · exact iff_of_false (rootless second).2 (rootless second).1
  · rcases second with rfl | second
    · exact iff_of_false (rootless first).2.symm (rootless first).1.symm
    · rw [spelled first, spelled second, String.append_right_inj]

namespace Code

/-! ## Constants of modules -/

/-- The name of the constant that an item defines. -/
def constantOf? : List Token → Option String
  | .word "pub" :: .word "const" :: .word name :: _ => some name
  | _ => none

/-- The constants that the text of a module defines, in order. -/
def constantsIn? (text : String) : Option (List String) :=
  (itemsIn? text).map (List.filterMap constantOf?)

/-- The constants that a module defines, in order. -/
def LookupModule.constants (module : LookupModule) : List String :=
  module.items.filterMap constantOf?

/-- A module defines the arrays of its tables as constants and no others. -/
theorem LookupModule.constants_eq (module : LookupModule) :
    module.constants =
      module.tables.flatMap fun code => (code.array.map HandlerArray.name).toList := by
  have functions (function : Name) (body : Expression) :
      constantOf? (Item.lookup module.parts module.unmatched function body) = none := rfl
  have arrays (array : HandlerArray) :
      constantOf? (Item.array module.parts array) = some array.name := rfl
  rw [constants, filterMap_items module (fun _ => rfl) (fun _ => rfl) fun _ => rfl]
  simp only [functions, arrays, Option.toList_none, List.nil_append, Option.map_eq_bind]
  rfl

section Program

variable {options : Options} {program : Program} {module : LookupModule}

/-- On demand a module has one array for each table, in their order. -/
theorem LookupModule.forall₂_array (listed : options.handlerTable = true)
    (made : (ofProgram program options).result = .ok module) {α : Type} (shown : HandlerArray → α) :
    List.Forall₂ (fun table value => ∃ array,
        HandlerArray.ofEmission table.name table.emission = .ok array ∧ shown array = value)
      program.tables (module.tables.flatMap fun code => (code.array.map shown).toList) := by
  have each := tables_of_ofProgram made
  generalize program.tables = tables, module.tables = codes at each
  induction each with
  | nil => exact .nil
  | cons emitted _ ih =>
      obtain ⟨array, checked, added⟩ := TableCode.exists_array_of_ofTable listed emitted
      rw [List.flatMap_cons, added]
      exact .cons ⟨array, checked, rfl⟩ ih

/-- On demand a module defines one constant for each table, in their order. -/
theorem LookupModule.constants_of_ofProgram (listed : options.handlerTable = true)
    (made : (ofProgram program options).result = .ok module) :
    module.constants = program.names.map arrayName := by
  rw [constants_eq, Program.names, List.map_map, eq_comm, ← List.forall₂_eq_eq_eq,
    List.forall₂_map_left_iff]
  refine (forall₂_array listed made HandlerArray.name).imp ?_
  rintro table _ ⟨array, checked, rfl⟩
  exact (HandlerArray.name_of_ofEmission checked).symm

/-- The text of a module defines what its items do. -/
theorem LookupModule.constantsIn?_text (made : (ofProgram program options).result = .ok module) :
    constantsIn? module.text = some module.constants := by
  rw [constantsIn?, itemsIn?_text made]
  rfl

end Program

namespace LookupModule

/-- With arrays and under the default names, a module is emitted where the code of
its tables is. -/
theorem exists_lookupText_of_isOk {program : Program}
    (codes : (tableCodes { handlerTable := true } program.tables).result.isOk = true) :
    ∃ text, (lookupText program { handlerTable := true }).result = .ok text := by
  rw [exists_lookupText_iff, ← exists_tableCodes_iff]
  exact ⟨Options.exists_parts_default rfl rfl rfl rfl, isOk_iff.mp codes⟩

/-- The text of a module with arrays defines one constant for each table, in their
order and named after the table in upper case.  Nothing compares the tables' names:
the constants have names of their own exactly where no two names of tables are the
same in upper case. -/
theorem nodup_constants_iff_of_resolve {directory : TableDirectory} {files : FileView}
    {options : Options} {program : Program} {text : String}
    (success : (directory.source files).resolve.result = .ok program)
    (listed : options.handlerTable = true)
    (emitted : (lookupText program options).result = .ok text) :
    ∃ constants, constantsIn? text = some constants ∧
      constants = program.names.map arrayName ∧
      (constants.Nodup ↔ program.names.Pairwise fun left right =>
        Text.upper left.text ≠ Text.upper right.text) := by
  have discovers := TableSource.discovers_of_resolve?
    (directory.source files).resolve?_eq_some success
  have free {table : TableName} (member : table ∈ program.names) :
      table = .root ∨ isFreeName table.text = true :=
    TableDirectory.isFreeName_of_discovers discovers member
  obtain ⟨module, made, rfl⟩ := lookupText_eq_ok.mp emitted
  have constants := constants_of_ofProgram listed made
  refine ⟨module.constants, constantsIn?_text made, constants, ?_⟩
  rw [constants, List.nodup_iff_pairwise_ne, List.pairwise_map]
  apply List.Pairwise.iff_of_mem
  intro left right inside among
  exact not_congr (arrayName_eq_iff (free inside) (free among))

/-- Tables whose names differ also in upper case have constants of their own. -/
theorem nodup_constants_clashing :
    ∃ text constants,
      (plainDirectory.source clashingFiles).resolve.result = .ok clashingProgram ∧
      (lookupText clashingProgram { handlerTable := true }).result = .ok text ∧
      constantsIn? text = some constants ∧
      constants = ["HANDLERS", "HANDLERS_SPECIAL"] ∧
      constants.Nodup := by
  obtain ⟨text, emitted⟩ := @exists_lookupText_of_isOk clashingProgram (by cbv)
  obtain ⟨constants, read, named, apart⟩ :=
    nodup_constants_iff_of_resolve resolve_clashingFiles rfl emitted
  refine ⟨text, constants, resolve_clashingFiles, emitted, read, ?_, ?_⟩
  · rw [named]
    cbv
  · rw [apart]
    decide

/-- Tables whose root hands over to `cop0` and to `COP0`. -/
def twinFiles : FileView :=
  .ofList [
    (⟨"./Instruction List.csv"⟩, .ok (.file (
      "bank,Mnemonic,CPI,Proxy,Index\n" ++
      "0,cop0,,true,\n" ++
      "1,COP0,,true,\n").toUTF8.data.toList)),
    (⟨"./COP0 Instruction List.csv"⟩, .ok (.file (
      "unit,Mnemonic,CPI,Proxy,Index\n" ++
      "0,mfc0,1,,0\n" ++
      ",rfe,1,,1\n").toUTF8.data.toList))]

/-- The records of the root among `twinFiles`. -/
def twinRoot : RecordSet where
  table := .root
  schema := ⟨["bank"], by decide, by decide, by decide⟩
  records := [
    ⟨2, [.exact (.int 0)], "cop0", 0, 0, some ⟨"cop0"⟩⟩,
    ⟨3, [.exact (.int 1)], "COP0", 0, 0, some ⟨"COP0"⟩⟩]
  arity := by decide

/-- The records of any other table among `twinFiles`. -/
def twinUnit (table : TableName) : RecordSet where
  table
  schema := ⟨["unit"], by decide, by decide, by decide⟩
  records := [
    ⟨2, [.exact (.int 0)], "mfc0", 1, 0, none⟩,
    ⟨3, [.wildcard], "rfe", 1, 1, none⟩]
  arity := by decide

/-- The tree of `twinUnit`. -/
def twinTree : DecisionTree :=
  .branch ⟨0, "unit"⟩ [(.int 0, .leaf ⟨"mfc0", 1, 0, none⟩)] (some (.leaf ⟨"rfe", 1, 1, none⟩))

/-- The program of `twinFiles`. -/
def twinProgram : Program :=
  .ofTrees [
    (.root, .branch ⟨0, "bank"⟩ [
      (.int 0, .leaf ⟨"cop0", 0, 0, some ⟨"cop0"⟩⟩),
      (.int 1, .leaf ⟨"COP0", 0, 0, some ⟨"COP0"⟩⟩)] none),
    (⟨"cop0"⟩, twinTree),
    (⟨"COP0"⟩, twinTree)]

theorem resolve_twinFiles :
    (plainDirectory.source twinFiles).resolve.result = .ok twinProgram := by
  have root : ((plainDirectory.source twinFiles).generate ⟨.root, none⟩).result =
      .ok twinProgram.tables[0] :=
    TableSource.generate_eq_ok.mpr ⟨twinRoot, by decide +kernel, by cbv⟩
  have lower : ((plainDirectory.source twinFiles).generate ⟨⟨"cop0"⟩, some .root⟩).result =
      .ok twinProgram.tables[1] :=
    TableSource.generate_eq_ok.mpr ⟨twinUnit ⟨"cop0"⟩, by decide +kernel, by cbv⟩
  have upper : ((plainDirectory.source twinFiles).generate ⟨⟨"COP0"⟩, some .root⟩).result =
      .ok twinProgram.tables[2] :=
    TableSource.generate_eq_ok.mpr ⟨twinUnit ⟨"COP0"⟩, by decide +kernel, by cbv⟩
  exact FiniteSource.resolve_of_explores (.loaded root (.loaded lower (.loaded upper .done))) rfl
    (by cbv)

/-- A module in which two constants have one name. -/
theorem constants_twins :
    ∃ text constants,
      (plainDirectory.source twinFiles).resolve.result = .ok twinProgram ∧
      (lookupText twinProgram { handlerTable := true }).result = .ok text ∧
      constantsIn? text = some constants ∧
      constants = ["HANDLERS", "HANDLERS_COP0", "HANDLERS_COP0"] ∧
      ¬constants.Nodup := by
  obtain ⟨text, emitted⟩ := @exists_lookupText_of_isOk twinProgram (by cbv)
  obtain ⟨module, made, rfl⟩ := lookupText_eq_ok.mp emitted
  have constants : module.constants = ["HANDLERS", "HANDLERS_COP0", "HANDLERS_COP0"] := by
    rw [constants_of_ofProgram rfl made]
    cbv
  refine ⟨_, module.constants, resolve_twinFiles, emitted, constantsIn?_text made, constants, ?_⟩
  rw [constants]
  decide

end LookupModule

end Code

end OpcodeTables
