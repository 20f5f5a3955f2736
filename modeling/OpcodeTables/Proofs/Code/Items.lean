import OpcodeTables.Proofs.Code.Acceptance
import OpcodeTables.Proofs.Code.Body
import OpcodeTables.Proofs.Code.Scanning

/-!
# Reading a module back

An emitted module has a line for each item, behind a line that tells where it
comes from.  Whatever the options are, the items are read back from the text as
they were written.
-/

namespace OpcodeTables.Code

open Token

/-! ## Lines -/

/-- The lines of a text, up to its end. -/
def readLines? (text : List Char) : Option (List (List Token)) :=
  match text with
  | [] => some []
  | text =>
      match readLine? text with
      -- Every line takes its line feed.
      | some (line, after) =>
          if after.length < text.length then (readLines? after).map (line :: ·) else none
      | none => none
termination_by text.length

/-- What stands before the items of an emitted module. -/
def preamble : List Char :=
  (header ++ "\n\n").toList

/-- The items of an emitted module, as they are read from its text. -/
def itemsIn? (text : String) : Option (List (List Token)) :=
  if preamble.isPrefixOf text.toList then readLines? (text.toList.drop preamble.length) else none

theorem readLines?_lines {items : List (List Token)} (legible : ∀ item ∈ items, Legible item) :
    readLines? (String.join (items.map fun item => print item ++ "\n")).toList = some items := by
  induction items with
  | nil => rw [List.map_nil, String.join_nil, String.toList_empty, readLines?]
  | cons item rest ih =>
      rw [List.forall_mem_cons] at legible
      obtain ⟨first, others⟩ := legible
      have text : (String.join ((item :: rest).map fun item => print item ++ "\n")).toList =
          (print item).toList ++
            '\n' :: (String.join (rest.map fun item => print item ++ "\n")).toList := by
        simp [String.join_cons]
      have read := ih others
      rw [text]
      generalize (String.join (rest.map fun item => print item ++ "\n")).toList = more at read
      have shorter : more.length < ((print item).toList ++ '\n' :: more).length := by
        simp only [List.length_append, List.length_cons]
        omega
      rw [readLines?]
      · simp only [first.readLine?_print more, if_pos shorter, read, Option.map_some]
      · simp

/-- The items of a module are read back as they were written. -/
theorem itemsIn?_joinItems {items : List (List Token)} (legible : ∀ item ∈ items, Legible item) :
    itemsIn? (joinItems items) = some items := by
  have text : (joinItems items).toList =
      preamble ++ (String.join (items.map fun item => print item ++ "\n")).toList := by
    simp [joinItems, preamble]
  have begins : preamble.isPrefixOf (joinItems items).toList = true := by
    rw [text, List.isPrefixOf_iff_prefix]
    exact List.prefix_append _ _
  rw [itemsIn?, if_pos begins, text, List.drop_left, readLines?_lines legible]

/-! ## Parts of code -/

theorem legible_of_checkTokens {part : RenderPart} {text : String} {tokens : List Token}
    (passed : checkTokens part text = .ok tokens) : Legible tokens := by
  unfold checkTokens at passed
  split at passed
  · contradiction
  · split at passed
    · next read =>
        cases passed
        exact legible_of_ofString? read
    · contradiction

/-- Parts that are read back wherever they stand. -/
structure Parts.Legible (parts : Parts) : Prop where
  instructionPath : Token.Legible parts.instructionPath
  state : Token.Legible parts.state
  result : Token.Legible parts.result

theorem Options.legible_parts {options : Options} {parts : Parts}
    (passed : options.parts = .ok parts) : parts.Legible := by
  obtain ⟨path, instructionPath, passed⟩ := bind_eq_ok.mp passed
  obtain ⟨instruction, -, passed⟩ := bind_eq_ok.mp passed
  obtain ⟨state, stated, passed⟩ := bind_eq_ok.mp passed
  obtain ⟨result, resulted, passed⟩ := bind_eq_ok.mp passed
  obtain ⟨handlerType, -, passed⟩ := bind_eq_ok.mp passed
  cases passed
  exact ⟨legible_of_checkTokens instructionPath, legible_of_checkTokens stated,
    legible_of_checkTokens resulted⟩

theorem Options.legible_of_handlerPath {options : Options} {table : TableName}
    {path : List Token} (passed : options.handlerPath table = .ok (some path)) :
    Legible path := by
  cases imported : options.handlerModule with
  | none => simp [handlerPath, imported] at passed
  | some directory =>
      simp only [handlerPath, imported] at passed
      cases checked : checkTokens .handlerModule (directory ++ table.suffix) with
      | error fault => simp [checked, Except.map] at passed
      | ok tokens =>
          simp only [checked, Except.map, Except.ok.injEq, Option.some.injEq] at passed
          exact passed ▸ legible_of_checkTokens checked

theorem isIdentifierPart_of_mem_upperChar {c d : Char} (part : isIdentifierPart c = true)
    (member : d ∈ Text.upperChar c) : isIdentifierPart d = true := by
  have ascii := (toNat_of_isIdentifierPart part).2
  have parts : ∀ code < 0x80, isIdentifierPart (Char.ofNat code) = true →
      isIdentifierPart (Char.ofNat code).toUpper = true := by decide +kernel
  have upper := parts c.toNat (by omega)
  rw [Char.ofNat_toNat] at upper
  rw [Text.upperChar, if_pos (by omega), List.mem_singleton] at member
  rw [member]
  exact upper part

/-- The array of a table that has a function is named by a word. -/
theorem isWord_arrayName {options : Options} {table : TableName} {function : Name}
    (named : options.functionName table = .ok function) :
    isWord (arrayName table).toList = true := by
  have suffix : ∀ c ∈ table.suffix.toList, isIdentifierPart c = true := by
    intro c member
    apply function.isIdentifierPart_of_mem
    rw [Name.check_eq_ok.mp named, String.toList_append]
    exact List.mem_append_right _ member
  have chars : (arrayName table).toList =
      'H' :: ("ANDLERS".toList ++ table.suffix.toList.flatMap Text.upperChar) := by
    simp [arrayName, Text.upper]
  rw [chars, isWord_cons]
  refine ⟨by decide, fun c member => ?_⟩
  rcases List.mem_append.mp member with member | member
  · have letters : "ANDLERS".toList.all isIdentifierPart = true := by decide
    exact List.all_eq_true.mp letters c member
  · obtain ⟨d, inside, among⟩ := List.mem_flatMap.mp member
    exact isIdentifierPart_of_mem_upperChar (suffix d inside) among

/-! ## Items -/

theorem legible_useType {path : List Token} (legible : Legible path) :
    Legible (Item.useType path) :=
  (Legible.cons (plain_of_isWord (by decide)) legible).append (.cons plain_semicolon .nil)

theorem legible_useAll {path : List Token} (legible : Legible path) :
    Legible (Item.useAll path) := by
  have used := (Legible.cons (plain_of_isWord (by decide : isWord "use".toList = true))
    legible).append (legible_operator (by decide : [':', ':'].all _ = true))
  exact used.append (.cons (plain_mark (by decide) (by decide)) (.cons plain_semicolon .nil))

theorem legible_returns {type : List Token} (legible : Legible type) :
    Legible (Item.returns type) :=
  (legible_operator (by decide)).append legible

theorem legible_commaSeparated (names : List Name) : Legible (Item.commaSeparated names) := by
  induction names with
  | nil => exact .nil
  | cons name rest ih =>
      cases rest with
      | nil => exact .cons name.plain_token .nil
      | cons next rest =>
          rw [Item.commaSeparated, List.map_cons, List.map_cons, List.intersperse_cons_cons]
          exact .cons name.plain_token (.cons plain_comma ih)

section Parts

variable {parts : Parts} (legible : parts.Legible)

theorem legible_lookup (unmatched : Unmatched) (function : Name) (body : Expression) :
    Legible (Item.lookup parts unmatched function body) := by
  have pair : Legible (enclose .round [parts.handlerType.token, mark ',', .word "usize"]) :=
    .enclose (.cons (Name.plain_token _) (.cons plain_comma
      (.cons (plain_of_isWord (by decide)) .nil)))
  have result : Legible (Item.lookupResult parts unmatched) := by
    cases unmatched with
    | panic => exact pair
    | none =>
        have option : Legible [.word "Option", mark '<'] :=
          .cons (plain_of_isWord (by decide)) (.cons (plain_mark (by decide) (by decide)) .nil)
        exact (option.append pair).append (.cons (plain_mark (by decide) (by decide)) .nil)
  have head : Legible [.word "pub", .word "fn", function.token] :=
    .cons (plain_of_isWord (by decide)) (.cons (plain_of_isWord (by decide))
      (.cons function.plain_token .nil))
  have argument : Legible [Expression.argument, mark ':', parts.instruction.token] :=
    .cons Expression.plain_argument (.cons plain_colon (.cons (Name.plain_token _) .nil))
  exact ((head.append argument.enclose).append (legible_returns result)).append
    (Expression.legible_tokens unmatched body).enclose

theorem legible_array {array : HandlerArray} (named : isWord array.name.toList = true) :
    Legible (Item.array parts array) := by
  have head : Legible [.word "pub", .word "const", .word array.name, mark ':'] :=
    .cons (plain_of_isWord (by decide)) (.cons (plain_of_isWord (by decide))
      (.cons (plain_of_isWord named) (.cons plain_colon .nil)))
  have type : Legible [parts.handlerType.token, mark ';',
      Expression.number array.handlers.length] :=
    .cons (Name.plain_token _) (.cons plain_semicolon (.cons (Expression.plain_repr _) .nil))
  exact (((head.append type.enclose).append (.cons (plain_mark (by decide) (by decide)) .nil)).append
    (legible_commaSeparated _).enclose).append (.cons plain_semicolon .nil)

include legible

theorem legible_stateReference : Legible (Item.stateReference parts) :=
  .cons (plain_mark (by decide) (by decide)) (.cons (plain_of_isWord (by decide)) legible.state)

theorem legible_handlerType : Legible (Item.handlerType parts) := by
  have head : Legible [.word "pub", .word "type", parts.handlerType.token, mark '=', .word "fn"] :=
    .cons (plain_of_isWord (by decide)) (.cons (plain_of_isWord (by decide))
      (.cons (Name.plain_token _) (.cons (plain_mark (by decide) (by decide))
        (.cons (plain_of_isWord (by decide)) .nil))))
  have arguments := (legible_stateReference legible).append
    (.cons plain_comma (.cons parts.instruction.plain_token .nil))
  exact ((head.append arguments.enclose).append (legible_returns legible.result)).append
    (.cons plain_semicolon .nil)

theorem legible_stub (handler : Name) : Legible (Item.stub parts handler) := by
  have head : Legible [.word "pub", .word "fn", handler.token] :=
    .cons (plain_of_isWord (by decide)) (.cons (plain_of_isWord (by decide))
      (.cons handler.plain_token .nil))
  have state : Legible [.word "_state", mark ':'] :=
    .cons (plain_of_isWord (by decide)) (.cons plain_colon .nil)
  have instruction : Legible [mark ',', .word "_instruction", mark ':', parts.instruction.token] :=
    .cons plain_comma (.cons (plain_of_isWord (by decide)) (.cons plain_colon
      (.cons (Name.plain_token _) .nil)))
  have arguments := (state.append (legible_stateReference legible)).append instruction
  have placeholder : Legible [.word "unimplemented", mark '!'] :=
    .cons (plain_of_isWord (by decide)) (.cons (plain_mark (by decide) (by decide)) .nil)
  have message := Legible.cons (plain_stringLiteral
    ("Instruction " ++ handler.text ++ " not implemented").toList) .nil
  exact ((head.append arguments.enclose).append (legible_returns legible.result)).append
    (placeholder.append message.enclose).enclose

end Parts

/-! ## Modules -/

section Modules

variable {options : Options}

theorem tableCodes_eq_ok {tables : List GeneratedTable} {codes : List TableCode} :
    (tableCodes options tables).result = .ok codes ↔
      List.Forall₂ (fun table code => (TableCode.ofTable options table).result = .ok code)
        tables codes := by
  induction tables generalizing codes with
  | nil =>
      rw [List.forall₂_nil_left_iff]
      constructor
      · rintro ⟨⟩
        rfl
      · rintro rfl
        rfl
  | cons table rest ih =>
      simp only [tableCodes, Traced.result_bind_eq_ok, List.forall₂_cons_left_iff, ih]
      constructor
      · rintro ⟨code, made, codes, others, same⟩
        cases same
        exact ⟨code, codes, made, others, rfl⟩
      · rintro ⟨code, codes, made, others, rfl⟩
        exact ⟨code, made, codes, others, rfl⟩

theorem lookupText_eq_ok {program : Program} {text : String} :
    (lookupText program options).result = .ok text ↔
      ∃ module, (LookupModule.ofProgram program options).result = .ok module ∧
        module.text = text := by
  rw [lookupText, Traced.result_bind_eq_ok]
  exact exists_congr fun module => and_congr_right fun _ => ⟨Except.ok.inj, congrArg _⟩

theorem LookupModule.parts_of_ofProgram {program : Program} {module : LookupModule}
    (made : (ofProgram program options).result = .ok module) :
    options.parts = .ok module.parts := by
  simp only [ofProgram, Traced.result_bind_eq_ok] at made
  obtain ⟨parts, passed, codes, _, same⟩ := made
  cases same
  exact passed

theorem LookupModule.tables_of_ofProgram {program : Program} {module : LookupModule}
    (made : (ofProgram program options).result = .ok module) :
    List.Forall₂ (fun table code => (TableCode.ofTable options table).result = .ok code)
      program.tables module.tables := by
  simp only [ofProgram, Traced.result_bind_eq_ok] at made
  obtain ⟨parts, _, codes, tables, same⟩ := made
  cases same
  exact tableCodes_eq_ok.mp tables

theorem HandlerArray.name_of_ofEmission {table : TableName} {emission : Emission}
    {array : HandlerArray} (made : ofEmission table emission = .ok array) :
    array.name = arrayName table := by
  obtain ⟨handlers, _, same⟩ := bind_eq_ok.mp made
  rw [← Except.ok.inj same]

/-- On demand a table adds the array of its handlers. -/
theorem TableCode.exists_array_of_ofTable (listed : options.handlerTable = true)
    {table : GeneratedTable} {code : TableCode} (made : (ofTable options table).result = .ok code) :
    ∃ array, HandlerArray.ofEmission table.name table.emission = .ok array ∧
      code.array = some array := by
  obtain ⟨-, -, -, added⟩ := ofTable_eq_ok.mp made
  rw [if_pos listed] at added
  cases checked : HandlerArray.ofEmission table.name table.emission with
  | error fault =>
      rw [checked] at added
      contradiction
  | ok array =>
      rw [checked] at added
      exact ⟨array, rfl, (Except.ok.inj added).symm⟩

theorem TableCode.ofEmission_of_array {table : GeneratedTable} {code : TableCode}
    {array : HandlerArray} (made : (ofTable options table).result = .ok code)
    (added : code.array = some array) :
    HandlerArray.ofEmission table.name table.emission = .ok array := by
  by_cases listed : options.handlerTable = true
  · obtain ⟨other, checked, same⟩ := exists_array_of_ofTable listed made
    rw [added] at same
    rwa [Option.some.inj same]
  · obtain ⟨-, -, -, unlisted⟩ := ofTable_eq_ok.mp made
    rw [if_neg listed, added] at unlisted
    simp at unlisted

theorem TableCode.legible_items {table : GeneratedTable} {code : TableCode} {parts : Parts}
    (unmatched : Unmatched) (made : (ofTable options table).result = .ok code) :
    ∀ item ∈ code.items parts unmatched, Legible item := by
  obtain ⟨imported, named, -, -⟩ := ofTable_eq_ok.mp made
  intro item member
  simp only [items, List.mem_append, List.mem_singleton, Option.mem_toList,
    Option.map_eq_some_iff] at member
  rcases member with (⟨path, found, rfl⟩ | rfl) | ⟨array, added, rfl⟩
  · rw [found] at imported
    exact legible_useAll (Options.legible_of_handlerPath imported)
  · exact legible_lookup unmatched code.function code.body
  · have name := HandlerArray.name_of_ofEmission (ofEmission_of_array made added)
    exact legible_array (name ▸ isWord_arrayName named)

theorem filterMap_toList {α β : Type} {read : α → Option β} (item : Option α) :
    item.toList.filterMap read = (item.bind read).toList := by
  cases item with
  | none => rfl
  | some item => cases found : read item <;> simp [found]

/-- What is read of a module's items is read of its functions and its arrays, if
nothing is read of types and imports. -/
theorem LookupModule.filterMap_items {α : Type} {read : List Token → Option α}
    (module : LookupModule) (types : ∀ path, read (Item.useType path) = none)
    (handlerTypes : ∀ parts, read (Item.handlerType parts) = none)
    (imports : ∀ path, read (Item.useAll path) = none) :
    module.items.filterMap read = module.tables.flatMap fun code =>
      (read (Item.lookup module.parts module.unmatched code.function code.body)).toList ++
        (code.array.bind fun array => read (Item.array module.parts array)).toList := by
  have table (code : TableCode) : (code.items module.parts module.unmatched).filterMap read =
      (read (Item.lookup module.parts module.unmatched code.function code.body)).toList ++
        (code.array.bind fun array => read (Item.array module.parts array)).toList := by
    have lookup (item : List Token) : [item].filterMap read = (read item).toList :=
      filterMap_toList (some item)
    have imported : (code.imported.map Item.useAll).bind read = none := by
      cases code.imported with
      | none => rfl
      | some path => exact imports path
    rw [TableCode.items, List.filterMap_append, List.filterMap_append, filterMap_toList,
      filterMap_toList, imported, lookup, Option.bind_map]
    rfl
  simp only [items, List.filterMap_append, List.filterMap_cons, types, handlerTypes,
    List.filterMap_nil, List.nil_append, List.filterMap_flatMap, table]

/-- All items of a lookup module can be read back. -/
theorem LookupModule.legible_items {program : Program} {module : LookupModule}
    (made : (ofProgram program options).result = .ok module) :
    ∀ item ∈ module.items, Legible item := by
  have legible := Options.legible_parts (parts_of_ofProgram made)
  rw [items, List.forall_mem_append, List.forall_mem_cons, List.forall_mem_singleton,
    List.forall_mem_flatMap]
  refine ⟨⟨legible_useType legible.instructionPath, legible_handlerType legible⟩, ?_⟩
  intro code inside
  obtain ⟨index, bound, rfl⟩ := List.mem_iff_getElem.mp inside
  have each := tables_of_ofProgram made
  exact TableCode.legible_items _ (each.get (each.length_eq ▸ bound) bound)

/-- A lookup module is read back from its text. -/
theorem LookupModule.itemsIn?_text {program : Program} {module : LookupModule}
    (made : (ofProgram program options).result = .ok module) :
    itemsIn? module.text = some module.items :=
  itemsIn?_joinItems (legible_items made)

/-- A stub module is read back from its text. -/
theorem StubModule.itemsIn?_text {table : GeneratedTable} {stubs : StubModule}
    (made : ofTable table options = .ok stubs) : itemsIn? stubs.text = some stubs.items := by
  obtain ⟨parts, passed, made⟩ := bind_eq_ok.mp made
  obtain ⟨handlers, _, same⟩ := bind_eq_ok.mp made
  cases same
  have legible := Options.legible_parts passed
  apply itemsIn?_joinItems
  rw [items, List.forall_mem_cons, List.forall_mem_map]
  exact ⟨legible_useType legible.instructionPath, fun handler _ => legible_stub legible handler⟩

end Modules

end OpcodeTables.Code
