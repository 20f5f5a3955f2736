import Mathlib
import OpcodeTables.Proofs.Code.Items
import OpcodeTables.Proofs.Code.Rendering
import OpcodeTables.Proofs.Program.Evaluation

/-!
# What a module defines

The text of an emitted module is read item by item: which function an item
defines, which functions that one calls and which handlers it names.  The lookup
module of a program defines the functions of its tables and nothing else, and its
calls are the hand-overs of the tables.
-/

namespace OpcodeTables.Code

/-- A text as the name that it is is written. -/
def Name.write (text : String) : String :=
  if text ∈ keywords then "r#" ++ text else text

theorem Name.written_eq (name : Name) : name.written = write name.text :=
  rfl

theorem Options.written_of_functionName {options : Options} {table : TableName} {name : Name}
    (named : options.functionName table = .ok name) :
    name.written = Name.write (options.function ++ table.suffix) := by
  rw [Name.written_eq, Name.check_eq_ok.mp named]

/-! ## Reading items -/

/-- What a body takes from elsewhere. -/
inductive Use where
  | call (function : String)
  | handler (name : String)
  deriving DecidableEq

namespace Use

/-- The function that is called. -/
def called? : Use → Option String
  | .call function => some function
  | .handler _ => none

/-- The handler that is named. -/
def named? : Use → Option String
  | .call _ => none
  | .handler name => some name

end Use

/-- The use that begins with a token. A call is a word before the instruction
in brackets, and a handler stands in brackets before a number. -/
def useAt? : Token → List Token → Option Use
  | .word function, rest =>
      if (Token.enclose .round [Expression.argument]).isPrefixOf rest then some (.call function)
      else none
  | .opening .round, .word name :: .punct ',' false :: .literal _ :: .closing .round :: _ =>
      some (.handler name)
  | _, _ => none

/-- What some tokens use, as far as it is picked, in order. -/
def usesIn (pick : Use → Option String) : List Token → List String
  | [] => []
  | token :: rest => ((useAt? token rest).bind pick).toList ++ usesIn pick rest

/-- The name of the function that an item defines. -/
def definedBy? : List Token → Option String
  | .word "pub" :: .word "fn" :: .word name :: _ => some name
  | _ => none

/-- A function that is defined somewhere, with the functions that it calls and
the handlers that it names. -/
structure Definition where
  function : String
  calls : List String
  handlers : List String
  deriving DecidableEq

/-- The function that an item defines. -/
def Definition.ofItem? (item : List Token) : Option Definition :=
  (definedBy? item).map fun function =>
    ⟨function, usesIn Use.called? item, usesIn Use.named? item⟩

/-- The functions that the text of a module defines, in order. -/
def definitionsIn? (text : String) : Option (List Definition) :=
  (itemsIn? text).map (List.filterMap Definition.ofItem?)

/-- The functions that a module defines, in order. -/
def LookupModule.definitions (module : LookupModule) : List Definition :=
  module.items.filterMap Definition.ofItem?

/-! ## Bodies -/

namespace Expression

section Collect

variable {α : Type} (onHandler onCall onAccessor : Name → List α)

mutual

/-- Takes something from each name of a body. -/
def collect : Expression → List α
  | .handler name _ => onHandler name
  | .call function => onCall function
  | .select accessor arms fallback =>
      onAccessor accessor ++ (collectArms arms ++ collectFallback fallback)

/-- Takes something from each name of some arms. -/
def collectArms : List (Literal × Expression) → List α
  | [] => []
  | (_, body) :: rest => collect body ++ collectArms rest

/-- Takes something from each name of a fallback. -/
def collectFallback : Option Expression → List α
  | none => []
  | some body => collect body

end

end Collect

/-- The functions that a body calls, as they are written. -/
def calls : Expression → List String :=
  collect (fun _ => []) (fun function => [function.written]) fun _ => []

/-- The handlers that a body names, as they are written. -/
def handlers : Expression → List String :=
  collect (fun name => [name.written]) (fun _ => []) fun _ => []

section Emitted

/-- What is taken from the names of a body is what is taken from the parts of a
dispatch that they stand for, as it is written. -/
structure Matching {α β : Type} (options : Options) (write : β → α)
    (onHandler onCall onAccessor : Name → List α) (onRun : Handler → List β)
    (onDelegate : TableName → List β) (onSelect : Field → List β) : Prop where
  run : ∀ {name target}, name.text = target.name → onHandler name = (onRun target).map write
  delegate : ∀ {function table}, options.functionName table = .ok function →
    onCall function = (onDelegate table).map write
  select : ∀ {accessor field}, accessor.text = field.name →
    onAccessor accessor = (onSelect field).map write

variable {α β : Type} {options : Options} {write : β → α}
  {onHandler onCall onAccessor : Name → List α} {onRun : Handler → List β}
  {onDelegate : TableName → List β} {onSelect : Field → List β}

mutual

/-- What is taken from a body is what is taken from the dispatch that it was
made of. -/
theorem collect_ofDispatch
    (same : Matching options write onHandler onCall onAccessor onRun onDelegate onSelect)
    (table : TableName) : (source : Dispatch) → {body : Expression} →
    (ofDispatch options table source).result = .ok body →
    body.collect onHandler onCall onAccessor =
      (source.collect onRun onDelegate onSelect).map write
  | .run target, body, made => by
      rw [ofDispatch, Traced.result_bind_eq_ok] at made
      obtain ⟨name, checked, made⟩ := made
      cases made
      exact same.run (Name.check_eq_ok.mp checked)
  | .delegate other, body, made => by
      rw [ofDispatch, Traced.result_bind_eq_ok] at made
      obtain ⟨function, named, made⟩ := made
      cases made
      exact same.delegate named
  | .select field arms fallback, body, made => by
      simp only [ofDispatch, Traced.result_bind_eq_ok] at made
      obtain ⟨accessor, checked, branches, first, otherwise, second, _, _, made⟩ := made
      cases made
      rw [collect, Dispatch.collect, same.select (Name.check_eq_ok.mp checked),
        collectArms_ofArms same table arms first, collectFallback_ofFallback same table fallback second,
        List.map_append, List.map_append]

theorem collectArms_ofArms
    (same : Matching options write onHandler onCall onAccessor onRun onDelegate onSelect)
    (table : TableName) : (arms : List (Literal × Dispatch)) →
    {branches : List (Literal × Expression)} →
    (ofArms options table arms).result = .ok branches →
    collectArms onHandler onCall onAccessor branches =
      (Dispatch.collectArms onRun onDelegate onSelect arms).map write
  | [], branches, made => by
      cases made
      rfl
  | (literal, child) :: rest, branches, made => by
      simp only [ofArms, Traced.result_bind_eq_ok] at made
      obtain ⟨body, first, others, second, made⟩ := made
      cases made
      rw [collectArms, Dispatch.collectArms, collect_ofDispatch same table child first,
        collectArms_ofArms same table rest second, List.map_append]

theorem collectFallback_ofFallback
    (same : Matching options write onHandler onCall onAccessor onRun onDelegate onSelect)
    (table : TableName) : (fallback : Option Dispatch) → {otherwise : Option Expression} →
    (ofFallback options table fallback).result = .ok otherwise →
    collectFallback onHandler onCall onAccessor otherwise =
      (Dispatch.collectFallback onRun onDelegate onSelect fallback).map write
  | none, otherwise, made => by
      cases made
      rfl
  | some child, otherwise, made => by
      rw [ofFallback, Traced.result_bind_eq_ok] at made
      obtain ⟨body, first, made⟩ := made
      cases made
      rw [collectFallback, Dispatch.collectFallback, collect_ofDispatch same table child first]

end

variable {table : TableName} {source : Dispatch} {body : Expression}

/-- A body calls the functions of the tables that its dispatch hands over to. -/
theorem calls_ofDispatch (made : (ofDispatch options table source).result = .ok body) :
    body.calls = source.delegations.map fun next =>
      Name.write (options.function ++ next.suffix) := by
  refine collect_ofDispatch ⟨?_, ?_, ?_⟩ table source made
  · exact fun _ => rfl
  · intro name table named
    simp [Options.written_of_functionName named]
  · exact fun _ => rfl

/-- A body names the handlers that its dispatch runs. -/
theorem handlers_ofDispatch (made : (ofDispatch options table source).result = .ok body) :
    body.handlers = (source.handlers.map Handler.name).map Name.write := by
  rw [List.map_map]
  refine collect_ofDispatch ⟨?_, ?_, ?_⟩ table source made
  · rintro name target same
    simp [← same, Name.written_eq]
  · exact fun _ => rfl
  · exact fun _ => rfl

end Emitted

section Tokens

variable (pick : Use → Option String) (unmatched : Unmatched)

/-- What is picked from a handler of a body. -/
def pickedHandler (name : Name) : List String :=
  (pick (.handler name.written)).toList

/-- What is picked from a call of a body. -/
def pickedCall (function : Name) : List String :=
  (pick (.call function.written)).toList

theorem usesIn_unmatchedTokens (field : String) (after : List Token) :
    usesIn pick (unmatchedTokens unmatched field ++ Token.mark ',' :: after) =
      usesIn pick (Token.mark ',' :: after) := by
  cases unmatched <;>
    simp [unmatchedTokens, usesIn, useAt?, stringLiteral, argument, Token.enclose, Token.mark]

mutual

/-- The tokens of a body use what the body does, wherever they stand. -/
theorem usesIn_tokens : (body : Expression) → (after : List Token) →
    usesIn pick (body.tokens unmatched ++ after) =
      body.collect (pickedHandler pick) (pickedCall pick) (fun _ => []) ++ usesIn pick after
  | .handler name cycles, after => by
      cases unmatched <;>
        simp [tokens, found, usesIn, useAt?, Name.token, number, argument, Token.enclose,
          Token.mark, collect, pickedHandler]
  | .call function, after => by
      simp [tokens, usesIn, useAt?, Name.token, argument, Token.enclose, collect, pickedCall]
  | .select accessor arms fallback, after => by
      have branches := usesIn_armTokens arms
      have otherwise := usesIn_fallbackTokens accessor.text fallback
      simp only [Token.mark] at otherwise
      simp [tokens, usesIn, useAt?, Name.token, argument, Token.enclose, Token.mark,
        Token.operator, collect, branches, otherwise]

theorem usesIn_armTokens : (arms : List (Literal × Expression)) → (after : List Token) →
    usesIn pick (armTokens unmatched arms ++ after) =
      collectArms (pickedHandler pick) (pickedCall pick) (fun _ => []) arms ++ usesIn pick after
  | [], after => rfl
  | (literal, body) :: rest, after => by
      have here := usesIn_tokens body
      have later := usesIn_armTokens rest
      cases literal with
      | bool value =>
          cases value <;>
            simp [armTokens, literalToken, usesIn, useAt?, argument, Token.enclose, Token.mark,
              Token.operator, collectArms, here, later]
      | int value =>
          simp [armTokens, literalToken, number, usesIn, useAt?, Token.mark, Token.operator,
            collectArms, here, later]

theorem usesIn_fallbackTokens (field : String) : (fallback : Option Expression) →
    (after : List Token) →
    usesIn pick (fallbackTokens unmatched field fallback ++ Token.mark ',' :: after) =
      collectFallback (pickedHandler pick) (pickedCall pick) (fun _ => []) fallback ++
        usesIn pick (Token.mark ',' :: after)
  | none, after => usesIn_unmatchedTokens pick unmatched field after
  | some body, after => usesIn_tokens body (Token.mark ',' :: after)

end

end Tokens

end Expression

/-! ## Items -/

section Items

variable (parts : Parts) (unmatched : Unmatched)

theorem usesIn_lookup (pick : Use → Option String) (function : Name) (body : Expression) :
    usesIn pick (Item.lookup parts unmatched function body) =
      body.collect (Expression.pickedHandler pick) (Expression.pickedCall pick) fun _ => [] := by
  have inside := Expression.usesIn_tokens pick unmatched body [.closing .curly]
  cases unmatched <;>
    simp [Item.lookup, Item.returns, Item.lookupResult, usesIn, useAt?, Name.token,
      Expression.argument, Token.enclose, Token.mark, Token.operator, inside]

/-- The function that the lookup function of a table is. -/
def TableCode.definition (code : TableCode) : Definition :=
  ⟨code.function.written, code.body.calls, code.body.handlers⟩

theorem Definition.ofItem?_lookup (function : Name) (body : Expression) :
    ofItem? (Item.lookup parts unmatched function body) =
      some ⟨function.written, body.calls, body.handlers⟩ := by
  have name : definedBy? (Item.lookup parts unmatched function body) = some function.written :=
    rfl
  rw [ofItem?, name, usesIn_lookup, usesIn_lookup]
  rfl

/-- A module defines the lookup functions of its tables and no others. -/
theorem LookupModule.definitions_eq (module : LookupModule) :
    module.definitions = module.tables.map TableCode.definition := by
  have arrays (array : HandlerArray) :
      Definition.ofItem? (Item.array module.parts array) = none := rfl
  rw [definitions, filterMap_items module (fun _ => rfl) (fun _ => rfl) fun _ => rfl]
  simp only [Definition.ofItem?_lookup, arrays, Option.bind_fun_none, Option.toList_none,
    Option.toList_some, List.append_nil]
  exact List.flatMap_pure_eq_map TableCode.definition module.tables

end Items

/-! ## Modules of programs -/

variable {options : Options}

section Program

variable {program : Program} {module : LookupModule}
  (made : (LookupModule.ofProgram program options).result = .ok module)

include made

/-- The text of a module defines what its items do. -/
theorem LookupModule.definitionsIn?_text :
    definitionsIn? module.text = some module.definitions := by
  rw [definitionsIn?, itemsIn?_text made]
  rfl

/-- What the definitions of a module show, table by table. -/
theorem LookupModule.map_definitions {α : Type} {shown : Definition → α}
    {ofTable : GeneratedTable → α}
    (same : ∀ {table code}, (TableCode.ofTable options table).result = .ok code →
      shown code.definition = ofTable table) :
    module.definitions.map shown = program.tables.map ofTable := by
  rw [definitions_eq, List.map_map, eq_comm, ← List.forall₂_eq_eq_eq, List.forall₂_map_left_iff,
    List.forall₂_map_right_iff]
  exact (tables_of_ofProgram made).imp fun _ _ emitted => (same emitted).symm

/-- A module defines the functions of the program's tables. -/
theorem LookupModule.map_function :
    module.definitions.map Definition.function =
      program.names.map fun table => Name.write (options.function ++ table.suffix) := by
  rw [Program.names, List.map_map]
  refine map_definitions made fun emitted => ?_
  exact Options.written_of_functionName (TableCode.ofTable_eq_ok.mp emitted).2.1

/-- Each of them calls the functions of the tables that its table hands over to. -/
theorem LookupModule.map_calls :
    module.definitions.map Definition.calls =
      program.tables.map fun table => table.emission.body.delegations.map fun next =>
        Name.write (options.function ++ next.suffix) :=
  map_definitions made fun emitted =>
    Expression.calls_ofDispatch (TableCode.ofTable_eq_ok.mp emitted).2.2.1

/-- Each of them names the handlers that its table runs. -/
theorem LookupModule.map_handlers :
    module.definitions.map Definition.handlers =
      program.tables.map fun table =>
        (table.emission.body.handlers.map Handler.name).map Name.write :=
  map_definitions made fun emitted =>
    Expression.handlers_ofDispatch (TableCode.ofTable_eq_ok.mp emitted).2.2.1

end Program

/-- The name of a table's function; a table that has none gets some other. -/
def Options.functionOf (options : Options) (table : TableName) : Name :=
  (options.functionName table).toOption.getD ⟨"lookup", by decide⟩

theorem Options.functionOf_eq {table : TableName} {name : Name}
    (named : options.functionName table = .ok name) : options.functionOf table = name := by
  rw [functionOf, named]
  rfl

/-- Every table of a program that is emitted has a function. -/
theorem Options.functionName_functionOf {program : Program} {text : String}
    (emitted : (lookupText program options).result = .ok text) {name : TableName}
    (member : name ∈ program.names) :
    options.functionName name = .ok (options.functionOf name) := by
  obtain ⟨table, inside, rfl⟩ := List.mem_map.mp member
  obtain ⟨function, checked⟩ := Options.exists_functionName_iff.mpr
    ((exists_lookupText_iff.mp ⟨text, emitted⟩).2 table inside).function
  rw [Options.functionOf_eq checked, checked]

/-- Functions of two tables have two names, also as they are written. -/
theorem Options.eq_of_written {left right : TableName} {first second : Name}
    (named : options.functionName left = .ok first)
    (other : options.functionName right = .ok second)
    (same : first.written = second.written) : left = right := by
  obtain rfl := Name.written_injective same
  exact (tableOf_of_functionName named).symm.trans (tableOf_of_functionName other)

/-- The module of a program that resolving returns is closed under calls.  Its
text defines one function for each table, in the order of the tables and each
under a name of its own, and the function of a table calls those of the tables
that its dispatch hands over to, which are all defined. -/
theorem LookupModule.closed_of_resolve? {source : TableSource} {resolution : Resolution}
    {program : Program} {text : String} (ended : source.resolve? = some resolution)
    (success : resolution.result = .ok program)
    (emitted : (lookupText program options).result = .ok text) :
    ∃ (definitions : List Definition) (function : TableName → Name),
      definitionsIn? text = some definitions ∧
      (∀ table ∈ program.names, options.functionName table = .ok (function table)) ∧
      definitions.map Definition.function =
        program.names.map (fun table => (function table).written) ∧
      (definitions.map Definition.function).Nodup ∧
      definitions.map Definition.calls =
        program.tables.map (fun table =>
          table.emission.body.delegations.map fun next => (function next).written) ∧
      (∀ table ∈ program.tables, ∀ next ∈ table.emission.body.delegations,
        next ∈ program.names) ∧
      ∀ definition ∈ definitions, ∀ called ∈ definition.calls,
        called ∈ definitions.map Definition.function := by
  obtain ⟨module, made, rfl⟩ := lookupText_eq_ok.mp emitted
  have named : ∀ table ∈ program.names,
      options.functionName table = .ok (options.functionOf table) :=
    fun table member => Options.functionName_functionOf emitted member
  have closed : ∀ table ∈ program.tables, ∀ next ∈ table.emission.body.delegations,
      next ∈ program.names :=
    fun table member next handed =>
      (TableSource.resolved_of_resolve? ended success).mem_names_of_handed member handed
  have word : ∀ table ∈ program.names,
      Name.write (options.function ++ table.suffix) = (options.functionOf table).written :=
    fun table member => (Options.written_of_functionName (named table member)).symm
  have functions : module.definitions.map Definition.function =
      program.names.map fun table => (options.functionOf table).written := by
    rw [map_function made]
    exact List.map_congr_left word
  have calls : module.definitions.map Definition.calls =
      program.tables.map fun table =>
        table.emission.body.delegations.map fun next => (options.functionOf next).written := by
    rw [map_calls made]
    refine List.map_congr_left fun table member => List.map_congr_left fun next handed => ?_
    exact word next (closed table member next handed)
  refine ⟨module.definitions, options.functionOf, definitionsIn?_text made, named, functions, ?_,
    calls, closed, ?_⟩
  · rw [functions]
    refine (TableSource.discovers_of_resolve? ended success).nodup.map_on ?_
    intro left inside right among same
    exact Options.eq_of_written (named left inside) (named right among) same
  · intro definition member called use
    have listed : definition.calls ∈ module.definitions.map Definition.calls :=
      List.mem_map_of_mem member
    rw [calls] at listed
    obtain ⟨table, inside, same⟩ := List.mem_map.mp listed
    rw [← same] at use
    obtain ⟨next, handed, rfl⟩ := List.mem_map.mp use
    rw [functions]
    exact List.mem_map_of_mem (closed table inside next handed)

/-- The function of the root is named like a keyword, and two functions call
that of `cop0`. -/
theorem LookupModule.closed_of_resolve?_shared :
    ∃ resolution text definitions,
      TableSource.sharedSource.resolve? = some resolution ∧
      resolution.result = .ok TableSource.sharedProgram ∧
      (lookupText TableSource.sharedProgram { function := "type" }).result = .ok text ∧
      definitionsIn? text = some definitions ∧
      (definitions.map Definition.function).Nodup ∧
      definitions.map Definition.function = ["r#type", "type_special", "type_cop0"] ∧
      definitions.map Definition.calls =
        [["type_special", "type_cop0"], ["type_cop0"], []] := by
  obtain ⟨resolution, ended, success⟩ := TableSource.resolve?_sharedSource
  obtain ⟨text, emitted⟩ : ∃ text, (lookupText TableSource.sharedProgram
      { function := "type" }).result = .ok text := by
    rw [exists_lookupText_iff, ← exists_tableCodes_iff]
    exact ⟨Options.exists_parts_default rfl rfl rfl rfl, isOk_iff.mp (by cbv)⟩
  obtain ⟨definitions, function, read, named, functions, nodup, calls, -⟩ :=
    closed_of_resolve? ended success emitted
  have root : (function .root).written = "r#type" := by
    rw [Name.written, Name.check_eq_ok.mp (named .root (by decide))]
    cbv
  have special : (function ⟨"special"⟩).written = "type_special" := by
    rw [Name.written, Name.check_eq_ok.mp (named ⟨"special"⟩ (by decide))]
    cbv
  have cop0 : (function ⟨"cop0"⟩).written = "type_cop0" := by
    rw [Name.written, Name.check_eq_ok.mp (named ⟨"cop0"⟩ (by decide))]
    cbv
  have names : TableSource.sharedProgram.names = [.root, ⟨"special"⟩, ⟨"cop0"⟩] := by cbv
  have handed : TableSource.sharedProgram.tables.map (fun table =>
      table.emission.body.delegations) = [[⟨"special"⟩, ⟨"cop0"⟩], [⟨"cop0"⟩], []] := by cbv
  refine ⟨resolution, text, definitions, ended, success, emitted, read, nodup, ?_, ?_⟩
  · simpa [names, root, special, cop0] using functions
  · rw [calls, ← Function.comp_def, ← List.map_map, handed]
    simp [special, cop0]

end OpcodeTables.Code
