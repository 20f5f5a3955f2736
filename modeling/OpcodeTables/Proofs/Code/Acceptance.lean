import Mathlib.Data.List.Forall2
import OpcodeTables.Code.Module
import OpcodeTables.Proofs.Dispatch.Mentions

/-!
# What can be emitted

Emitting code refuses options, and names that are not free.  A body is emitted
exactly where the names of its handlers, functions and fields are free, and a
module exactly where its options and the bodies of all tables pass.  A stub
module asks for no more than that.
-/

namespace OpcodeTables

theorem isOk_iff {ε α : Type} {result : Except ε α} :
    result.isOk = true ↔ ∃ value, result = .ok value := by
  cases result <;> simp [Except.isOk, Except.toBool]

theorem mapM_eq_ok_iff {ε α β : Type} {step : α → Except ε β} {items : List α} {results : List β} :
    items.mapM step = .ok results ↔
      List.Forall₂ (fun item result => step item = .ok result) items results := by
  induction items generalizing results with
  | nil =>
      rw [List.forall₂_nil_left_iff]
      exact ⟨fun done => (Except.ok.inj done).symm, fun same => congrArg Except.ok same.symm⟩
  | cons item rest ih =>
      rw [List.mapM_cons, List.forall₂_cons_left_iff]
      constructor
      · intro done
        obtain ⟨first, here, done⟩ := bind_eq_ok.mp done
        obtain ⟨others, later, same⟩ := bind_eq_ok.mp done
        exact ⟨first, others, here, ih.mp later, (Except.ok.inj same).symm⟩
      · rintro ⟨first, others, here, later, rfl⟩
        exact bind_eq_ok.mpr ⟨first, here, bind_eq_ok.mpr ⟨others, ih.mpr later, rfl⟩⟩

theorem exists_mapM_iff {ε α β : Type} {step : α → Except ε β} {items : List α} :
    (∃ results, items.mapM step = .ok results) ↔ ∀ item ∈ items, ∃ result, step item = .ok result := by
  induction items with
  | nil => exact ⟨fun _ _ member => absurd member List.not_mem_nil, fun _ => ⟨[], rfl⟩⟩
  | cons item rest ih =>
      rw [List.forall_mem_cons, ← ih, List.mapM_cons]
      constructor
      · rintro ⟨results, done⟩
        obtain ⟨first, here, done⟩ := bind_eq_ok.mp done
        obtain ⟨others, later, _⟩ := bind_eq_ok.mp done
        exact ⟨⟨first, here⟩, others, later⟩
      · rintro ⟨⟨first, here⟩, others, later⟩
        exact ⟨first :: others, bind_eq_ok.mpr ⟨first, here, bind_eq_ok.mpr ⟨others, later, rfl⟩⟩⟩

namespace Code

theorem Name.exists_check_iff {part : RenderPart} {text : String} :
    (∃ name, check part text = .ok name) ↔ isFreeName text = true := by
  constructor
  · rintro ⟨name, checked⟩
    rw [← check_eq_ok.mp checked]
    exact name.valid
  · intro free
    exact ⟨⟨text, free⟩, check_eq_ok.mpr rfl⟩

theorem Options.exists_functionName_iff {options : Options} {table : TableName} :
    (∃ function, options.functionName table = .ok function) ↔
      isFreeName (options.function ++ table.suffix) = true :=
  Name.exists_check_iff

/-- The texts that a dispatch needs as names: those of its handlers, of the
functions that it calls and of the fields that it selects on. -/
def Options.texts (options : Options) : Dispatch → List String :=
  Dispatch.collect (fun handler => [handler.name])
    (fun table => [options.function ++ table.suffix]) fun field => [field.name]

/-- The texts that some arms need as names. -/
def Options.armTexts (options : Options) : List (Literal × Dispatch) → List String :=
  Dispatch.collectArms (fun handler => [handler.name])
    (fun table => [options.function ++ table.suffix]) fun field => [field.name]

/-- The texts that a fallback needs as names. -/
def Options.fallbackTexts (options : Options) : Option Dispatch → List String :=
  Dispatch.collectFallback (fun handler => [handler.name])
    (fun table => [options.function ++ table.suffix]) fun field => [field.name]

/-- The texts that a lowered tree needs as names are its handlers, the functions
of the tables that it hands over to, and the fields that it tests. -/
theorem Options.mem_texts_lower {options : Options} {tree : DecisionTree} {text : String} :
    text ∈ options.texts (.lower tree) ↔
      (∃ handler ∈ (Dispatch.lower tree).handlers, handler.name = text) ∨
      (∃ next ∈ (Dispatch.lower tree).delegations, options.function ++ next.suffix = text) ∨
        ∃ field, DecisionTree.Tests field tree ∧ field.name = text := by
  rw [texts, Dispatch.mem_collect_lower]
  simp only [Dispatch.mem_handlers_lower, Dispatch.mem_delegations_lower]
  constructor
  · rintro (⟨target, inside, taken⟩ | ⟨field, tests, taken⟩)
    · cases proxy : target.delegate with
      | none =>
          rw [Dispatch.lower_handler proxy, Dispatch.collect, List.mem_singleton] at taken
          exact .inl ⟨_, ⟨target, inside, proxy, rfl⟩, taken.symm⟩
      | some next =>
          rw [Dispatch.lower_proxy proxy, Dispatch.collect, List.mem_singleton] at taken
          exact .inr (.inl ⟨next, ⟨target, inside, proxy⟩, taken.symm⟩)
    · exact .inr (.inr ⟨field, tests, (List.mem_singleton.mp taken).symm⟩)
  · rintro (⟨handler, ⟨target, inside, proxy, rfl⟩, rfl⟩ | ⟨next, ⟨target, inside, proxy⟩, rfl⟩ |
      ⟨field, tests, rfl⟩)
    · refine .inl ⟨target, inside, ?_⟩
      rw [Dispatch.lower_handler proxy]
      exact List.mem_singleton.mpr rfl
    · refine .inl ⟨target, inside, ?_⟩
      rw [Dispatch.lower_proxy proxy]
      exact List.mem_singleton.mpr rfl
    · exact .inr ⟨field, tests, List.mem_singleton.mpr rfl⟩

namespace Expression

variable {options : Options} {table : TableName}

mutual

/-- A body is emitted exactly where all its names are free. -/
theorem exists_ofDispatch_iff : (source : Dispatch) →
    ((∃ body, (ofDispatch options table source).result = .ok body) ↔
      ∀ text ∈ options.texts source, isFreeName text = true)
  | .run target => by
      rw [Options.texts, Dispatch.collect, List.forall_mem_singleton, ofDispatch,
        ← Name.exists_check_iff]
      simp only [Traced.result_bind_eq_ok]
      constructor
      · rintro ⟨_, name, checked, _⟩
        exact ⟨name, checked⟩
      · rintro ⟨name, checked⟩
        exact ⟨_, name, checked, rfl⟩
  | .delegate other => by
      rw [Options.texts, Dispatch.collect, List.forall_mem_singleton, ofDispatch,
        ← Options.exists_functionName_iff]
      simp only [Traced.result_bind_eq_ok]
      constructor
      · rintro ⟨_, function, named, _⟩
        exact ⟨function, named⟩
      · rintro ⟨function, named⟩
        exact ⟨_, function, named, rfl⟩
  | .select field arms fallback => by
      have branches := exists_ofArms_iff arms
      have otherwise := exists_ofFallback_iff fallback
      rw [Options.armTexts] at branches
      rw [Options.fallbackTexts] at otherwise
      rw [Options.texts, Dispatch.collect, List.forall_mem_append, List.forall_mem_append,
        List.forall_mem_singleton, ← branches, ← otherwise, ofDispatch, ← Name.exists_check_iff]
      simp only [Traced.result_bind_eq_ok]
      constructor
      · rintro ⟨_, accessor, checked, arms, made, fallback, last, _⟩
        exact ⟨⟨accessor, checked⟩, ⟨arms, made⟩, fallback, last⟩
      · rintro ⟨⟨accessor, checked⟩, ⟨arms, made⟩, fallback, last⟩
        exact ⟨_, accessor, checked, arms, made, fallback, last, (), rfl, rfl⟩

theorem exists_ofArms_iff : (arms : List (Literal × Dispatch)) →
    ((∃ branches, (ofArms options table arms).result = .ok branches) ↔
      ∀ text ∈ options.armTexts arms, isFreeName text = true)
  | [] => ⟨fun _ _ member => absurd member List.not_mem_nil, fun _ => ⟨[], rfl⟩⟩
  | (literal, child) :: rest => by
      have body := exists_ofDispatch_iff child
      have branches := exists_ofArms_iff rest
      rw [Options.texts] at body
      rw [Options.armTexts] at branches
      rw [Options.armTexts, Dispatch.collectArms, List.forall_mem_append, ← body, ← branches,
        ofArms]
      simp only [Traced.result_bind_eq_ok]
      constructor
      · rintro ⟨_, body, first, branches, later, _⟩
        exact ⟨⟨body, first⟩, branches, later⟩
      · rintro ⟨⟨body, first⟩, branches, later⟩
        exact ⟨_, body, first, branches, later, rfl⟩

theorem exists_ofFallback_iff : (fallback : Option Dispatch) →
    ((∃ otherwise, (ofFallback options table fallback).result = .ok otherwise) ↔
      ∀ text ∈ options.fallbackTexts fallback, isFreeName text = true)
  | none => ⟨fun _ _ member => absurd member List.not_mem_nil, fun _ => ⟨none, rfl⟩⟩
  | some child => by
      have body := exists_ofDispatch_iff child
      rw [Options.texts] at body
      rw [Options.fallbackTexts, Dispatch.collectFallback, ← body, ofFallback]
      simp only [Traced.result_bind_eq_ok]
      constructor
      · rintro ⟨_, body, made, _⟩
        exact ⟨body, made⟩
      · rintro ⟨body, made⟩
        exact ⟨_, body, made, rfl⟩

end

end Expression

/-! ## Modules -/

/-- What a table needs in order to be emitted. -/
structure Emittable (options : Options) (table : GeneratedTable) : Prop where
  imported : ∃ path, options.handlerPath table.name = .ok path
  function : isFreeName (options.function ++ table.name.suffix) = true
  body : ∀ text ∈ options.texts table.emission.body, isFreeName text = true
  array : options.handlerTable = true →
    ∀ handler ∈ table.emission.handlers, isFreeName handler.name = true

variable {options : Options}

theorem mem_layout {emission : Emission} {handler : Handler} :
    handler ∈ emission.layout ↔ handler ∈ emission.handlers :=
  (List.mergeSort_perm _ _).mem_iff

theorem HandlerArray.exists_ofEmission_iff (table : TableName) {emission : Emission} :
    (∃ array, ofEmission table emission = .ok array) ↔
      ∀ handler ∈ emission.handlers, isFreeName handler.name = true := by
  have checked : (∃ names, emission.layout.mapM (fun handler =>
      Name.check .handler handler.name) = .ok names) ↔
        ∀ handler ∈ emission.handlers, isFreeName handler.name = true := by
    rw [exists_mapM_iff]
    simp only [Name.exists_check_iff, mem_layout]
  rw [← checked]
  constructor
  · rintro ⟨_, made⟩
    obtain ⟨names, all, _⟩ := bind_eq_ok.mp made
    exact ⟨names, all⟩
  · rintro ⟨names, all⟩
    exact ⟨_, bind_eq_ok.mpr ⟨names, all, rfl⟩⟩

/-- What is emitted for a table, part by part. -/
theorem TableCode.ofTable_eq_ok {table : GeneratedTable} {code : TableCode} :
    (ofTable options table).result = .ok code ↔
      options.handlerPath table.name = .ok code.imported ∧
      options.functionName table.name = .ok code.function ∧
      (Expression.ofDispatch options table.name table.emission.body).result = .ok code.body ∧
      (if options.handlerTable then
        (HandlerArray.ofEmission table.name table.emission).map some else .ok none) =
          .ok code.array := by
  by_cases on : options.handlerTable = true
  all_goals
    simp only [ofTable, on, Bool.false_eq_true, if_true, if_false, Traced.result_bind_eq_ok]
    constructor
    · rintro ⟨path, imported, function, named, body, made, array, listed, same⟩
      cases same
      exact ⟨imported, named, made, listed⟩
    · rintro ⟨imported, named, made, listed⟩
      exact ⟨_, imported, _, named, _, made, _, listed, rfl⟩

theorem TableCode.exists_ofTable_iff {table : GeneratedTable} :
    (∃ code, (ofTable options table).result = .ok code) ↔ Emittable options table := by
  simp only [ofTable_eq_ok]
  constructor
  · rintro ⟨code, imported, named, made, listed⟩
    refine ⟨⟨_, imported⟩, Options.exists_functionName_iff.mp ⟨_, named⟩,
      (Expression.exists_ofDispatch_iff _).mp ⟨_, made⟩, ?_⟩
    intro on
    rw [if_pos on] at listed
    rw [← HandlerArray.exists_ofEmission_iff table.name]
    cases found : HandlerArray.ofEmission table.name table.emission with
    | ok array => exact ⟨array, rfl⟩
    | error fault => simp [found, Except.map] at listed
  · intro emittable
    obtain ⟨path, imported⟩ := emittable.imported
    obtain ⟨function, named⟩ := Options.exists_functionName_iff.mpr emittable.function
    obtain ⟨body, made⟩ := (Expression.exists_ofDispatch_iff _).mpr emittable.body
    by_cases on : options.handlerTable = true
    · obtain ⟨array, listed⟩ := (HandlerArray.exists_ofEmission_iff table.name).mpr
        (emittable.array on)
      refine ⟨⟨path, function, body, some array⟩, imported, named, made, ?_⟩
      rw [if_pos on, listed]
      rfl
    · exact ⟨⟨path, function, body, none⟩, imported, named, made, if_neg on⟩

theorem exists_tableCodes_iff {tables : List GeneratedTable} :
    (∃ codes, (tableCodes options tables).result = .ok codes) ↔
      ∀ table ∈ tables, Emittable options table := by
  induction tables with
  | nil => exact ⟨fun _ _ member => absurd member List.not_mem_nil, fun _ => ⟨[], rfl⟩⟩
  | cons table rest ih =>
      rw [List.forall_mem_cons, ← ih, ← TableCode.exists_ofTable_iff]
      simp only [tableCodes, Traced.result_bind_eq_ok]
      constructor
      · rintro ⟨_, code, first, codes, later, _⟩
        exact ⟨⟨code, first⟩, codes, later⟩
      · rintro ⟨⟨code, first⟩, codes, later⟩
        exact ⟨_, code, first, codes, later, rfl⟩

/-- The module of a program is emitted exactly where its options and all its
tables pass. -/
theorem exists_lookupText_iff {program : Program} :
    (∃ text, (lookupText program options).result = .ok text) ↔
      (∃ parts, options.parts = .ok parts) ∧ ∀ table ∈ program.tables, Emittable options table := by
  rw [← exists_tableCodes_iff]
  simp only [lookupText, LookupModule.ofProgram, Traced.result_bind_eq_ok]
  constructor
  · rintro ⟨_, module, ⟨parts, checked, codes, made, _⟩, _⟩
    exact ⟨⟨parts, checked⟩, codes, made⟩
  · rintro ⟨⟨parts, checked⟩, codes, made⟩
    exact ⟨_, _, ⟨parts, checked, codes, made, rfl⟩, rfl⟩

theorem distinct_eq_eraseDups (names : List String) : distinct names = names.eraseDups := by
  induction names using List.reverseRecOn with
  | nil => rfl
  | append_singleton names name ih =>
      rw [distinct, List.foldl_append, ← distinct, ih, eraseDups_concat]
      simp only [List.foldl_cons, List.foldl_nil, List.mem_eraseDups]

theorem stubText_eq_ok {table : GeneratedTable} {text : String} :
    stubText table options = .ok text ↔
      ∃ stubs, StubModule.ofTable table options = .ok stubs ∧ stubs.text = text := by
  rw [stubText]
  cases StubModule.ofTable table options <;> simp [Except.map]

/-- The stub module of a table is emitted exactly where the options pass and
the names of all handlers are free. -/
theorem exists_stubText_iff {table : GeneratedTable} :
    (∃ text, stubText table options = .ok text) ↔
      (∃ parts, options.parts = .ok parts) ∧
        ∀ handler ∈ table.emission.handlers, isFreeName handler.name = true := by
  have checked : (∃ names, (distinct (table.emission.layout.map Handler.name)).mapM
      (Name.check .handler) = .ok names) ↔
        ∀ handler ∈ table.emission.handlers, isFreeName handler.name = true := by
    rw [exists_mapM_iff]
    simp only [Name.exists_check_iff, distinct_eq_eraseDups, List.mem_eraseDups,
      List.forall_mem_map, mem_layout]
  rw [← checked]
  simp only [stubText_eq_ok, StubModule.ofTable, bind_eq_ok]
  constructor
  · rintro ⟨_, _, ⟨parts, passed, names, all, _⟩, _⟩
    exact ⟨⟨parts, passed⟩, names, all⟩
  · rintro ⟨⟨parts, passed⟩, names, all⟩
    exact ⟨_, _, ⟨parts, passed, names, all, rfl⟩, rfl⟩

/-- The types that emitted code names by default pass. -/
theorem Options.exists_parts_default {options : Options}
    (instructionType : options.instructionType = "crate::Instruction")
    (stateType : options.stateType = "State") (resultType : options.resultType = "InstResult")
    (handlerType : options.handlerType = "InstructionFn") :
    ∃ parts, options.parts = .ok parts := by
  have passes : (Options.parts {}).isOk = true := by decide +kernel
  have same : options.parts = Options.parts {} := by
    rw [parts, parts, instructionType, stateType, resultType, handlerType]
  rw [same]
  exact isOk_iff.mp passes

end Code

end OpcodeTables
