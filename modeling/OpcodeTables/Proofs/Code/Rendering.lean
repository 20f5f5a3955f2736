import Mathlib
import OpcodeTables.Proofs.Code.Body

/-!
# What a body says

The text of a lookup function's body determines the dispatch that it was made
of, up to the places of handlers in the layout and of fields in the schema.
Decoding by emitted code depends on neither.
-/

namespace OpcodeTables

namespace Dispatch

mutual

/-- A dispatch without the places of its handlers and fields. -/
def forgetPlaces : Dispatch → Dispatch
  | .run target => .run { target with layoutIndex := 0 }
  | .delegate table => .delegate table
  | .select field arms fallback =>
      .select { field with index := 0 } (forgetArmPlaces arms) (forgetFallbackPlaces fallback)

/-- Arms without places. -/
def forgetArmPlaces : List (Literal × Dispatch) → List (Literal × Dispatch)
  | [] => []
  | (literal, child) :: rest => (literal, forgetPlaces child) :: forgetArmPlaces rest

/-- A fallback without places. -/
def forgetFallbackPlaces : Option Dispatch → Option Dispatch
  | none => none
  | some child => some (forgetPlaces child)

end

end Dispatch

namespace Code

/-- The table whose lookup function has a name. -/
def Options.tableOf (options : Options) (function : Name) : TableName :=
  ⟨String.ofList (function.text.toList.drop (options.function.toList.length + 1))⟩

/-- The name of a function tells its table. -/
theorem Options.tableOf_of_functionName {options : Options} {table : TableName} {function : Name}
    (named : options.functionName table = .ok function) : options.tableOf function = table := by
  have text : function.text = options.function ++ table.suffix := Name.check_eq_ok.mp named
  rw [tableOf, text, String.toList_append]
  by_cases root : table.isRoot = true
  · have chars : options.function.toList ++ table.suffix.toList = options.function.toList := by
      simp [TableName.suffix, root]
    rw [chars, List.drop_eq_nil_of_le (by simp)]
    obtain ⟨name⟩ := table
    exact congrArg TableName.mk (beq_iff_eq.mp root).symm
  · have chars : options.function.toList ++ table.suffix.toList =
        (options.function.toList ++ ['_']) ++ table.text.toList := by
      simp [TableName.suffix, root]
    rw [chars, List.drop_left' (by simp), String.ofList_toList]

namespace Expression

variable (options : Options)

mutual

/-- The dispatch that a body was made of, without places. -/
def dispatch : Expression → Dispatch
  | .handler name cycles => .run ⟨name.text, cycles, 0⟩
  | .call function => .delegate (options.tableOf function)
  | .select accessor arms fallback =>
      .select ⟨0, accessor.text⟩ (armDispatches arms) (fallbackDispatch fallback)

/-- The arms that the arms of a body were made of. -/
def armDispatches : List (Literal × Expression) → List (Literal × Dispatch)
  | [] => []
  | (literal, body) :: rest => (literal, dispatch body) :: armDispatches rest

/-- The fallback that the fallback of a body was made of. -/
def fallbackDispatch : Option Expression → Option Dispatch
  | none => none
  | some body => some (dispatch body)

end

variable (table : TableName)

mutual

/-- A body says all but the places. -/
theorem dispatch_ofDispatch : (source : Dispatch) → {body : Expression} →
    (ofDispatch options table source).result = .ok body →
    body.dispatch options = source.forgetPlaces
  | .run target, body, made => by
      rw [ofDispatch, Traced.result_bind_eq_ok] at made
      obtain ⟨name, checked, same⟩ := made
      cases same
      rw [dispatch, Dispatch.forgetPlaces, Name.check_eq_ok.mp checked]
  | .delegate other, body, made => by
      rw [ofDispatch, Traced.result_bind_eq_ok] at made
      obtain ⟨function, named, same⟩ := made
      cases same
      rw [dispatch, Dispatch.forgetPlaces, Options.tableOf_of_functionName named]
  | .select field arms fallback, body, made => by
      simp only [ofDispatch, Traced.result_bind_eq_ok] at made
      obtain ⟨accessor, checked, branches, first, otherwise, second, _, _, same⟩ := made
      cases same
      rw [dispatch, Dispatch.forgetPlaces, Name.check_eq_ok.mp checked,
        armDispatches_ofArms arms first, fallbackDispatch_ofFallback fallback second]

theorem armDispatches_ofArms : (arms : List (Literal × Dispatch)) →
    {branches : List (Literal × Expression)} →
    (ofArms options table arms).result = .ok branches →
    armDispatches options branches = Dispatch.forgetArmPlaces arms
  | [], branches, made => by
      cases made
      rfl
  | (literal, child) :: rest, branches, made => by
      simp only [ofArms, Traced.result_bind_eq_ok] at made
      obtain ⟨body, first, others, second, same⟩ := made
      cases same
      rw [armDispatches, Dispatch.forgetArmPlaces, dispatch_ofDispatch child first,
        armDispatches_ofArms rest second]

theorem fallbackDispatch_ofFallback : (fallback : Option Dispatch) →
    {otherwise : Option Expression} →
    (ofFallback options table fallback).result = .ok otherwise →
    fallbackDispatch options otherwise = Dispatch.forgetFallbackPlaces fallback
  | none, otherwise, made => by
      cases made
      rfl
  | some child, otherwise, made => by
      rw [ofFallback, Traced.result_bind_eq_ok] at made
      obtain ⟨body, first, same⟩ := made
      cases same
      rw [fallbackDispatch, Dispatch.forgetFallbackPlaces, dispatch_ofDispatch child first]

end

end Expression

/-- The body of a table's lookup function as it is written. -/
def Options.bodyText (options : Options) (table : TableName) (dispatch : Dispatch) :
    Except Fault String :=
  (Expression.ofDispatch options table dispatch).result.map fun body =>
    Token.print (body.tokens options.unmatched)

theorem Options.bodyText_eq_ok {options : Options} {table : TableName} {dispatch : Dispatch}
    {text : String} (written : options.bodyText table dispatch = .ok text) :
    ∃ body, (Expression.ofDispatch options table dispatch).result = .ok body ∧
      Token.print (body.tokens options.unmatched) = text := by
  cases made : (Expression.ofDispatch options table dispatch).result with
  | error fault => simp [bodyText, made, Except.map] at written
  | ok body => exact ⟨body, rfl, by simpa [bodyText, made, Except.map] using written⟩

/-- The text of a body determines its dispatch up to places. -/
theorem forgetPlaces_eq_of_bodyText {options : Options} {here there : TableName}
    {left right : Dispatch} {text : String} (first : options.bodyText here left = .ok text)
    (second : options.bodyText there right = .ok text) :
    left.forgetPlaces = right.forgetPlaces := by
  obtain ⟨body, made, printed⟩ := Options.bodyText_eq_ok first
  obtain ⟨body', made', printed'⟩ := Options.bodyText_eq_ok second
  obtain rfl := Expression.eq_of_print (printed.trans printed'.symm)
  rw [← Expression.dispatch_ofDispatch options here left made,
    Expression.dispatch_ofDispatch options there right made']

/-- Options under which a lookup function is called `Some`. -/
def lookalikeOptions : Options :=
  { function := "Some", unmatched := .none }

/-- A dispatch whose names look like the code around them. -/
def lookalike (place : Nat) : Dispatch :=
  .select ⟨place, "match"⟩
    [(.bool true, .run ⟨"None", 4, place⟩),
      (.int 7, .select ⟨place, "type"⟩ [(.int 0, .delegate ⟨"panic"⟩)] none)]
    (some (.delegate .root))

theorem bodyText_lookalike (table : TableName) (place : Nat) :
    lookalikeOptions.bodyText table (lookalike place) =
      .ok ("match instruction . r#match () \x7b true => Some ((None , 4)) , 7 => match " ++
        "instruction . r#type () \x7b 0 => Some_panic (instruction) , _ => None , \x7d , " ++
        "_ => Some (instruction) , \x7d") := by
  cbv

theorem forgetPlaces_eq_of_bodyText_lookalike :
    ∃ text, lookalikeOptions.bodyText .root (lookalike 0) = .ok text ∧
      lookalikeOptions.bodyText ⟨"special"⟩ (lookalike 3) = .ok text ∧
      (lookalike 0).forgetPlaces = (lookalike 3).forgetPlaces :=
  ⟨_, bodyText_lookalike .root 0, bodyText_lookalike ⟨"special"⟩ 3,
    forgetPlaces_eq_of_bodyText (bodyText_lookalike .root 0) (bodyText_lookalike ⟨"special"⟩ 3)⟩

end Code

end OpcodeTables
