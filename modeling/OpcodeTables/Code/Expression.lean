import OpcodeTables.Code.Options
import OpcodeTables.Dispatch
import OpcodeTables.Log

/-!
# Bodies of lookup functions

What a lookup function computes, with every name checked: the code of a
dispatch.  The tokens of a body say all that decoding depends on.
-/

namespace OpcodeTables.Code

/-- The body of a lookup function. -/
inductive Expression where
  /-- A handler with what it costs. -/
  | handler (name : Name) (cycles : UInt32)
  /-- The lookup of another table. -/
  | call (function : Name)
  /-- A choice by the value of a field. -/
  | select (accessor : Name) (arms : List (Literal × Expression)) (fallback : Option Expression)
  deriving Repr

namespace Expression

mutual

/-- The body that a dispatch becomes. A choice is logged once its arms and its
fallback are done. -/
def ofDispatch (options : Options) (table : TableName) : Dispatch → Traced Fault Expression
  | .run target => do
      let name ← Traced.ofExcept (Name.check .handler target.name)
      return .handler name target.cycles
  | .delegate other => do
      let function ← Traced.ofExcept (options.functionName other)
      return .call function
  | .select field arms fallback => do
      let accessor ← Traced.ofExcept (Name.check .fields field.name)
      let branches ← ofArms options table arms
      let otherwise ← ofFallback options table fallback
      Traced.event (.matched table arms.length field.name)
      return .select accessor branches otherwise

/-- The arms of a choice, from the first to the last. -/
def ofArms (options : Options) (table : TableName) :
    List (Literal × Dispatch) → Traced Fault (List (Literal × Expression))
  | [] => Traced.ok []
  | (literal, child) :: rest => do
      let body ← ofDispatch options table child
      let branches ← ofArms options table rest
      return (literal, body) :: branches

/-- The fallback of a choice. -/
def ofFallback (options : Options) (table : TableName) :
    Option Dispatch → Traced Fault (Option Expression)
  | none => Traced.ok none
  | some child => do
      let body ← ofDispatch options table child
      return some body

end

/-- The instruction, which is the one argument of a lookup function. -/
def argument : Token := .word "instruction"

/-- A whole number without a suffix. -/
def number (value : Nat) : Token :=
  .literal (toString value)

/-- A literal of a table. -/
def literalToken : Literal → Token
  | .bool true => .word "true"
  | .bool false => .word "false"
  | .int value => number value.toNat

/-- A result that is there, in the form that the function returns. -/
def found (unmatched : Unmatched) (result : List Token) : List Token :=
  match unmatched with
  | .panic => result
  | .none => .word "Some" :: Token.enclose .round result

/-- What a choice by a field does with any other value. -/
def unmatchedTokens (unmatched : Unmatched) (field : String) : List Token :=
  match unmatched with
  | .panic =>
      let message := "Unknown instruction \x7b:?\x7d (using field " ++ field ++ ")"
      [.word "panic", Token.mark '!'] ++
        Token.enclose .round [stringLiteral message.toList, Token.mark ',', argument]
  | .none => [.word "None"]

mutual

/-- The tokens of a body. -/
def tokens (unmatched : Unmatched) : Expression → List Token
  | .handler name cycles =>
      found unmatched
        (Token.enclose .round [name.token, Token.mark ',', number cycles.toNat])
  | .call function => function.token :: Token.enclose .round [argument]
  | .select accessor arms fallback =>
      [.word "match", argument, Token.mark '.', accessor.token] ++ Token.enclose .round [] ++
        Token.enclose .curly
          (armTokens unmatched arms ++
            (.word "_" :: Token.operator ['=', '>']) ++
            fallbackTokens unmatched accessor.text fallback ++ [Token.mark ','])

/-- The tokens of arms. -/
def armTokens (unmatched : Unmatched) : List (Literal × Expression) → List Token
  | [] => []
  | (literal, body) :: rest =>
      literalToken literal :: Token.operator ['=', '>'] ++ tokens unmatched body ++
        [Token.mark ','] ++ armTokens unmatched rest

/-- The tokens of a fallback, or of what is done without one. -/
def fallbackTokens (unmatched : Unmatched) (field : String) : Option Expression → List Token
  | none => unmatchedTokens unmatched field
  | some body => tokens unmatched body

end

end Expression

end OpcodeTables.Code
