import OpcodeTables.Code.Name
import OpcodeTables.Code.Token.Lexer

/-!
# Options of emitted code

How emitted code names its functions and types, and what it does with an
instruction that no record matches.  The texts of options are checked once,
before anything is emitted.
-/

namespace OpcodeTables.Code

/-- What a lookup function does where no arm matches. -/
inductive Unmatched where
  /-- It stops the program, naming the field that decided. -/
  | panic
  /-- It returns an optional result, which is then absent. -/
  | none
  deriving DecidableEq, Repr

/-- How emitted code looks. -/
structure Options where
  /-- Name of the root table's function. The name of any other table is
  appended to it. -/
  function : String := "lookup"
  instructionType : String := "crate::Instruction"
  stateType : String := "State"
  resultType : String := "InstResult"
  handlerType : String := "InstructionFn"
  /-- Module of the root table's handlers. The name of any other table is
  appended to it. Without one, nothing is imported. -/
  handlerModule : Option String := .none
  unmatched : Unmatched := .panic
  /-- Whether the handlers of each table are listed in an array as well. -/
  handlerTable : Bool := false
  deriving DecidableEq, Repr

/-- The tokens of a text that an option decides. White space alone is refused. -/
def checkTokens (part : RenderPart) (text : String) : Except Fault (List Token) :=
  if Text.allBlank text then .error (.invalidPart part text)
  else
    match Token.ofString? text with
    | some tokens => .ok tokens
    | none => .error (.invalidPart part text)

/-- What stands before the first `::` of a reversed path. -/
def takeSegment : List Char → List Char
  | [] => []
  | ':' :: ':' :: _ => []
  | c :: rest => c :: takeSegment rest

/-- The last segment of a path. -/
def lastSegment (path : String) : String :=
  Text.trim (String.ofList (takeSegment path.toList.reverse).reverse)

/-- The parts of emitted code that are the same in all of it. -/
structure Parts where
  instructionPath : List Token
  instruction : Name
  state : List Token
  result : List Token
  handlerType : Name
  deriving DecidableEq, Repr

/-- Checks the parts that options decide, in the order in which a fault in one
of them is reported. -/
def Options.parts (options : Options) : Except Fault Parts := do
  let instructionPath ← checkTokens .instructionType options.instructionType
  let instruction ← Name.check .instructionType (lastSegment options.instructionType)
  let state ← checkTokens .stateType options.stateType
  let result ← checkTokens .resultType options.resultType
  let handlerType ← Name.check .handlerType options.handlerType
  return { instructionPath, instruction, state, result, handlerType }

/-- Name of the function that a table's lookup becomes. -/
def Options.functionName (options : Options) (table : TableName) : Except Fault Name :=
  Name.check .function (options.function ++ table.suffix)

/-- Path of the module that holds a table's handlers, if there is one. -/
def Options.handlerPath (options : Options) (table : TableName) :
    Except Fault (Option (List Token)) :=
  match options.handlerModule with
  | .none => .ok .none
  | some path => (checkTokens .handlerModule (path ++ table.suffix)).map some

end OpcodeTables.Code
