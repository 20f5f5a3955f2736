import OpcodeTables.Code.Expression
import OpcodeTables.Program.Basic
import OpcodeTables.Text.Upper

/-!
# Emitted modules

The lookup module of a program holds, for each table, the import of its
handlers, its lookup function, and on demand the array of its handlers.  The
stub module of a table holds a placeholder for each of its handlers.

A module is made as a value whose parts are all checked; writing it out cannot
fail.  Every item is on a line of its own.
-/

namespace OpcodeTables.Code

/-- First line of every emitted module. -/
def header : String := "// @generated by lookup-gen. Do not edit."

/-- An emitted module of items. -/
def joinItems (items : List (List Token)) : String :=
  header ++ "\n\n" ++ String.join (items.map fun item => Token.print item ++ "\n")

/-- The array of a table's handlers. -/
structure HandlerArray where
  name : String
  handlers : List Name
  deriving DecidableEq, Repr

/-- Name of the array of a table's handlers. -/
def arrayName (table : TableName) : String :=
  "HANDLERS" ++ Text.upper table.suffix

/-- The array of a table's handlers in the order of their layout. -/
def HandlerArray.ofEmission (table : TableName) (emission : Emission) :
    Except Fault HandlerArray := do
  let handlers ← emission.layout.mapM fun handler => Name.check .handler handler.name
  return ⟨arrayName table, handlers⟩

/-- What a table adds to the lookup module. -/
structure TableCode where
  /-- The module that its handlers are imported from. -/
  imported : Option (List Token)
  function : Name
  body : Expression
  array : Option HandlerArray
  deriving Repr

/-- What a table adds to the lookup module. -/
def TableCode.ofTable (options : Options) (table : GeneratedTable) : Traced Fault TableCode := do
  let imported ← Traced.ofExcept (options.handlerPath table.name)
  let function ← Traced.ofExcept (options.functionName table.name)
  let body ← Expression.ofDispatch options table.name table.emission.body
  let array ←
    if options.handlerTable then
      Traced.ofExcept ((HandlerArray.ofEmission table.name table.emission).map some)
    else Traced.ok none
  return { imported, function, body, array }

/-- Makes the code of tables in order. -/
def tableCodes (options : Options) : List GeneratedTable → Traced Fault (List TableCode)
  | [] => Traced.ok []
  | table :: rest => do
      let code ← TableCode.ofTable options table
      let codes ← tableCodes options rest
      return code :: codes

/-- The module of all lookup functions. -/
structure LookupModule where
  parts : Parts
  unmatched : Unmatched
  /-- One for each table of the program, in its order. -/
  tables : List TableCode
  deriving Repr

/-- The lookup module of a program. -/
def LookupModule.ofProgram (program : Program) (options : Options) :
    Traced Fault LookupModule := do
  let parts ← Traced.ofExcept options.parts
  let tables ← tableCodes options program.tables
  return { parts, unmatched := options.unmatched, tables }

/-- Placeholders for the handlers of a table. -/
structure StubModule where
  parts : Parts
  handlers : List Name
  deriving DecidableEq, Repr

/-- Each of some names once, in the order in which they come first. -/
def distinct (names : List String) : List String :=
  names.foldl (fun seen name => if name ∈ seen then seen else seen ++ [name]) []

/-- The stub module of a table: one placeholder for each handler name of the
layout, in the order in which the names come first. -/
def StubModule.ofTable (table : GeneratedTable) (options : Options) :
    Except Fault StubModule := do
  let parts ← options.parts
  let names := distinct (table.emission.layout.map Handler.name)
  let handlers ← names.mapM (Name.check .handler)
  return { parts, handlers }

/-- File name of a table's stub module. -/
def stubFileName (table : TableName) : String :=
  "instruction_impl" ++ table.suffix ++ ".rs"

namespace Item

/-- A type that is used under its own name. -/
def useType (path : List Token) : List Token :=
  .word "use" :: path ++ [Token.mark ';']

/-- A module all of whose items are used. -/
def useAll (path : List Token) : List Token :=
  .word "use" :: path ++ Token.operator [':', ':'] ++ [Token.mark '*', Token.mark ';']

/-- The state that handlers change. -/
def stateReference (parts : Parts) : List Token :=
  [Token.mark '&', .word "mut"] ++ parts.state

/-- What follows the arguments of a function: its result's type. -/
def returns (type : List Token) : List Token :=
  Token.operator ['-', '>'] ++ type

/-- The type of all handlers. -/
def handlerType (parts : Parts) : List Token :=
  [.word "pub", .word "type", parts.handlerType.token, Token.mark '=', .word "fn"] ++
    Token.enclose .round
      (stateReference parts ++ [Token.mark ',', parts.instruction.token]) ++
    returns parts.result ++ [Token.mark ';']

/-- What a lookup function returns: a handler and its cost. -/
def lookupResult (parts : Parts) (unmatched : Unmatched) : List Token :=
  let pair := Token.enclose .round [parts.handlerType.token, Token.mark ',', .word "usize"]
  match unmatched with
  | .panic => pair
  | .none => [.word "Option", Token.mark '<'] ++ pair ++ [Token.mark '>']

/-- A lookup function. -/
def lookup (parts : Parts) (unmatched : Unmatched) (function : Name) (body : Expression) :
    List Token :=
  [.word "pub", .word "fn", function.token] ++
    Token.enclose .round [Expression.argument, Token.mark ':', parts.instruction.token] ++
    returns (lookupResult parts unmatched) ++
    Token.enclose .curly (body.tokens unmatched)

/-- Names with a comma between any two of them. -/
def commaSeparated (names : List Name) : List Token :=
  (names.map Name.token).intersperse (Token.mark ',')

/-- The array of a table's handlers. -/
def array (parts : Parts) (array : HandlerArray) : List Token :=
  [.word "pub", .word "const", .word array.name, Token.mark ':'] ++
    Token.enclose .square
      [parts.handlerType.token, Token.mark ';', Expression.number array.handlers.length] ++
    [Token.mark '='] ++ Token.enclose .square (commaSeparated array.handlers) ++
    [Token.mark ';']

/-- A placeholder for a handler. -/
def stub (parts : Parts) (handler : Name) : List Token :=
  let message := "Instruction " ++ handler.text ++ " not implemented"
  [.word "pub", .word "fn", handler.token] ++
    Token.enclose .round
      ([.word "_state", Token.mark ':'] ++ stateReference parts ++
        [Token.mark ',', .word "_instruction", Token.mark ':', parts.instruction.token]) ++
    returns parts.result ++
    Token.enclose .curly
      ([.word "unimplemented", Token.mark '!'] ++
        Token.enclose .round [stringLiteral message.toList])

end Item

/-- The items that a table adds to the lookup module. -/
def TableCode.items (parts : Parts) (unmatched : Unmatched) (code : TableCode) :
    List (List Token) :=
  (code.imported.map Item.useAll).toList ++
    [Item.lookup parts unmatched code.function code.body] ++
    (code.array.map (Item.array parts)).toList

/-- The items of a lookup module. -/
def LookupModule.items (module : LookupModule) : List (List Token) :=
  [Item.useType module.parts.instructionPath, Item.handlerType module.parts] ++
    module.tables.flatMap (TableCode.items module.parts module.unmatched)

/-- A lookup module as it is written. -/
def LookupModule.text (module : LookupModule) : String :=
  joinItems module.items

/-- The items of a stub module. -/
def StubModule.items (module : StubModule) : List (List Token) :=
  Item.useType module.parts.instructionPath :: module.handlers.map (Item.stub module.parts)

/-- A stub module as it is written. -/
def StubModule.text (module : StubModule) : String :=
  joinItems module.items

/-- The text of a program's lookup module. -/
def lookupText (program : Program) (options : Options) : Traced Fault String := do
  let module ← LookupModule.ofProgram program options
  return module.text

/-- The text of a table's stub module. -/
def stubText (table : GeneratedTable) (options : Options) : Except Fault String :=
  (StubModule.ofTable table options).map StubModule.text

end OpcodeTables.Code
