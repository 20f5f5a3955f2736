/-!
# Flags

The flags of the command line, and which of them are known where.  A flag that
takes a value is given once; a switch takes none.
-/

namespace OpcodeTables.CommandLine

/-- Flags that take a value. -/
inductive ValueFlag where
  | config
  | tables
  | output
  | stubs
  deriving DecidableEq, Repr

/-- Flags that take no value. -/
inductive Switch where
  | verbose
  | quiet
  | help
  | version
  deriving DecidableEq, Repr

/-- All flags. -/
inductive Flag where
  | value (flag : ValueFlag)
  | switch (switch : Switch)
  deriving DecidableEq, Repr

namespace Flag

/-- What stands after two dashes. -/
def long : Flag → String
  | .value .config => "config"
  | .value .tables => "tables"
  | .value .output => "output"
  | .value .stubs => "stubs"
  | .switch .verbose => "verbose"
  | .switch .quiet => "quiet"
  | .switch .help => "help"
  | .switch .version => "version"

/-- What stands after one dash, for flags that can be written so. -/
def letter? : Flag → Option Char
  | .value .config => some 'c'
  | .value .output => some 'o'
  | .value .tables | .value .stubs => none
  | .switch .verbose => some 'v'
  | .switch .quiet => some 'q'
  | .switch .help => some 'h'
  | .switch .version => some 'V'

/-- Flags that are known everywhere. -/
def everywhere : List Flag :=
  [.value .config, .switch .verbose, .switch .quiet, .switch .help]

end Flag

/-- Where on the command line an argument stands. -/
inductive Scope where
  /-- Before the command. -/
  | program
  | generate
  | query
  | tables
  deriving DecidableEq, Repr

namespace Scope

/-- The flags that are known in a scope. -/
def flags : Scope → List Flag
  | .program => .switch .version :: Flag.everywhere
  | .generate => [.value .tables, .value .output, .value .stubs] ++ Flag.everywhere
  | .query | .tables => .value .tables :: Flag.everywhere

/-- The flag of a long name. -/
def long? (scope : Scope) (name : String) : Option Flag :=
  scope.flags.find? fun flag => flag.long == name

/-- The flag of a letter. -/
def letter? (scope : Scope) (letter : Char) : Option Flag :=
  scope.flags.find? fun flag => flag.letter? == some letter

end Scope

/-- What the form of an argument makes of it. -/
inductive Shape where
  /-- `--` alone, after which no argument is a flag. -/
  | separator
  | long (name : String) (value : Option String)
  | letters (letters : List Char)
  /-- Anything that does not begin with a dash, and a lone dash. -/
  | plain
  deriving DecidableEq, Repr

/-- The form of an argument. -/
def Shape.ofArgument (argument : String) : Shape :=
  match argument.toList with
  | ['-', '-'] => .separator
  | '-' :: '-' :: rest =>
      let name := String.ofList (rest.takeWhile (· ≠ '='))
      match rest.dropWhile (· ≠ '=') with
      | _ :: value => .long name (some (String.ofList value))
      | [] => .long name none
  | '-' :: c :: rest => .letters (c :: rest)
  | _ => .plain

end OpcodeTables.CommandLine
