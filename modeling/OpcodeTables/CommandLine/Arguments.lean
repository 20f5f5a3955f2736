import OpcodeTables.CommandLine.Flag
import OpcodeTables.CommandLine.Word
import OpcodeTables.Log

/-!
# Arguments

What a command line asks for.  Arguments are read from left to right: flags of
the program, a command, and what the command takes.  A flag's value and the
words of a query are checked only when something after them, or the end,
completes them, which decides which of several faults is reported.
-/

namespace OpcodeTables.CommandLine

/-- Why a command line is not carried out. -/
inductive UsageFault where
  | nothingGiven
  | noCommand
  | noWord
  | badWord
  /-- A flag is left without its value, or with an empty one. -/
  | noValue
  | unknownArgument
  | unknownCommand
  /-- A switch is given a value. -/
  | unwantedValue
  /-- A flag is given twice, or two flags exclude each other. -/
  | conflict
  /-- No fault: help is asked for. -/
  | help
  /-- No fault: the version is asked for. -/
  | version
  deriving DecidableEq, Repr

/-- The exit status that a usage fault leads to. -/
def UsageFault.exitStatus : UsageFault → Nat
  | .help | .version => 0
  | _ => 2

/-- What was begun but may go on. -/
inductive Open where
  | nothing
  /-- A flag, with its value once that was met. -/
  | value (flag : ValueFlag) (text : Option String)
  /-- Words of a query. -/
  | words (texts : List String)
  deriving DecidableEq, Repr

/-- What the arguments of one scope said so far. -/
structure Progress where
  values : List (ValueFlag × String) := []
  verbose : Nat := 0
  quiet : Bool := false
  words : List UInt32 := []
  begun : Open := .nothing
  /-- Whether `--` was met. -/
  separated : Bool := false
  deriving DecidableEq, Repr

/-- The largest count of `--verbose`. -/
def maxVerbose : Nat := 255

namespace Progress

/-- Whether a flag's value comes next. -/
def awaitsValue (progress : Progress) : Bool :=
  match progress.begun with
  | .value _ none => true
  | _ => false

/-- Gives a flag its value. -/
def assign (progress : Progress) (flag : ValueFlag) (text : String) :
    Except UsageFault Progress :=
  if (progress.values.lookup flag).isSome then .error .conflict
  else if text.isEmpty then .error .noValue
  else .ok { progress with values := (flag, text) :: progress.values }

/-- Completes what was begun. -/
def settle (progress : Progress) : Except UsageFault Progress :=
  let settled := { progress with begun := .nothing }
  match progress.begun with
  | .nothing => .ok settled
  | .value _ none => .error .noValue
  | .value flag (some text) => settled.assign flag text
  | .words texts => do
      let words ← texts.mapM fun text => (readWord text).mapError fun _ => .badWord
      return { settled with words := settled.words ++ words }

/-- Turns a switch on. -/
def press (progress : Progress) (switch : Switch) : Except UsageFault Progress := do
  let progress ← progress.settle
  match switch with
  | .verbose => .ok { progress with verbose := min (progress.verbose + 1) maxVerbose }
  | .quiet => if progress.quiet then .error .conflict else .ok { progress with quiet := true }
  | .help => .error .help
  | .version => .error .version

/-- Begins a flag whose value may be attached to it. -/
def start (progress : Progress) (flag : ValueFlag) (attached : Option String) :
    Except UsageFault Progress := do
  let progress ← progress.settle
  match attached with
  | some text => progress.assign flag text
  | none => .ok { progress with begun := .value flag none }

/-- Takes a flag of a long name. -/
def takeLong (progress : Progress) (scope : Scope) (name : String) (attached : Option String) :
    Except UsageFault Progress :=
  match scope.long? name, attached with
  | none, _ => .error .unknownArgument
  | some (.value flag), attached => progress.start flag attached
  | some (.switch switch), none => progress.press switch
  | some (.switch _), some _ => .error .unwantedValue

/-- Takes flags by their letters. The first one that takes a value takes what
is left, after a `=` that may precede it. -/
def takeLetters (progress : Progress) (scope : Scope) : List Char → Except UsageFault Progress
  | [] => .ok progress
  | letter :: rest =>
      match scope.letter? letter, rest with
      | none, _ => .error .unknownArgument
      | some (.switch switch), rest => do
          let progress ← progress.press switch
          progress.takeLetters scope rest
      | some (.value flag), [] => progress.start flag none
      | some (.value flag), '=' :: value => progress.start flag (some (String.ofList value))
      | some (.value flag), value => progress.start flag (some (String.ofList value))

end Progress

/-- What the name of a command stands for. -/
inductive CommandName where
  | help
  | run (scope : Scope)
  deriving DecidableEq, Repr

/-- The command of a name. -/
def CommandName.ofString? : String → Option CommandName
  | "help" => some .help
  | "generate" => some (.run .generate)
  | "query" => some (.run .query)
  | "tables" => some (.run .tables)
  | _ => none

namespace Progress

/-- Takes an argument that is neither a flag nor a flag's value. -/
def takePlain (progress : Progress) (scope : Scope) (argument : String) :
    Except UsageFault Progress :=
  match scope with
  | .query =>
      match progress.begun with
      | .words texts => .ok { progress with begun := .words (texts ++ [argument]) }
      | _ => do
          let progress ← progress.settle
          return { progress with begun := .words [argument] }
  | .program =>
      if progress.separated && (CommandName.ofString? argument).isSome then
        .error .unknownArgument
      else .error .unknownCommand
  | .generate | .tables => .error .unknownArgument

/-- Takes one argument of a scope. -/
def take (scope : Scope) (progress : Progress) (argument : String) :
    Except UsageFault Progress :=
  if progress.separated then progress.takePlain scope argument
  else
    match Shape.ofArgument argument, progress.begun with
    | .separator, _ => .ok { progress with separated := true }
    | .long name attached, _ => progress.takeLong scope name attached
    | .letters letters, _ => progress.takeLetters scope letters
    | .plain, .value flag none => .ok { progress with begun := .value flag (some argument) }
    | .plain, _ => progress.takePlain scope argument

/-- Completes a scope: `--quiet` and `--verbose` exclude each other. -/
def finish (progress : Progress) : Except UsageFault Progress :=
  if progress.quiet && 0 < progress.verbose then .error .conflict else .ok progress

/-- Whether any flag was given. -/
def isEmpty (progress : Progress) : Bool :=
  progress.values.isEmpty && progress.verbose == 0 && !progress.quiet

/-- The value of a flag, as a path. -/
def path? (progress : Progress) (flag : ValueFlag) : Option Path :=
  (progress.values.lookup flag).map Path.mk

end Progress

/-- What to do. -/
inductive Command where
  /-- Emit code, to a file and with stubs where these are given. -/
  | generate (directory output stubs : Option Path)
  /-- Decode instruction words. -/
  | query (directory : Option Path) (words : List UInt32)
  /-- List the tables. -/
  | tables (directory : Option Path)
  deriving DecidableEq, Repr

/-- The directory of tables that a command names. -/
def Command.directory : Command → Option Path
  | .generate directory _ _ => directory
  | .query directory _ => directory
  | .tables directory => directory

/-- What a command line asks for. -/
structure Arguments where
  config : Option Path
  verbose : Nat
  quiet : Bool
  command : Command
  deriving DecidableEq, Repr

namespace Arguments

/-- The least important level that is logged. -/
def level (arguments : Arguments) : Level :=
  if arguments.quiet then .error
  else
    match arguments.verbose with
    | 0 => .warn
    | 1 => .info
    | 2 => .debug
    | _ => .trace

/-- What is left to read where help on a command was asked for. -/
def helpFault : List String → UsageFault
  | [] => .help
  | [name] => if (CommandName.ofString? name).isSome then .help else .unknownCommand
  | _ => .unknownCommand

/-- The command of a scope. -/
def commandOf (scope : Scope) (progress : Progress) : Except UsageFault Command :=
  let directory := progress.path? .tables
  match scope with
  | .generate => .ok (.generate directory (progress.path? .output) (progress.path? .stubs))
  | .query =>
      if progress.words.isEmpty then .error .noWord
      else .ok (.query directory progress.words)
  | .tables => .ok (.tables directory)
  | .program => .error .noCommand

/-- Reads the arguments of a command. -/
def readCommand (scope : Scope) (arguments : List String) :
    Except UsageFault (Progress × Command) := do
  let progress ← arguments.foldlM (Progress.take scope) {}
  let progress ← progress.settle
  let progress ← progress.finish
  let command ← commandOf scope progress
  return (progress, command)

/-- Reads arguments from the first one that was not read. A command takes all
that follow it. -/
def readProgram (progress : Progress) :
    List String → Except UsageFault (Progress × Option (Progress × Command))
  | [] => .ok (progress, none)
  | argument :: rest =>
      let name? :=
        if progress.separated || progress.awaitsValue then none
        else CommandName.ofString? argument
      match name? with
      | some .help => .error (helpFault rest)
      | some (.run scope) => do
          let command ← readCommand scope rest
          return (progress, some command)
      | none => do
          let progress ← progress.take .program argument
          readProgram progress rest

/-- Reads a command line, without the name of the program. A flag after the
command outranks the same one before it. -/
def ofList (arguments : List String) : Except UsageFault Arguments := do
  let (progress, command?) ← readProgram {} arguments
  let outer ← progress.settle
  match command? with
  | none => .error (if outer.isEmpty then .nothingGiven else .noCommand)
  | some (inner, command) =>
      let outer ← outer.finish
      return {
        config := (inner.path? .config).or (outer.path? .config)
        verbose := if 0 < inner.verbose then inner.verbose else outer.verbose
        quiet := inner.quiet || outer.quiet
        command }

end Arguments

end OpcodeTables.CommandLine
