import OpcodeTables.CommandLine.Arguments
import OpcodeTables.Code.Module
import OpcodeTables.Mips.Word
import OpcodeTables.Program.Lookup
import OpcodeTables.Settings

/-!
# Plans

What a command comes to: what it prints, and the files that it writes.  A plan
is made from the settings and the tables alone, and only when all of its texts
are there, so that nothing is written before everything is known to work.
-/

namespace OpcodeTables.CommandLine

/-- Why a run failed. -/
inductive RunFault where
  | settingsUnreadable (path : Path) (cause : FileFault)
  | settingsInvalid (path : Path) (cause : SettingsFault)
  | tablesFailed (directory : Path) (cause : Fault)
  | notEmitted (cause : Fault)
  | notCreated (directory : Path) (cause : FileFault)
  | notWritten (path : Path) (cause : FileFault)
  | undecoded (failures instructions : Nat)
  deriving DecidableEq, Repr

/-- The cause of a fault, in words, where there is one. -/
def causeOf : Fault → List String
  | .unreadable _ cause => [cause.message]
  | .unparsable _ cause => [cause.message]
  | _ => []

/-- The fault and its causes in words, the outermost first. -/
def RunFault.messages : RunFault → List String
  | .settingsUnreadable path cause => ["failed to read " ++ path.text, cause.message]
  | .settingsInvalid path cause => ["invalid config " ++ path.text, cause.message]
  | .tablesFailed directory cause =>
      ("failed to build lookup tables from " ++ directory.text) :: cause.message ::
        causeOf cause
  | .notEmitted cause => cause.message :: causeOf cause
  | .notCreated directory cause => ["failed to create " ++ directory.text, cause.message]
  | .notWritten path cause => ["failed to write " ++ path.text, cause.message]
  | .undecoded failures instructions =>
      [s!"{failures} of {instructions} instructions did not decode"]

/-- A file to write. -/
structure Write where
  path : Path
  text : String
  deriving DecidableEq, Repr

/-- What a command comes to. -/
structure Plan where
  printed : String := ""
  writes : List Write := []
  /-- A failure that is reported after everything is done. -/
  failure : Option RunFault := none
  deriving DecidableEq, Repr

/-- The tables of the settings, in the directory that a command names where it
names one. -/
def tablesFor (settings : Settings) (command : Command) : TableDirectory :=
  match command.directory with
  | some directory => { settings.tables with directory }
  | none => settings.tables

/-- Finds every table of a command. -/
def resolveTables (tables : TableDirectory) (files : FileView) : Traced RunFault Program := do
  let resolution := (tables.source files).resolve
  let program ←
    Traced.mapFault (.tablesFailed tables.directory) ⟨resolution.log, resolution.result⟩
  Traced.event (.built program.tables.length)
  return program

namespace Plan

/-- Emits the lookup module, and the stub module of every table where they have
a directory. -/
def generate (settings : Settings) (output stubs : Option Path) (program : Program) :
    Traced RunFault Plan := do
  let module ← Traced.mapFault .notEmitted (Code.lookupText program settings.code)
  let stubModules ←
    match stubs.or settings.stubsDirectory with
    | none => Traced.ok []
    | some directory =>
        Traced.mapFault .notEmitted (Traced.ofExcept
          (program.tables.mapM fun table => do
            let text ← Code.stubText table settings.code
            return Write.mk (directory.join ⟨Code.stubFileName table.name⟩) text))
  match output.or settings.output with
  | some path => return { writes := ⟨path, module⟩ :: stubModules }
  | none => return { printed := module, writes := stubModules }

/-- The line that answers for one instruction word. -/
def queryLine (word : UInt32) (walk : Walk) : String :=
  match walk.outcome with
  | .ok (table, leaf) =>
      s!"{Text.hexWord word}  {table.label}  {leaf.handler}  cycles {leaf.cycles.toNat}\n"
  | .error failure => s!"{Text.hexWord word}  {failure.message}\n"

/-- Decodes instruction words. -/
def query (words : List UInt32) (program : Program) : Traced RunFault Plan := do
  let walks := words.filterMap fun word =>
    (program.lookup? (Mips.Instruction.mk word).field).map fun walk => (word, walk)
  Traced.events (walks.flatMap fun (_, walk) => walk.log)
  let failures := (walks.filter fun (_, walk) => !walk.outcome.toBool).length
  return {
    printed := String.join (walks.map fun (word, walk) => queryLine word walk)
    failure := if failures = 0 then none else some (.undecoded failures words.length) }

/-- The line that describes one table. -/
def tableLine (tables : TableDirectory) (table : GeneratedTable) : String :=
  let delegates := ", ".intercalate (table.delegates.map TableName.label)
  s!"{table.name.label}\t{(tables.pathOf table.name).text}\t" ++
    s!"{table.emission.handlers.length} handlers\t-> [{delegates}]\n"

/-- Lists the tables. -/
def tables (directory : TableDirectory) (program : Program) : Plan :=
  { printed := String.join (program.tables.map (tableLine directory)) }

/-- What a command comes to, given the settings and the files that it reads. -/
def ofCommand (settings : Settings) (command : Command) (files : FileView) :
    Traced RunFault Plan := do
  let directory := tablesFor settings command
  let program ← resolveTables directory files
  match command with
  | .generate _ output stubs => generate settings output stubs program
  | .query _ words => query words program
  | .tables _ => return tables directory program

end Plan

end OpcodeTables.CommandLine
