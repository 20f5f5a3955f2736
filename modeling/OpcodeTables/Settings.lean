import OpcodeTables.Code.Options
import OpcodeTables.TableDirectory
import OpcodeTables.Text.Quoted
import OpcodeTables.Toml.Document

/-!
# Settings

Where tables are read from, how code is emitted and where it goes.  A settings
file is a TOML document of three groups, all of whose settings can be left out.
Settings that are unknown, or of the wrong type, are refused.

A group is a table, or an array that gives its settings in their order.
-/

namespace OpcodeTables

/-- What a run is told to do. -/
structure Settings where
  tables : TableDirectory := {}
  code : Code.Options := {}
  /-- Where the lookup module goes; without it, to the standard output. -/
  output : Option Path := none
  /-- Where stub modules go; without it, none are emitted. -/
  stubsDirectory : Option Path := none
  deriving DecidableEq, Repr

/-- Why a settings file was refused. -/
inductive SettingsFault where
  /-- It is no TOML, or not of the shape of settings. -/
  | malformed
  /-- It asks for something unknown where no arm matches. -/
  | unknownUnmatched (text : String)
  deriving DecidableEq, Repr

/-- The reason in words. -/
def SettingsFault.message : SettingsFault → String
  | .malformed => "malformed settings"
  | .unknownUnmatched text =>
      "unmatched must be \"panic\" or \"none\", not " ++ Text.quoted text

namespace Settings

/-- The values of a group of settings by their names. -/
abbrev Group := String → Option Toml.Value

/-- The group that a value holds, given the names of its settings in order. -/
def groupOf? (names : List String) : Toml.Value → Option Group
  | .table fields =>
      if fields.all fun (name, _) => names.contains name then
        some fun name => fields.lookup name
      else none
  | .array items => some fun name => items[names.idxOf name]?
  | _ => none

/-- A setting of some type, where it is given. -/
def Group.read {α : Type} (group : Group) (name : String) (as? : Toml.Value → Option α) :
    Option (Option α) :=
  match group name with
  | none => some none
  | some value => (as? value).map some

/-- Settings of the tables, in their order. -/
def inputNames : List String :=
  ["directory", "base_name", "header_row", "fields", "mnemonic_column", "cpi_column",
    "proxy_column", "index_column"]

/-- Settings of the emitted code, in their order. -/
def outputNames : List String :=
  ["path", "stubs_dir", "function", "instruction_type", "state_type", "result_type",
    "handler_type", "handler_module", "unmatched", "handler_table"]

/-- A path of a settings file, which is relative to the file's directory. -/
def resolvePath (base : Path) (text : String) : Path :=
  base.join ⟨text⟩

/-- The tables that a group of settings describes. -/
def readInput (base : Path) (overrides : List (String × List String)) (group : Group) :
    Option TableDirectory := do
  let layout : Csv.Layout := {}
  let tables : TableDirectory := {}
  let directory ← group.read "directory" Toml.Value.text?
  let baseName ← group.read "base_name" Toml.Value.text?
  let headerRow ← group.read "header_row" Toml.Value.natural?
  let fields ← group.read "fields" Toml.Value.texts?
  let mnemonic ← group.read "mnemonic_column" Toml.Value.text?
  let cycles ← group.read "cpi_column" Toml.Value.text?
  let proxy ← group.read "proxy_column" Toml.Value.text?
  let index ← group.read "index_column" Toml.Value.text?
  some
    { directory := resolvePath base (directory.getD tables.directory.text)
      baseName := baseName.getD tables.baseName
      layout :=
        { headerRow := headerRow.getD layout.headerRow
          mnemonic := mnemonic.getD layout.mnemonic
          cycles := cycles.getD layout.cycles
          proxy := proxy.getD layout.proxy
          index := index.getD layout.index }
      fields
      overrides }

/-- The emitted code that a group of settings describes, with what it is to do
where no arm matches still as a text. -/
def readOutput (base : Path) (tables : TableDirectory) (group : Group) :
    Option (Settings × Option String) := do
  let options : Code.Options := {}
  let output ← group.read "path" Toml.Value.text?
  let stubsDirectory ← group.read "stubs_dir" Toml.Value.text?
  let function ← group.read "function" Toml.Value.text?
  let instructionType ← group.read "instruction_type" Toml.Value.text?
  let stateType ← group.read "state_type" Toml.Value.text?
  let resultType ← group.read "result_type" Toml.Value.text?
  let handlerType ← group.read "handler_type" Toml.Value.text?
  let handlerModule ← group.read "handler_module" Toml.Value.text?
  let unmatched ← group.read "unmatched" Toml.Value.text?
  let handlerTable ← group.read "handler_table" Toml.Value.bool?
  let code : Code.Options :=
    { function := function.getD options.function
      instructionType := instructionType.getD options.instructionType
      stateType := stateType.getD options.stateType
      resultType := resultType.getD options.resultType
      handlerType := handlerType.getD options.handlerType
      handlerModule
      unmatched := options.unmatched
      handlerTable := handlerTable.getD options.handlerTable }
  some
    ({ tables
       code
       output := output.map (resolvePath base)
       stubsDirectory := stubsDirectory.map (resolvePath base) }, unmatched)

/-- The fields of single tables, which each have to be given. -/
def readOverrides : Toml.Value → Option (List (String × List String))
  | .table entries =>
      entries.mapM fun (name, value) => do
        let group ← groupOf? ["fields"] value
        let fields ← group.read "fields" Toml.Value.texts?
        return (name, ← fields)
  | _ => none

/-- The settings of a document, still without what to do where no arm
matches. -/
def readDocument (base : Path) (document : List (String × Toml.Value)) :
    Option (Settings × Option String) := do
  let groups ← groupOf? ["input", "output", "tables"] (.table document)
  let input ← groupOf? inputNames ((groups "input").getD (.table []))
  let output ← groupOf? outputNames ((groups "output").getD (.table []))
  let overrides ← readOverrides ((groups "tables").getD (.table []))
  let tables ← readInput base overrides input
  readOutput base tables output

/-- What to do where no arm matches. -/
def readUnmatched : Option String → Except SettingsFault Code.Unmatched
  | none | some "panic" => .ok .panic
  | some "none" => .ok .none
  | some other => .error (.unknownUnmatched other)

/-- The settings of a file's text. Relative paths start at `base`, the file's
directory. -/
def ofText (text : String) (base : Path) : Except SettingsFault Settings :=
  match (Toml.parse? text).bind (readDocument base) with
  | none => .error .malformed
  | some (settings, unmatched) => do
      let unmatched ← readUnmatched unmatched
      return { settings with code := { settings.code with unmatched } }

end Settings

end OpcodeTables
