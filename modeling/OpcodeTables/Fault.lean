import OpcodeTables.Path
import OpcodeTables.Record

/-!
# Faults

Every way in which building lookup tables can fail, as a cause.  The wording
is in the `message` functions alone.
-/

namespace OpcodeTables

/-- Why a group of records could not be told apart. -/
inductive Ambiguity where
  /-- Every field of the schema was tried. -/
  | exhausted
  /-- More than one record leaves the deciding field blank. -/
  | multipleDefaults
  deriving DecidableEq, Repr

/-- The reason in words. -/
def Ambiguity.message : Ambiguity → String
  | .exhausted => "no remaining field distinguishes"
  | .multipleDefaults => "more than one wildcard for the deciding field among"

/-- What can be wrong with the content of a record. -/
inductive RecordFlaw where
  | mixedKinds
  | notLiteral
  | noMnemonic
  | unusableMnemonic
  | notTruthValue
  | notNatural
  | notInteger
  | blankNumber
  deriving DecidableEq, Repr

/-- The flaw in words. -/
def RecordFlaw.message : RecordFlaw → String
  | .mixedKinds => "field mixes boolean and integer values"
  | .notLiteral => "expected an unsigned integer or TRUE/FALSE"
  | .noMnemonic => "row has field values but no mnemonic"
  | .unusableMnemonic => "not a usable identifier"
  | .notTruthValue => "expected TRUE or FALSE"
  | .notNatural => "expected a non-negative integer"
  | .notInteger => "expected an integer"
  | .blankNumber => "required on non-proxy rows"

/-- The parts of emitted code that an option or a table decides, each of which
has to be well formed. -/
inductive RenderPart where
  | function
  | instructionType
  | stateType
  | resultType
  | handlerType
  | handlerModule
  | handler
  | fields
  deriving DecidableEq, Repr

/-- The key that messages use for a part. -/
def RenderPart.key : RenderPart → String
  | .function => "function"
  | .instructionType => "instruction_type"
  | .stateType => "state_type"
  | .resultType => "result_type"
  | .handlerType => "handler_type"
  | .handlerModule => "handler_module"
  | .handler => "handler"
  | .fields => "fields"

/-- Why the file system refused. -/
inductive FileFault where
  | notFound
  | exists
  | notDirectory
  | isDirectory
  | nameTooLong
  | permissionDenied
  | nulInPath
  | notUtf8
  deriving DecidableEq, Repr

/-- The refusal in words. -/
def FileFault.message : FileFault → String
  | .notFound => "No such file or directory (os error 2)"
  | .exists => "File exists (os error 17)"
  | .notDirectory => "Not a directory (os error 20)"
  | .isDirectory => "Is a directory (os error 21)"
  | .nameTooLong => "File name too long (os error 36)"
  | .permissionDenied => "Permission denied (os error 13)"
  | .nulInPath => "file name contained an unexpected NUL byte"
  | .notUtf8 => "stream did not contain valid UTF-8"

/-- Why a row of a table file could not be read. -/
inductive RowFault where
  | notUtf8
  | file (fault : FileFault)
  deriving DecidableEq, Repr

/-- The reason in words. -/
def RowFault.message : RowFault → String
  | .notUtf8 => "a cell is not valid UTF-8"
  | .file fault => fault.message

/-- Every way in which building or rendering lookup tables can fail. -/
inductive Fault where
  | schema (table : TableName) (issue : SchemaIssue)
  | ambiguous (table : TableName) (field : Option String) (reason : Ambiguity)
      (records : List RecordRef)
  | unresolvable (table : TableName) (referencedBy : Option TableName) (location : Option Path)
  | malformed (table : TableName) (record : RecordRef) (column value : String)
      (flaw : RecordFlaw)
  | cycle (path : List TableName)
  | invalidPart (part : RenderPart) (value : String)
  | unreadable (path : Path) (cause : FileFault)
  | unparsable (path : Path) (cause : RowFault)
  deriving DecidableEq, Repr

namespace Fault

/-- Joins items with a comma and a space. -/
def list (items : List String) : String :=
  ", ".intercalate items

/-- The fault in words, without its cause. -/
def message : Fault → String
  | .schema table issue => s!"table {table.label}: {issue.message}"
  | .ambiguous table field reason records =>
      let field := field.getD "-"
      let records := list (records.map RecordRef.text)
      s!"table {table.label}: ambiguous records at field `{field}`: {reason.message} {records}"
  | .unresolvable table referencedBy location =>
      let referrer := (referencedBy.map TableName.label).getD "the command line"
      let searched := (location.map fun path => s!" (looked for {path.text})").getD ""
      s!"table `{table.label}` referenced by {referrer} could not be found{searched}"
  | .malformed table record column value flaw =>
      s!"table {table.label}, {record.text}: malformed `{column}` value `{value}`: {flaw.message}"
  | .cycle path =>
      let path := list (path.map TableName.label)
      s!"tables delegate to each other in a cycle: {path}"
  | .invalidPart part value => s!"invalid `{part.key}` setting `{value}`"
  | .unreadable path _ => s!"failed to read {path.text}"
  | .unparsable path _ => s!"failed to parse {path.text}"

end Fault

end OpcodeTables
