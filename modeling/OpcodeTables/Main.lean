import OpcodeTables.CommandLine.Run

/-!
# Command line

Carries a command line out on the files of the system.  Everything that decides
something is elsewhere; here files are read when the search for tables reaches
them, and a plan is printed and written.
-/

open OpcodeTables OpcodeTables.CommandLine

namespace OpcodeTables.CommandLine.Shell

/-- The number of a system error, which some calls report with its sign
changed. -/
def errorNumber (code : UInt32) : UInt32 :=
  if code < 0x80000000 then code else 0 - code

/-- The refusal that an error of the system stands for. -/
def faultOf : IO.Error → FileFault
  | .noFileOrDirectory .. => .notFound
  | .alreadyExists .. => .exists
  | .inappropriateType _ code _ => if errorNumber code = 20 then .notDirectory else .isDirectory
  | .invalidArgument _ code _ => if errorNumber code = 36 then .nameTooLong else .nulInPath
  | _ => .permissionDenied

/-- Opens a path for reading. -/
def openPath (path : Path) : IO (Except FileFault FileEntry) := do
  try
    let bytes ← IO.FS.readBinFile path.text
    return .ok (.file bytes.toList)
  catch error =>
    match faultOf error with
    | .isDirectory => return .ok .directory
    | fault => return .error fault

/-- Reads a settings file. -/
def readSettings (path : Path) : IO (Except RunFault Settings) := do
  match ← openPath path with
  | .error fault => return .error (.settingsUnreadable path fault)
  | .ok .directory => return .error (.settingsUnreadable path .isDirectory)
  | .ok (.file bytes) =>
      match String.fromUTF8? ⟨bytes.toArray⟩ with
      | some text => return settingsOfText path text
      | none => return .error (.settingsUnreadable path .notUtf8)

/-- Opens the files of all tables that the search for tables loads, one after
the other. -/
partial def gather (tables : TableDirectory)
    (opened : List (Path × Except FileFault FileEntry)) :
    IO (List (Path × Except FileFault FileEntry)) := do
  let resolution := (tables.source (FileView.ofList opened)).resolve
  let paths := resolution.loads.map tables.pathOf
  match paths.find? fun path => (opened.lookup path).isNone with
  | none => return opened
  | some path => gather tables ((path, ← openPath path) :: opened)

/-- Writes a file, and makes the directories on the way to it first. -/
def writeFile (write : Write) : IO (Except RunFault Unit) := do
  if let some directory := write.path.parent then
    unless directory.text.isEmpty do
      try IO.FS.createDirAll directory.text
      catch error => return .error (.notCreated directory (faultOf error))
  try
    IO.FS.writeFile write.path.text write.text
    return .ok ()
  catch error => return .error (.notWritten write.path (faultOf error))

/-- Shows what is important enough of a log. -/
def showLog (level : Level) (log : List Event) : IO Unit :=
  (shown level log).forM fun event => IO.eprintln s!"[{event.level.text}] {event.message}"

/-- Reports a failure. -/
def report (fault : RunFault) : IO UInt32 := do
  for message in fault.messages do
    IO.eprintln message
  return 1

/-- Carries a plan out. -/
def execute (level : Level) (plan : Plan) : IO UInt32 := do
  IO.print plan.printed
  for write in plan.writes do
    match ← writeFile write with
    | .error fault => return ← report fault
    | .ok () => showLog level [.wrote write.path]
  match plan.failure with
  | some fault => report fault
  | none => return 0

/-- Carries out what a command line asks for. -/
def carryOut (arguments : Arguments) : IO UInt32 := do
  let path ←
    match arguments.config with
    | some path => pure (some path)
    | none => do
        match ← openPath defaultConfig with
        | .error .notFound => pure none
        | _ => pure (some defaultConfig)
  let settings ←
    match path with
    | some path => readSettings path
    | none => do
        showLog arguments.level [.noConfigFile]
        pure (.ok {})
  match settings with
  | .error fault => report fault
  | .ok settings => do
      let opened ← gather (tablesFor settings arguments.command) []
      let planned := Plan.ofCommand settings arguments.command (FileView.ofList opened)
      showLog arguments.level planned.log
      match planned.result with
      | .error fault => report fault
      | .ok plan => execute arguments.level plan

/-- How the program is used. -/
def usage : String :=
  "Usage: lookup-gen [-c FILE] [-v | -q] COMMAND\n\n" ++
    "Commands:\n" ++
    "  generate [--tables DIR] [-o FILE] [--stubs DIR]  emit the lookup module\n" ++
    "  query [--tables DIR] WORD...                     decode instruction words\n" ++
    "  tables [--tables DIR]                            list the tables\n"

end OpcodeTables.CommandLine.Shell

/-- Runs the program. -/
def main (arguments : List String) : IO UInt32 := do
  match Arguments.ofList arguments with
  | .ok arguments => Shell.carryOut arguments
  | .error fault =>
      if fault.exitStatus = 0 then IO.print Shell.usage
      else IO.eprint Shell.usage
      return UInt32.ofNat fault.exitStatus
