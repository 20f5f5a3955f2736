import OpcodeTables.CommandLine.Plan

/-!
# Runs

A command line carried out in a working directory.  A run reads its settings,
makes its plan and carries it out; where writing fails, what was written before
stays.
-/

namespace OpcodeTables.CommandLine

/-- The settings file that is read where none is named and this one exists. -/
def defaultConfig : Path := ⟨"lookup-gen.toml"⟩

/-- The settings file of a run, where there is one. -/
def configPath (arguments : Arguments) (files : FileTree) : Option Path :=
  arguments.config.or (if files.has defaultConfig then some defaultConfig else none)

/-- The settings in a file's text. -/
def settingsOfText (path : Path) (text : String) : Except RunFault Settings :=
  (Settings.ofText text (path.parent.getD ⟨""⟩)).mapError (.settingsInvalid path)

/-- The settings of a run. -/
def loadSettings (arguments : Arguments) (files : FileTree) : Traced RunFault Settings :=
  match configPath arguments files with
  | none => do
      Traced.event .noConfigFile
      return {}
  | some path => Traced.ofExcept do
      let text ← (files.readText path).mapError (.settingsUnreadable path)
      settingsOfText path text

/-- What a run left behind. -/
structure Outcome where
  printed : String
  files : FileTree
  log : List Event
  failure : Option RunFault

/-- The exit status of a run. -/
def Outcome.exitStatus (outcome : Outcome) : Nat :=
  if outcome.failure.isSome then 1 else 0

/-- Makes the directories on the way to a file. -/
def makeHolder (files : FileTree) (path : Path) : FileTree × Except RunFault Unit :=
  match path.parent with
  | none => (files, .ok ())
  | some directory =>
      if directory.text.isEmpty then (files, .ok ())
      else
        let (files, made) := files.makeDirectories directory
        (files, made.mapError (.notCreated directory))

/-- Writes a file, and makes the directories on the way to it first. They stay
where writing fails. -/
def writeFile (files : FileTree) (write : Write) : FileTree × Except RunFault Unit :=
  match makeHolder files write.path with
  | (files, .error fault) => (files, .error fault)
  | (files, .ok ()) =>
      files.attempt ((files.writeFile write.path write.text).mapError (.notWritten write.path))

/-- Writes files in order, up to the first that fails. -/
def writeAll (files : FileTree) : List Write → FileTree × Traced RunFault Unit
  | [] => (files, Traced.ok ())
  | write :: rest =>
      match writeFile files write with
      | (files, .error fault) => (files, Traced.fail fault)
      | (files, .ok ()) =>
          let (files, written) := writeAll files rest
          (files, Traced.event (.wrote write.path) >>= fun _ => written)

/-- Carries a plan out. -/
def Plan.execute (plan : Plan) (files : FileTree) : Outcome :=
  let (files, written) := writeAll files plan.writes
  { printed := plan.printed
    files
    log := written.log
    failure :=
      match written.result with
      | .error fault => some fault
      | .ok () => plan.failure }

/-- Carries a command line out. -/
def run (arguments : Arguments) (files : FileTree) : Outcome :=
  let planned : Traced RunFault Plan := do
    let settings ← loadSettings arguments files
    Plan.ofCommand settings arguments.command files.view
  match planned.result with
  | .error fault => ⟨"", files, planned.log, some fault⟩
  | .ok plan =>
      let outcome := plan.execute files
      { outcome with log := planned.log ++ outcome.log }

/-- The part of a log that is important enough to be shown. -/
def shown (level : Level) (log : List Event) : List Event :=
  log.filter fun event => decide (level.rank ≤ event.level.rank)

end OpcodeTables.CommandLine
