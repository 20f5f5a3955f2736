import OpcodeTables.CommandLine.Run
import OpcodeTables.Proofs.Files.Writing

/-!
# Writing files in order

Files are written one after the other.  The first that cannot be written ends
it: what was written before is complete, and no file after it is touched.
-/

namespace OpcodeTables

theorem mapError_eq_ok {ε ε' α : Type} {result : Except ε α} {translate : ε → ε'} {value : α} :
    result.mapError translate = .ok value ↔ result = .ok value := by
  cases result with
  | ok found =>
      change Except.ok found = .ok value ↔ Except.ok found = .ok value
      simp only [Except.ok.injEq]
  | error fault =>
      change Except.error (translate fault) = .ok value ↔ Except.error fault = .ok value
      simp only [reduceCtorEq]

namespace CommandLine

variable {files after : FileTree} {write : Write} {fault : RunFault}

/-- A write that is complete: its path leads to a file with just its text, and
every other file is as it was before. -/
structure Write.Complete (write : Write) (before after : FileTree) : Prop where
  text : after.readText write.path = .ok write.text
  others : ∃ location, after.locate write.path = .ok location ∧
    ∀ way ≠ location.way, after.fileAt? way = before.fileAt? way

/-- How writing files in order goes from one tree to another. Each write is
complete until one fails, and that one changes no file and is the last. -/
inductive Writes : FileTree → List Write → FileTree → Option RunFault → Prop where
  | done {files : FileTree} : Writes files [] files none
  | written {files middle last : FileTree} {write : Write} {rest : List Write}
      {failure : Option RunFault} (step : writeFile files write = (middle, .ok ()))
      (complete : write.Complete files middle) (further : Writes middle rest last failure) :
      Writes files (write :: rest) last failure
  | failed {files last : FileTree} {write : Write} {rest : List Write} {fault : RunFault}
      (step : writeFile files write = (last, .error fault)) (same : files.SameFiles last) :
      Writes files (write :: rest) last (some fault)

end CommandLine

end OpcodeTables
