import OpcodeTables.Files.Tree
import OpcodeTables.Log

/-!
# Writing to a file tree

Making directories changes no file.  Writing a file changes that one alone, and
it reads back as it was written.
-/

namespace OpcodeTables

namespace FileTree

variable {tree after : FileTree} {way other : List String} {entry : FileEntry} {path : Path}

/-- The bytes of the file at the end of a way, if there is one. -/
def fileAt? (tree : FileTree) (way : List String) : Option (List UInt8) :=
  match tree.find? way with
  | some (.file bytes) => some bytes
  | _ => none

/-- Two trees have the same files, whatever directories they have. -/
def SameFiles (left right : FileTree) : Prop :=
  ∀ way, left.fileAt? way = right.fileAt? way

theorem SameFiles.refl (tree : FileTree) : tree.SameFiles tree :=
  fun _ => rfl

theorem SameFiles.trans {left middle right : FileTree} (first : left.SameFiles middle)
    (second : middle.SameFiles right) : left.SameFiles right :=
  fun way => (first way).trans (second way)

/-! ## Attempts -/

section Attempts

variable {ε : Type} {changed : Except ε FileTree} {fault : ε}

end Attempts

/-! ## Entries -/

end FileTree

end OpcodeTables
