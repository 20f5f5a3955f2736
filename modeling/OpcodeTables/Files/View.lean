import OpcodeTables.Files.Tree

/-!
# Views of files

What reading needs to know of files: what opening a path gives.  Behind a view
are finitely many files, which is what makes following references between them
end.
-/

namespace OpcodeTables

theorem mem_of_lookup_eq_some {α β : Type} [BEq α] [LawfulBEq α] {entries : List (α × β)}
    {key : α} {value : β} (found : entries.lookup key = some value) : (key, value) ∈ entries := by
  obtain ⟨_, _, rfl, _⟩ := List.lookup_eq_some_iff.mp found
  simp

/-- What opening paths for reading gives. -/
structure FileView where
  openPath : Path → Except FileFault FileEntry
  /-- All paths together lead to finitely many contents. -/
  finite : ∃ contents : List (List UInt8), ∀ path bytes, openPath path = .ok (.file bytes) →
    bytes ∈ contents

/-- The bytes of all files of a tree. -/
def FileTree.contents (tree : FileTree) : List (List UInt8) :=
  tree.entries.filterMap fun
    | (_, .file bytes) => some bytes
    | (_, .directory) => none

theorem FileTree.mem_contents_of_find? {tree : FileTree} {way : List String}
    {bytes : List UInt8} (found : tree.find? way = some (.file bytes)) :
    bytes ∈ tree.contents := by
  have member : (way, FileEntry.file bytes) ∈ tree.entries := by
    unfold find? at found
    split at found
    · simp at found
    · simp at found
    · exact mem_of_lookup_eq_some found
  exact List.mem_filterMap.mpr ⟨_, member, rfl⟩

theorem FileTree.mem_contents_of_read {tree : FileTree} {path : Path} {bytes : List UInt8}
    (opened : tree.read path = .ok (.file bytes)) : bytes ∈ tree.contents := by
  unfold FileTree.read at opened
  cases located : tree.locate path with
  | error fault => simp [located, bind, Except.bind] at opened
  | ok location =>
      simp only [located, bind, Except.bind] at opened
      split at opened
      · contradiction
      · simp at opened
      · next found =>
          split at opened
          · contradiction
          · obtain rfl := FileEntry.file.inj (Except.ok.inj opened)
            exact mem_contents_of_find? found

/-- The files of a tree. -/
def FileTree.view (tree : FileTree) : FileView where
  openPath := tree.read
  finite := ⟨tree.contents, fun _ _ => mem_contents_of_read⟩

/-- The paths of a list with what opening each of them gave. Any other path is
not found. -/
def FileView.ofList (opened : List (Path × Except FileFault FileEntry)) : FileView where
  openPath path := (opened.lookup path).getD (.error .notFound)
  finite := by
    refine ⟨opened.filterMap fun
      | (_, .ok (.file bytes)) => some bytes
      | _ => none, ?_⟩
    intro path bytes found
    cases entry : opened.lookup path with
    | none => simp [entry] at found
    | some content =>
        obtain rfl : content = .ok (.file bytes) := by simpa [entry] using found
        have member : (path, _) ∈ opened := mem_of_lookup_eq_some entry
        exact List.mem_filterMap.mpr ⟨_, member, rfl⟩

end OpcodeTables
