/-!
# Paths

Paths are texts whose components are separated by `/`.  Joining and taking
the parent work on the text alone: nothing is looked up, and `..` stays.
-/

namespace OpcodeTables

/-- A path of the file system, as it was written. -/
structure Path where
  text : String
  deriving DecidableEq, Repr, Inhabited

namespace Path

/-- Whether a path starts at the root of the file system. -/
def isAbsolute (path : Path) : Bool :=
  path.text.toList.head? == some '/'

/-- Appends a path. An absolute right side replaces the left one, and a `/` is
put between the two where the left side has none at its end. -/
def join (base path : Path) : Path :=
  if path.isAbsolute then path
  else if base.text.isEmpty || base.text.toList.getLast? == some '/' then ⟨base.text ++ path.text⟩
  else ⟨base.text ++ "/" ++ path.text⟩

/-- Splits a text at every `/`. -/
def splitSlashes : List Char → List (List Char)
  | [] => [[]]
  | '/' :: rest => [] :: splitSlashes rest
  | c :: rest =>
      match splitSlashes rest with
      | [] => [[c]]
      | part :: parts => (c :: part) :: parts

/-- The components that lead from a directory to the path's end. Empty ones
and `.` lead nowhere. -/
def components (path : Path) : List String :=
  ((splitSlashes path.text.toList).filter fun part => part ≠ [] ∧ part ≠ ['.']).map String.ofList

/-- Drops from the end of a reversed path the separators, and the components
`.` that follow a separator. -/
def dropEmptyEnd : List Char → List Char
  | ['/'] => ['/']
  | '/' :: rest => dropEmptyEnd rest
  | ['.', '/'] => ['/']
  | '.' :: '/' :: rest => dropEmptyEnd rest
  | path => path

/-- The path without its last component, if it has one. -/
def parent (path : Path) : Option Path :=
  match dropEmptyEnd path.text.toList.reverse with
  | [] | ['/'] => none
  | reversed =>
      let parent := dropEmptyEnd (reversed.dropWhile (· ≠ '/'))
      some ⟨String.ofList parent.reverse⟩

end Path

end OpcodeTables
