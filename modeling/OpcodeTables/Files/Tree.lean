import OpcodeTables.Fault

/-!
# File trees

A file tree is the content of a working directory as a value: which paths are
files, with their bytes, and which are directories.  Names are compared as
they are.

Paths are followed the way a file system does: component by component, each
of which but the last has to be a directory.  What lies outside the working
directory is one more directory, which is empty at first.
-/

namespace OpcodeTables

/-- What a path can lead to. -/
inductive FileEntry where
  | file (bytes : List UInt8)
  | directory
  deriving DecidableEq, Repr

/-- The content of a working directory, by the components of the way to it. What
lies outside has `..` as its first component. -/
structure FileTree where
  entries : List (List String × FileEntry)
  deriving DecidableEq, Repr

/-- Where a path leads when it is followed. -/
inductive Location where
  /-- A way from the working directory down. -/
  | inside (way : List String)
  /-- A way from the directory outside down. -/
  | outside (way : List String)
  deriving DecidableEq, Repr

/-- The components under which a location is kept. -/
def Location.way : Location → List String
  | .inside way => way
  | .outside way => ".." :: way

namespace FileTree

/-- The longest name that a file system takes, in bytes. -/
def maxNameSize : Nat := 255

/-- The longest path that a file system takes, in bytes. -/
def maxPathSize : Nat := 4095

/-- What is at the end of a way. The working directory itself is a directory,
and so is what is outside. -/
def find? (tree : FileTree) : List String → Option FileEntry
  | [] | [".."] => some .directory
  | way => tree.entries.lookup way

/-- Puts an entry at the end of a way in place of what was there. -/
def put (tree : FileTree) (way : List String) (entry : FileEntry) : FileTree :=
  ⟨(way, entry) :: tree.entries.filter fun old => old.1 ≠ way⟩

/-- What is at a location. -/
def findAt? (tree : FileTree) (location : Location) : Option FileEntry :=
  tree.find? location.way

/-- The directory above a location. -/
def ascend : Location → Location
  | .inside [] => .outside []
  | .inside way => .inside way.dropLast
  | .outside way => .outside way.dropLast

/-- Goes one component down from a directory. -/
def descend (location : Location) (name : String) : Except FileFault Location :=
  if name = ".." then .ok (ascend location)
  else if name.utf8ByteSize > maxNameSize then .error .nameTooLong
  else
    match location with
    | .inside way => .ok (.inside (way ++ [name]))
    | .outside way => .ok (.outside (way ++ [name]))

/-- Follows components from a location. All but the last have to lead to
directories. -/
def follow (tree : FileTree) (location : Location) : List String → Except FileFault Location
  | [] => .ok location
  | name :: rest =>
      match tree.findAt? location with
      | none => .error .notFound
      | some (.file _) => .error .notDirectory
      | some .directory => do
          let next ← descend location name
          follow tree next rest

/-- Whether a path ends in a separator. -/
def endsInSlash (path : Path) : Bool :=
  path.text.toList.getLast? == some '/'

/-- Whether the last component of a path is `.`, separators after it aside. -/
def endsInDot (path : Path) : Bool :=
  match path.text.toList.reverse.dropWhile (· = '/') with
  | ['.'] => true
  | '.' :: '/' :: _ => true
  | _ => false

/-- Where following a path begins. Some texts are no paths at all. -/
def start (path : Path) : Except FileFault Location :=
  if path.text.toList.contains '\x00' then .error .nulInPath
  else if path.text.isEmpty then .error .notFound
  else if path.text.utf8ByteSize > maxPathSize then .error .nameTooLong
  else if path.isAbsolute then .ok (.outside [])
  else .ok (.inside [])

/-- Follows a path from the working directory. The end of the path need not
exist. -/
def locate (tree : FileTree) (path : Path) : Except FileFault Location := do
  tree.follow (← start path) path.components

/-- Follows a path up to the directory that holds its last component, which is
not looked at. -/
def locateHolder (tree : FileTree) (path : Path) : Except FileFault Location := do
  let location ← tree.follow (← start path) path.components.dropLast
  match tree.findAt? location with
  | none => .error .notFound
  | some (.file _) => .error .notDirectory
  | some .directory => .ok location

/-- Opens what a path leads to for reading. -/
def read (tree : FileTree) (path : Path) : Except FileFault FileEntry := do
  match tree.findAt? (← tree.locate path) with
  | none => .error .notFound
  | some .directory => .ok .directory
  | some (.file bytes) =>
      if endsInSlash path || endsInDot path then .error .notDirectory else .ok (.file bytes)

/-- Whether a path leads to anything. -/
def has (tree : FileTree) (path : Path) : Bool :=
  (tree.read path).toBool

/-- Whether a path leads to a directory. -/
def hasDirectory (tree : FileTree) (path : Path) : Bool :=
  match tree.read path with
  | .ok .directory => true
  | _ => false

/-- The text of a file. -/
def readText (tree : FileTree) (path : Path) : Except FileFault String := do
  match ← tree.read path with
  | .directory => .error .isDirectory
  | .file bytes =>
      match String.fromUTF8? ⟨bytes.toArray⟩ with
      | some text => .ok text
      | none => .error .notUtf8

/-- Makes one directory. -/
def makeDirectory (tree : FileTree) (path : Path) : Except FileFault FileTree := do
  let location ← tree.locate path
  match tree.findAt? location with
  | some _ => .error .exists
  | none => .ok (tree.put location.way .directory)

/-- Makes a directory unless it is there. -/
def ensureDirectory (tree : FileTree) (path : Path) : Except FileFault FileTree :=
  match tree.makeDirectory path with
  | .ok tree => .ok tree
  | .error fault => if tree.hasDirectory path then .ok tree else .error fault

/-- What trying to change a tree comes to: the tree afterwards, which is as it
was where the change failed. -/
def attempt {ε : Type} (tree : FileTree) (changed : Except ε FileTree) : FileTree × Except ε Unit :=
  match changed with
  | .ok changed => (changed, .ok ())
  | .error fault => (tree, .error fault)

/-- Makes a directory and those of the `steps` directories above it that are
missing. Those that were made stay where making another one fails. -/
def makeUpward (tree : FileTree) : (steps : Nat) → Path → FileTree × Except FileFault Unit
  | 0, path => tree.attempt (tree.ensureDirectory path)
  | steps + 1, path =>
      if path.text.isEmpty then (tree, .ok ())
      else
        match tree.makeDirectory path, path.parent with
        | .error .notFound, some parent =>
            match makeUpward tree steps parent with
            | (above, .ok ()) => above.attempt (above.ensureDirectory path)
            | (above, .error fault) => (above, .error fault)
        | _, _ => tree.attempt (tree.ensureDirectory path)

/-- Makes a directory and all that are missing on the way to it. -/
def makeDirectories (tree : FileTree) (path : Path) : FileTree × Except FileFault Unit :=
  tree.makeUpward path.text.length path

/-- Writes a file in place of what it held. A path that ends in a separator
names no file, whatever its last component is. -/
def writeFile (tree : FileTree) (path : Path) (text : String) : Except FileFault FileTree := do
  if endsInDot path then
    match tree.findAt? (← tree.locate path) with
    | none => .error .notFound
    | some (.file _) => .error .notDirectory
    | some .directory => .error .isDirectory
  else if endsInSlash path then do
    let _ ← tree.locateHolder path
    .error .isDirectory
  else
    let location ← tree.locate path
    match tree.findAt? location with
    | some .directory => .error .isDirectory
    | _ => .ok (tree.put location.way (.file text.toUTF8.data.toList))

/-- Lays out a tree: files by their paths, and directories by paths that end
in a slash. The directories on the way to each are made. -/
def ofList (files : List (String × List UInt8)) : FileTree :=
  files.foldl (fun tree (name, bytes) =>
    let way := (Path.mk name).components
    let tree := (List.range way.length).foldl (fun tree depth =>
      let above := way.take depth
      if (tree.find? above).isSome then tree else tree.put above .directory) tree
    if name.toList.getLast? == some '/' then tree.put way .directory
    else tree.put way (.file bytes)) ⟨[]⟩

end FileTree

end OpcodeTables
