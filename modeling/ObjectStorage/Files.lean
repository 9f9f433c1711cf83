import ObjectStorage.Text.Quoted

/-! Files to read: what can go wrong with a path, and a directory tree in memory. -/

namespace ObjectStorage

/-- Why the system does not open a path for reading. -/
inductive FileProblem where
  | notFound
  | notDirectory
  | isDirectory
  | nameTooLong
  | other (number : Nat) (text : String)
  deriving DecidableEq, Repr

def FileProblem.number : FileProblem → Nat
  | notFound => 2
  | notDirectory => 20
  | isDirectory => 21
  | nameTooLong => 36
  | other number _ => number

def FileProblem.text : FileProblem → String
  | notFound => "No such file or directory"
  | notDirectory => "Not a directory"
  | isDirectory => "Is a directory"
  | nameTooLong => "File name too long"
  | other _ text => text

inductive FileError where
  | system (problem : FileProblem) (path : String)
  /-- A path with the null character never reaches the system. -/
  | nullInPath
  deriving DecidableEq, Repr

def FileError.message : FileError → String
  | system problem path => s!"[Errno {problem.number}] {problem.text}: {Text.quoted path}"
  | nullInPath => "embedded null byte"

/-- A way to read whole files by their paths. -/
abbrev FileReader := String → Except FileError ByteArray

/-- What is at a place of a directory tree. -/
inductive FileNode where
  | file (data : ByteArray)
  | directory

/-- A directory tree in memory: the nodes below its top by the names that lead there. -/
structure FileTree where
  nodes : List (List String × FileNode) := []

namespace FileTree

/-- Where a walk through the tree stands. -/
inductive Place where
  /-- In the directory that these names lead to. -/
  | inside (names : List String)
  /-- At a file, where no further name can be followed. -/
  | atFile (data : ByteArray)
  /-- In a directory above the tree, of which only the way back up is known. -/
  | above

/-- The longest name of a file and the longest path, in bytes. -/
def nameLimit : Nat := 255
def pathLimit : Nat := 4095

/-- Follows one name of a path. -/
def enter (tree : FileTree) (place : Place) (name : String) : Except FileProblem Place :=
  match place with
  | .atFile _ => .error .notDirectory
  | .above =>
    if name = "" ∨ name = "." ∨ name = ".." then .ok .above
    else if nameLimit < name.utf8ByteSize then .error .nameTooLong
    else .error .notFound
  | .inside names =>
    if name = "" ∨ name = "." then .ok place
    else if name = ".." then
      match names with
      | [] => .ok .above
      | _ => .ok (.inside names.dropLast)
    else if nameLimit < name.utf8ByteSize then .error .nameTooLong
    else
      match tree.nodes.lookup (names ++ [name]) with
      | some (.file data) => .ok (.atFile data)
      | some .directory => .ok (.inside (names ++ [name]))
      | none => .error .notFound

/-- The names of a path, between its slashes. -/
def pathNames (path : String) : List String := path.splitOn "/"

/-- The names that lead to a place, without steps that lead nowhere or back. -/
def directNames (path : String) : List String :=
  (pathNames path).foldl
    (fun names name =>
      if name = "" ∨ name = "." then names
      else if name = ".." then names.dropLast
      else names ++ [name])
    []

/-- The directories on the way to a place, even where the way leads back from them. -/
def directoriesOf (path : String) : List (List String) :=
  let names := pathNames path
  (List.range (names.length - 1)).map fun n =>
    directNames (String.intercalate "/" (names.take (n + 1)))

/-- Adds a node, and the directories on the way to it that are not there yet. A name that ends in a
slash is a directory. -/
def add (tree : FileTree) (path : String) (data : ByteArray) : FileTree :=
  let missing := (directoriesOf path).filter fun names =>
    !names.isEmpty && (tree.nodes.lookup names).isNone
  let directories := missing.eraseDups.map (·, FileNode.directory)
  let node := if path.endsWith "/" then [] else [(directNames path, FileNode.file data)]
  ⟨node ++ directories ++ tree.nodes⟩

/-- The data of the file at a path. -/
def find (tree : FileTree) (path : String) : Except FileProblem ByteArray := do
  if pathLimit < path.utf8ByteSize then throw .nameTooLong
  if path.isEmpty then throw .notFound
  let top : Place := if path.startsWith "/" then .above else .inside []
  match ← (pathNames path).foldlM (enter tree) top with
  | .atFile data => pure data
  | _ => throw .isDirectory

/-- Reads files of the tree. -/
def reader (tree : FileTree) : FileReader := fun path =>
  if path.contains '\x00' then .error .nullInPath
  else (tree.find path).mapError (.system · path)

end FileTree

end ObjectStorage
