import DsigRegistry.Error
import DsigRegistry.Text.Split
import DsigRegistry.Text.Utf8

/-!
# File systems

A tree of directories and files as it is found at one moment, and how a path leads to a place in
it. A path is a sequence of octets that is cut at slashes; `.` and empty names stay where they
are, `..` goes up, and the root is its own parent. There are no symbolic links.
-/

namespace DsigRegistry

/-- A file with its contents, or a directory with its named entries. -/
inductive FileTree where
  | file (contents : Octets)
  | directory (entries : List (Octets × FileTree))

namespace FileTree

/-- The directory without entries. -/
def emptyDirectory : FileTree := .directory []

/-- The named entries of a directory; a file has none. -/
def entries : FileTree → List (Octets × FileTree)
  | .file _ => []
  | .directory entries => entries

/-- The tree is a directory. -/
def isDirectory : FileTree → Bool
  | .file _ => false
  | .directory _ => true

/-- The tree with the node changed that the names lead to. Directories on the way that are not
there are made, and so is an empty directory as the node to change. -/
def update (change : FileTree → FileTree) : List Octets → FileTree → FileTree
  | [], tree => change tree
  | name :: names, tree =>
    let child := (tree.entries.lookup name).getD emptyDirectory
    .directory ((name, update change names child) :: tree.entries.filter fun e => e.1 != name)

end FileTree

namespace Path

/-- The octet between the names of a path. -/
def slash : UInt8 := 0x2F

/-- The name of a directory in itself. -/
def dot : Octets := [0x2E]

/-- The name of the directory above. -/
def dotDot : Octets := [0x2E, 0x2E]

/-- The number of octets that no path reaches. -/
def lengthLimit : Nat := 4096

/-- The number of octets that a name may have. -/
def nameLimit : Nat := 255

/-- The path starts at the root. -/
def isAbsolute (path : Octets) : Bool :=
  path.head? == some slash

/-- The names of a path in order, empty ones included. -/
def names (path : Octets) : List Octets :=
  splitWhere (· == slash) path

/-- The path that leads on from a directory; an absolute one stands for itself. -/
def join (directory path : Octets) : Octets :=
  if isAbsolute path then path
  else if directory = [] ∨ directory.getLast? = some slash then directory ++ path
  else directory ++ slash :: path

/-- The absolute path with the names. -/
def ofNames (names : List Octets) : Octets :=
  match names with
  | [] => [slash]
  | names => names.flatMap (slash :: ·)

end Path

/-- A place in a tree: a node and the directories above it, the nearest first. -/
structure Place where
  node : FileTree
  above : List FileTree

namespace Place

/-- The place that a name leads to. -/
def step (p : Place) (name : Octets) : Except IoError Place :=
  if p.node.isDirectory then
    if name = [] ∨ name = Path.dot then .ok p
    else if name = Path.dotDot then
      match p.above with
      | [] => .ok p
      | parent :: above => .ok ⟨parent, above⟩
    else if name.length > Path.nameLimit then .error .nameTooLong
    else match p.node.entries.lookup name with
      | none => .error .notFound
      | some node => .ok ⟨node, p.node :: p.above⟩
  else .error .notADirectory

/-- The place that several names lead to, one after the other. -/
def walk (p : Place) (names : List Octets) : Except IoError Place :=
  names.foldlM step p

end Place

/-- A tree and the directory from which relative paths start. -/
structure FileSystem where
  root : FileTree
  workingDirectory : List Octets

namespace FileSystem

/-- The path of the working directory. -/
def workingPath (fs : FileSystem) : Octets :=
  Path.ofNames fs.workingDirectory

/-- The working directory is there. It can have been removed since it was entered. -/
def hasWorkingDirectory (fs : FileSystem) : Bool :=
  (Place.walk ⟨fs.root, []⟩ fs.workingDirectory).toOption.any (·.node.isDirectory)

/-- The path of the working directory, if it is there. -/
def currentDirectory (fs : FileSystem) : Except IoError Octets :=
  if fs.hasWorkingDirectory then .ok fs.workingPath else .error .notFound

/-- The names that lead from the root to where a path leads. -/
def namesFromRoot (fs : FileSystem) (path : Octets) : List Octets :=
  if Path.isAbsolute path then Path.names path else fs.workingDirectory ++ Path.names path

/-- What a path leads to. -/
def find (fs : FileSystem) (path : Octets) : Except IoError FileTree :=
  if path.contains 0 then .error .nulInName
  else if path.length ≥ Path.lengthLimit then .error .nameTooLong
  else if path = [] then .error .notFound
  else (Place.walk ⟨fs.root, []⟩ (fs.namesFromRoot path)).map (·.node)

/-- The path leads to a directory. -/
def isDirectory (fs : FileSystem) (path : Octets) : Bool :=
  match fs.find path with
  | .ok node => node.isDirectory
  | .error _ => false

/-- The contents of the file that a path leads to. -/
def readOctets (fs : FileSystem) (path : Octets) : Except IoError Octets :=
  match fs.find path with
  | .ok (.file contents) => .ok contents
  | .ok (.directory _) => .error .isADirectory
  | .error e => .error e

/-- The text of the file that a path leads to. -/
def readText (fs : FileSystem) (path : Octets) : Except IoError String :=
  match fs.readOctets path with
  | .error e => .error e
  | .ok contents =>
    match Text.Utf8.decode contents with
    | .ok text => .ok text
    | .error _ => .error .notUtf8

end FileSystem

end DsigRegistry
