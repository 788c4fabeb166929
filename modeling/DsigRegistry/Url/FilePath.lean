import DsigRegistry.FileSystem
import DsigRegistry.Url.Parser

/-!
# URLs of files and paths

A path stands for the URL that has its names as segments, and a URL without a host stands for the
path with its segments as names. Names that a path leaves out, the empty ones and `.`, are left
out of the URL too.
-/

namespace DsigRegistry.Url

/-- The names of a path that say where it leads. -/
def pathNames (path : Octets) : List Octets :=
  (Path.names path).filter fun name => name ≠ [] && name ≠ Path.dot

/-- The URL of a file with the segments. -/
def ofSegments (names : List (List Char)) : Url :=
  ⟨fileScheme, some {}, .segments names, none, none⟩

/-- The segments for the names of a path. -/
def pathSegments (path : Octets) : List (List Char) :=
  (pathNames path).map (Percent.encode Percent.fileNameSet)

/-- The URL of the file at an absolute path. -/
def ofFilePath? (path : Octets) : Option Url :=
  if Path.isAbsolute path then
    some (ofSegments (if pathNames path = [] then [[]] else pathSegments path))
  else none

/-- The URL of the directory at an absolute path: what is joined to it lies below it. -/
def ofDirectoryPath? (path : Octets) : Option Url :=
  if Path.isAbsolute path then some (ofSegments (pathSegments path ++ [[]])) else none

/-- The path ends in what could be the name of a drive, which has to be a directory. -/
def endsInDrive (path : Octets) : Bool :=
  match path.reverse with
  | mark :: letter :: _ :: _ =>
    (mark == 0x3A || mark == 0x7C) && (Char.ofNat letter.toNat).isAlpha
  | _ => false

/-- The path that a URL stands for, which only one without a host does. -/
def toFilePath? (u : Url) : Option Octets :=
  match u.route, u.host? with
  | .segments names, none =>
    let path := names.flatMap fun name => Path.slash :: Percent.decode name
    some (if endsInDrive path then path ++ [Path.slash] else path)
  | _, _ => none

end DsigRegistry.Url
