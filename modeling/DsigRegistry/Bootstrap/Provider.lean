import DsigRegistry.Bootstrap.BundledDocument
import DsigRegistry.Bootstrap.Options
import DsigRegistry.FileSystem
import DsigRegistry.Journal

/-!
# Providers

Where configuration documents come from: the library itself, the file system, or memory.
-/

namespace DsigRegistry

/-- A source of documents. -/
structure Provider where
  /-- The document at a path. -/
  document : String → Except Error String
  /-- The file that is read for the document at a path, if it is one. -/
  file? : String → Option String := fun _ => none

namespace Provider

/-- Fetch the document at a path. -/
def load (p : Provider) (path : String) : Traced (Except Error String) := do
  Traced.record (.loaded path)
  (p.file? path).forM fun file => Traced.report (.configurationRead file)
  return p.document path

/-- The provider of the bundled document. -/
def bundled : Provider where
  document path :=
    if path = Options.defaultPath then .ok bundledDocument
    else .error (.configDocument ("no bundled resource at " ++ path))

/-- Where the document at a path lies below a directory. -/
def location (root path : String) : Octets :=
  Path.join (Text.Utf8.encode root) (Text.Utf8.encode path)

/-- The provider of the files below a directory; an absolute path stands for itself. -/
def files (fs : FileSystem) (root : String) : Provider where
  document path :=
    match fs.readText (location root path) with
    | .ok text => .ok text
    | .error cause =>
      .error (.configDocument
        ("cannot read " ++ Text.Utf8.decodeLossy (location root path) ++ ": " ++ cause.message))
  file? path := some (Text.Utf8.decodeLossy (location root path))

/-- The provider of the bundled document and, at other paths, of files. -/
def standard (fs : FileSystem) : Provider where
  document path :=
    if path = Options.defaultPath then bundled.document path else (files fs "").document path
  file? path := if path = Options.defaultPath then none else (files fs "").file? path

/-- The provider of documents held in memory. -/
def inMemory (documents : Dictionary String) : Provider where
  document path :=
    match documents.get? path with
    | some document => .ok document
    | none => .error (.configDocument ("no resource at " ++ path))

end Provider

end DsigRegistry
