import DsigRegistry.Resource.Basic
import DsigRegistry.Url.FilePath

/-!
# Local files

The resolver for `file:` URLs and for references relative to a file. A base may be a URL or a
path; the working directory stands in for a missing one, and there has to be one for every path.
Only URLs without a host lead to files.
-/

namespace DsigRegistry.LocalFile

/-- The reference to `uri` cannot be followed. -/
def invalid (uri reason : String) : Error :=
  .invalidUri (uri ++ ": " ++ reason)

/-- The URL of a path, if there is one. -/
def requireUrl (shown : String) : Option Url → Except Error Url
  | some url => .ok url
  | none => .error (invalid shown "not an absolute path")

/-- The URL of a directory. -/
def directoryUrl (path : Octets) : Except Error Url :=
  requireUrl (Text.Utf8.decodeLossy path) (Url.ofDirectoryPath? path)

/-- The URL of what is at a path that was given as the base. The working directory is asked for even
if the path is absolute. -/
def pathUrl (fs : FileSystem) (base : String) : Except Error Url :=
  match fs.currentDirectory with
  | .error cause => .error (.io cause)
  | .ok directory =>
    let path := Path.join directory (Text.Utf8.encode base)
    if fs.isDirectory path then directoryUrl path else requireUrl base (Url.ofFilePath? path)

/-- A URL as a base: one of a directory is completed by a slash, so that its last segment is not
replaced. -/
def asBase (fs : FileSystem) (url : Url) : Except Error Url :=
  if url.isFile then
    match url.toFilePath? with
    | some path => if fs.isDirectory path then directoryUrl path else .ok url
    | none => .ok url
  else .ok url

/-- The URL that references are joined to. -/
def baseUrl (fs : FileSystem) : Option String → Except Error Url
  | none =>
    match fs.currentDirectory with
    | .error cause => .error (.io cause)
    | .ok directory => directoryUrl directory
  | some base =>
    match Url.parse base with
    | .ok url => asBase fs url
    | .error .noBase => pathUrl fs base
    | .error fault => .error (invalid base fault.message)

/-- The URL that a reference stands for. -/
def url (fs : FileSystem) (r : Reference) : Except Error Url :=
  match Url.parse r.uri with
  | .ok url => .ok url
  | .error .noBase =>
    match baseUrl fs r.base with
    | .error e => .error e
    | .ok base =>
      match base.join r.uri with
      | .ok url => .ok url
      | .error fault => .error (invalid r.uri fault.message)
  | .error fault => .error (invalid r.uri fault.message)

/-- The path of the file that a reference stands for. -/
def path (fs : FileSystem) (r : Reference) : Except Error Octets :=
  match url fs r with
  | .error e => .error e
  | .ok url =>
    if url.isFile then
      match url.toFilePath? with
      | some path => .ok path
      | none => .error (invalid url.text "not a local file path")
    else .error (invalid url.text "not a file URI")

/-- The name of the scheme of files. -/
def schemeName : String := "file"

/-- Whether the resolver handles a reference is decided by the schemes of the reference and of
its base alone. -/
def claims (r : Reference) : Bool :=
  if r.isSameDocument then false
  else match r.scheme? with
    | some scheme => scheme == schemeName
    | none =>
      match r.base with
      | none => true
      | some base =>
        match schemeOf? base with
        | none => true
        | some scheme => scheme == schemeName

/-- The octets of the file that a reference stands for. -/
def resolve (fs : FileSystem) (r : Reference) : Traced (Except Error Octets) :=
  match path fs r with
  | .error e => return .error e
  | .ok path => do
    Traced.report (.localFileRead r.uri (Text.Utf8.decodeLossy path))
    match fs.readOctets path with
    | .ok contents => return .ok contents
    | .error cause => return .error (.io cause)

/-- The resolver for the files of a file system. -/
def resolver (fs : FileSystem) : ResourceResolver := ⟨claims, resolve fs⟩

end DsigRegistry.LocalFile
