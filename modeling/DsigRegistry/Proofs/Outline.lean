import DsigRegistry.FileSystem

/-!
# Outlines of file systems

The outline of a file system is what is left when every file is emptied. Where a path leads, and
whether there is a directory, can be told from the outline, and so can the working directory. Main
facts: `FileSystem.isDirectory_congr` and `FileSystem.currentDirectory_congr`.
-/

namespace DsigRegistry

namespace FileTree

mutual

/-- The tree with every file emptied. -/
def outline : FileTree → FileTree
  | .file _ => .file []
  | .directory entries => .directory (outlines entries)

/-- The entries of a directory with every file emptied. -/
def outlines : List (Octets × FileTree) → List (Octets × FileTree)
  | [] => []
  | (name, tree) :: entries => (name, tree.outline) :: outlines entries

end

@[simp] theorem isDirectory_outline (tree : FileTree) :
    tree.outline.isDirectory = tree.isDirectory := by
  cases tree <;> rfl

@[simp] theorem entries_outline (tree : FileTree) :
    tree.outline.entries = outlines tree.entries := by
  cases tree <;> rfl

theorem lookup_outlines (entries : List (Octets × FileTree)) (name : Octets) :
    (outlines entries).lookup name = (entries.lookup name).map outline := by
  induction entries with
  | nil => rfl
  | cons e entries ih =>
    obtain ⟨name', tree⟩ := e
    rw [outlines, List.lookup_cons, List.lookup_cons, ih]
    cases name == name' <;> rfl

end FileTree

namespace Place

/-- The place with every file emptied. -/
def outline (p : Place) : Place :=
  ⟨p.node.outline, p.above.map FileTree.outline⟩

theorem step_outline (p : Place) (name : Octets) :
    p.outline.step name = (p.step name).map outline := by
  obtain ⟨node, above⟩ := p
  cases node with
  | file contents => rfl
  | directory entries =>
    change step ⟨.directory (FileTree.outlines entries), above.map FileTree.outline⟩ name = _
    simp only [step, FileTree.isDirectory, if_true, FileTree.entries, FileTree.lookup_outlines]
    split
    · rfl
    · split
      · cases above <;> rfl
      · split
        · rfl
        · cases entries.lookup name <;> rfl

theorem walk_outline (p : Place) (names : List Octets) :
    p.outline.walk names = (p.walk names).map outline := by
  induction names generalizing p with
  | nil => rfl
  | cons name names ih =>
    rw [walk, walk, List.foldlM_cons, List.foldlM_cons, step_outline]
    cases p.step name with
    | error e => rfl
    | ok q => exact ih q

end Place

namespace FileSystem

/-- The file system with every file emptied. -/
def outline (fs : FileSystem) : FileSystem :=
  { fs with root := fs.root.outline }

theorem find_outline (fs : FileSystem) (path : Octets) :
    fs.outline.find path = (fs.find path).map FileTree.outline := by
  unfold find
  split
  next => rfl
  next =>
    split
    next => rfl
    next =>
      split
      next => rfl
      next =>
        have hwalk := Place.walk_outline ⟨fs.root, []⟩ (fs.namesFromRoot path)
        change ((Place.outline ⟨fs.root, []⟩).walk (fs.namesFromRoot path)).map (·.node) = _
        rw [hwalk]
        cases Place.walk ⟨fs.root, []⟩ (fs.namesFromRoot path) <;> rfl

theorem isDirectory_outline (fs : FileSystem) (path : Octets) :
    fs.outline.isDirectory path = fs.isDirectory path := by
  unfold isDirectory
  rw [find_outline]
  cases fs.find path with
  | error e => rfl
  | ok node => exact node.isDirectory_outline

variable {fs fs' : FileSystem}

/-- Whether there is a directory does not depend on the contents of files. -/
theorem isDirectory_congr (h : fs.outline = fs'.outline) : fs.isDirectory = fs'.isDirectory := by
  funext path
  rw [← isDirectory_outline fs, h, isDirectory_outline]

theorem hasWorkingDirectory_outline (fs : FileSystem) :
    fs.outline.hasWorkingDirectory = fs.hasWorkingDirectory := by
  have hwalk := Place.walk_outline ⟨fs.root, []⟩ fs.workingDirectory
  change ((Place.outline ⟨fs.root, []⟩).walk fs.workingDirectory).toOption.any
    (·.node.isDirectory) = _
  rw [hwalk, hasWorkingDirectory]
  cases Place.walk ⟨fs.root, []⟩ fs.workingDirectory with
  | error e => rfl
  | ok place => exact place.node.isDirectory_outline

/-- What the working directory is, and whether it is there, does not depend on the contents of
files. -/
theorem currentDirectory_congr (h : fs.outline = fs'.outline) :
    fs.currentDirectory = fs'.currentDirectory := by
  have hthere : fs.hasWorkingDirectory = fs'.hasWorkingDirectory := by
    rw [← hasWorkingDirectory_outline fs, h, hasWorkingDirectory_outline]
  have hpath : fs.outline.workingPath = fs'.outline.workingPath := congrArg workingPath h
  change fs.workingPath = fs'.workingPath at hpath
  rw [currentDirectory, currentDirectory, hthere, hpath]

end FileSystem

end DsigRegistry
