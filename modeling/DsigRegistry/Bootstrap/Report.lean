import DsigRegistry.Configuration

/-!
# Reports

What a bootstrap did, entry by entry.
-/

namespace DsigRegistry

/-- A successful registration. -/
structure Registration where
  category : Category
  id : String
  implementation : String
deriving DecidableEq

/-- An entry of the category that could not be registered. -/
structure EntryFailure where
  category : Category
  error : RegistrationError
deriving DecidableEq

/-- A resolver that cannot be registered, and an implementation that lacks something it needs,
are warnings; everything else is an error. -/
def EntryFailure.severity (f : EntryFailure) : Severity :=
  if f.category.isResolver || f.error.isMissingDependency then .warning else .error

/-- The outcome of a bootstrap. -/
structure Report where
  mode : Mode
  registered : List Registration := []
  failures : List EntryFailure := []
  prefixConflicts : List PrefixConflict := []
  /-- The entries without a required attribute. -/
  skipped : List SkippedEntry := []
  /-- Why the document could not be read, if the bootstrap went on without it. -/
  documentError : Option Error := none
deriving DecidableEq

namespace Report

/-- Everything went well. -/
def isClean (r : Report) : Bool :=
  r.failures.isEmpty && r.prefixConflicts.isEmpty && r.skipped.isEmpty
    && r.documentError.isNone

/-- The failures of a severity, in order. -/
def failuresOf (r : Report) (severity : Severity) : List EntryFailure :=
  r.failures.filter fun f => f.severity = severity

/-- The failures that are errors. -/
def errors (r : Report) : List EntryFailure := r.failuresOf .error

/-- The failures that are warnings. -/
def warnings (r : Report) : List EntryFailure := r.failuresOf .warning

/-- The identifiers registered in a category, in the order of registration. -/
def registeredIn (r : Report) (category : Category) : List String :=
  (r.registered.filter fun e => e.category = category).map (·.id)

/-- The first failure for an identifier. -/
def failureFor? (r : Report) (id : String) : Option EntryFailure :=
  r.failures.find? fun f => f.error.id == id

/-- The event that ends a bootstrap. -/
def readyEvent (r : Report) : Event :=
  .ready r.mode r.registered.length r.errors.length r.warnings.length

end Report

end DsigRegistry
