import DsigRegistry.AlgorithmRegistry.Basic
import DsigRegistry.Bootstrap.Defaults
import DsigRegistry.Bootstrap.Provider

/-!
# Bootstrap

The registries are populated once, from a configuration document or from the default tables. An
entry that cannot be registered is reported and does not keep the others from being registered.
The first bootstrap that completes makes the registries ready; later ones give its report again
and do nothing else.
-/

namespace DsigRegistry

/-- Registries that are being populated, with what there is to report so far. -/
structure Progress where
  registry : AlgorithmRegistry
  report : Report

namespace Progress

/-- Register an entry. -/
def enter (p : Progress) (q : Request) : Traced Progress := do
  match ← p.registry.registerDescribed q.category q.id q.implementation q.description with
  | .ok registry =>
    let registration : Registration := ⟨q.category, q.id, q.implementation⟩
    return ⟨registry, { p.report with registered := p.report.registered ++ [registration] }⟩
  | .error error =>
    let failure : EntryFailure := ⟨q.category, error⟩
    Traced.report
      (.registrationFailed failure.severity q.category q.id q.implementation error)
    return { p with report := { p.report with failures := p.report.failures ++ [failure] } }

/-- Bind a namespace to its prefix. -/
def bindPrefix (p : Progress) (m : PrefixMapping) : Traced Progress := do
  match ← p.registry.setPrefix m.uri m.label with
  | .ok registry => return { p with registry }
  | .error conflict =>
    Traced.report (.prefixIgnored conflict m.uri)
    return { p with report :=
      { p.report with prefixConflicts := p.report.prefixConflicts ++ [conflict] } }

/-- Register entries in order. -/
def enterAll (p : Progress) (requests : List Request) : Traced Progress :=
  requests.foldlM enter p

/-- Bind namespaces to their prefixes in order. -/
def bindPrefixes (p : Progress) (mappings : List PrefixMapping) : Traced Progress :=
  mappings.foldlM bindPrefix p

end Progress

namespace AlgorithmRegistry

/-- Populate the registries with what a document says. -/
def apply (a : AlgorithmRegistry) (c : Configuration) (mode : Mode) : Traced Progress := do
  let settled := { a with
    locale := c.locale.or a.locale
    providerMappings := c.providerMappings.or a.providerMappings }
  let entered ← Progress.enterAll ⟨settled, { mode }⟩ c.requests
  let bound ← entered.bindPrefixes c.prefixMappings
  return { bound with report := { bound.report with skipped := c.skipped } }

/-- Populate the registries with the default tables. -/
def applyDefaults (a : AlgorithmRegistry) : Traced Progress := do
  let settled := { a with locale := some Defaults.locale }
  let bound ← Progress.bindPrefixes ⟨settled, { mode := .defaults }⟩ Defaults.prefixMappings
  bound.enterAll Defaults.requests

/-- Populate the registries by `load`, unless they are ready. A load that succeeds makes them ready,
and its report stays with them; after one that fails a later call tries again. -/
def once {ε : Type} (a : AlgorithmRegistry) (load : Traced (AlgorithmRegistry × Except ε Report)) :
    Traced (AlgorithmRegistry × Except ε Report) := do
  match a.report with
  | some report => return (a, .ok report)
  | none =>
    match ← load with
    | (populated, .ok report) => return ({ populated with report := some report }, .ok report)
    | (populated, .error e) => return (populated, .error e)

/-- The registries are populated, which an event tells. -/
def complete {ε : Type} (p : Progress) : Traced (AlgorithmRegistry × Except ε Report) := do
  Traced.report p.report.readyEvent
  return (p.registry, .ok p.report)

/-- What the document at a path says. -/
def readConfiguration (provider : Provider) (path : String) :
    Traced (Except Error Configuration) := do
  match ← provider.load path with
  | .error e => return .error e
  | .ok document => Configuration.parse document

/-- Populate the registries from a configuration document. -/
def load (a : AlgorithmRegistry) (provider : Provider) (options : Options) :
    Traced (AlgorithmRegistry × Except Error Report) := do
  let path := options.path
  match ← readConfiguration provider path with
  | .ok configuration =>
    let populated ← a.apply configuration (.configuration path)
    complete populated
  | .error e =>
    match options.failurePolicy with
    | .strict =>
      Traced.report (.configurationUnloadable path e false)
      return (a, .error e)
    | .lenient =>
      Traced.report (.configurationUnloadable path e true)
      complete ⟨a, { mode := .configuration path, documentError := some e }⟩

/-- Populate the registries from the default tables, which cannot fail. -/
def loadDefaults (a : AlgorithmRegistry) : Traced (AlgorithmRegistry × Except Empty Report) := do
  let populated ← a.applyDefaults
  complete populated

/-- Populate the registries from a configuration document, unless they are ready. -/
def init (a : AlgorithmRegistry) (provider : Provider) (options : Options) :
    Traced (AlgorithmRegistry × Except Error Report) :=
  a.once (a.load provider options)

/-- Populate the registries from the default tables, unless they are ready. -/
def initDefaults (a : AlgorithmRegistry) : Traced (AlgorithmRegistry × Report) := do
  match ← a.once a.loadDefaults with
  | (ready, .ok report) => return (ready, report)

/-- Populate the registries from the document that the environment variable names, or else from
the bundled one. -/
def initFromEnvironment (a : AlgorithmRegistry) (files : FileSystem) (value : Option String) :
    Traced (AlgorithmRegistry × Except Error Report) :=
  a.init (.standard files) (.ofEnvironment value)

end AlgorithmRegistry

end DsigRegistry
