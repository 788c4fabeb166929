import DsigRegistry.Bootstrap.Report
import DsigRegistry.Catalog.Basic
import DsigRegistry.Resolution
import DsigRegistry.Signature.Policy
import DsigRegistry.Transform.Pipeline

/-!
# The algorithm registry

The registries of the five categories together with the prefix table, the catalog that supplies
the implementations, and what a bootstrap left behind.
-/

namespace DsigRegistry

/-- Whether a bootstrap has been completed. -/
inductive State where
  | uninitialized
  | ready
deriving DecidableEq

/-- The name of the state. -/
def State.name : State → String
  | .uninitialized => "Uninitialized"
  | .ready => "Ready"

/-- The registries of all categories and what belongs to them. -/
structure AlgorithmRegistry where
  canonicalizers : Registry Canonicalizer := .empty .canonicalizer
  transforms : Registry Transform := .empty .transform
  signatures : Registry SignatureAlgorithm := .empty .signatureAlgorithm
  resourceResolvers : Registry ResourceResolver := .empty .resourceResolver
  keyResolvers : Registry KeyResolver := .empty .keyResolver
  prefixes : PrefixTable := .empty
  catalog : Catalog
  locale : Option Locale := none
  /-- The element with the mappings for providers in the document that was loaded. -/
  providerMappings : Option String := none
  /-- The report of the bootstrap that made the registry ready. -/
  report : Option Report := none

namespace AlgorithmRegistry

/-- Nothing is registered. -/
def ofCatalog (catalog : Catalog) : AlgorithmRegistry where
  catalog := catalog

/-- Whether a bootstrap has been completed. -/
def state (a : AlgorithmRegistry) : State :=
  if a.report.isSome then .ready else .uninitialized

/-- The registry of a category. -/
def registry (a : AlgorithmRegistry) : (c : Category) → Registry c.Interface
  | .canonicalizer => a.canonicalizers
  | .transform => a.transforms
  | .signatureAlgorithm => a.signatures
  | .resourceResolver => a.resourceResolvers
  | .keyResolver => a.keyResolvers

/-- The registries with that of one category replaced. -/
def withRegistry (a : AlgorithmRegistry) :
    (c : Category) → Registry c.Interface → AlgorithmRegistry
  | .canonicalizer, r => { a with canonicalizers := r }
  | .transform, r => { a with transforms := r }
  | .signatureAlgorithm, r => { a with signatures := r }
  | .resourceResolver, r => { a with resourceResolvers := r }
  | .keyResolver, r => { a with keyResolvers := r }

/-! ### Registration -/

/-- Register a descriptor in a category. -/
def register (a : AlgorithmRegistry) (c : Category) (id : String)
    (descriptor : Descriptor c.Interface) :
    Traced (Except RegistrationError AlgorithmRegistry) := do
  match ← (a.registry c).register id descriptor with
  | .error e => return .error e
  | .ok r => return .ok (a.withRegistry c r)

/-- Register what the catalog knows under an implementation identifier, with a description if
there is one. -/
def registerDescribed (a : AlgorithmRegistry) (c : Category) (id implementation : String)
    (description : Option String) : Traced (Except RegistrationError AlgorithmRegistry) :=
  match a.catalog.resolve c id implementation with
  | .error e => return .error e
  | .ok factory => a.register c id (.described implementation factory description)

/-- Register what the catalog knows under an implementation identifier. -/
def registerImplementation (a : AlgorithmRegistry) (c : Category) (id implementation : String) :
    Traced (Except RegistrationError AlgorithmRegistry) :=
  a.registerDescribed c id implementation none

/-- Bind a namespace to a prefix. -/
def setPrefix (a : AlgorithmRegistry) (uri label : String) :
    Traced (Except PrefixConflict AlgorithmRegistry) :=
  match a.prefixes.bind uri label with
  | .error conflict => return .error conflict
  | .ok prefixes => do
    Traced.report (.prefixBound uri label)
    return .ok { a with prefixes }

/-! ### Use -/

/-- The registries that chains of transforms are executed against. -/
def pipeline (a : AlgorithmRegistry) : Pipeline := ⟨a.transforms, a.canonicalizers⟩

/-- A new instance of the signature algorithm under the URI, if the policy permits it. -/
def signature (a : AlgorithmRegistry) (uri : String) (policy : Policy) :
    Traced (Except Error SignatureAlgorithm) :=
  signatureFor a.signatures uri policy

/-- The octets that a reference stands for. -/
def resolveResource (a : AlgorithmRegistry) (reference : Reference) (scope : ResolverScope) :
    Traced (Except Error Octets) :=
  DsigRegistry.resolveResource a.resourceResolvers reference scope

/-- The key that a description stands for. -/
def resolveKey (a : AlgorithmRegistry) (info : KeyInfo) (keys : KeyStore)
    (scope : ResolverScope) : Traced (Except Error Key) :=
  DsigRegistry.resolveKey a.keyResolvers info keys scope

/-- The registries as diagnostics show them. -/
def text (a : AlgorithmRegistry) : String :=
  Text.record "AlgorithmRegistry"
    [("state", a.state.name), ("canonicalizers", toString a.canonicalizers.size),
     ("transforms", toString a.transforms.size), ("signatures", toString a.signatures.size),
     ("resource_resolvers", toString a.resourceResolvers.size),
     ("key_resolvers", toString a.keyResolvers.size), ("prefixes", toString a.prefixes.size)]

/-! ### The registries as a family -/

@[simp] theorem registry_withRegistry (a : AlgorithmRegistry) (c : Category)
    (r : Registry c.Interface) : (a.withRegistry c r).registry c = r := by
  cases c <;> rfl

/-- The other registries stay as they are. -/
theorem registry_withRegistry_of_ne (a : AlgorithmRegistry) {c d : Category} (h : d ≠ c)
    (r : Registry c.Interface) : (a.withRegistry c r).registry d = a.registry d := by
  cases c <;> cases d <;> simp_all [registry, withRegistry]

end AlgorithmRegistry

end DsigRegistry
