import DsigRegistry.Key.Resolver
import DsigRegistry.Registry
import DsigRegistry.Resource.Basic

/-!
# Resolution

The resolvers of a registry form a chain: they are tried in order, and the first that claims what
is to be resolved answers for it, for better or worse. A scope narrows the chain for one
operation; a resolver out of scope is not even constructed.
-/

namespace DsigRegistry

/-- Which of the registered resolvers may take part in an operation. -/
inductive ResolverScope where
  | unrestricted
  /-- Those registered under one of the identifiers. -/
  | only (ids : List String)
deriving DecidableEq

namespace ResolverScope

/-- No resolver takes part. -/
def none : ResolverScope := .only []

/-- The resolver registered under the identifier takes part. -/
def allows (scope : ResolverScope) (id : String) : Bool :=
  match scope with
  | .unrestricted => true
  | .only ids => ids.contains id

end ResolverScope

variable {ρ : Type}

/-- The first resolver in scope that can be constructed and claims what is to be resolved, with
its identifier. Those that cannot be constructed are passed over, which `skipped` words. -/
def firstClaim (scope : ResolverScope) (claims : ρ → Bool) (skipped : String → Error → Event) :
    List (String × Descriptor ρ) → Traced (Option (String × ρ))
  | [] => return none
  | (id, descriptor) :: rest => do
    if scope.allows id then
      match ← descriptor.instantiate with
      | .error e =>
        Traced.report (skipped id e)
        firstClaim scope claims skipped rest
      | .ok resolver =>
        Traced.record (.asked id)
        if claims resolver then return some (id, resolver)
        else firstClaim scope claims skipped rest
    else firstClaim scope claims skipped rest

/-- The octets that a reference stands for. -/
def resolveResource (resolvers : Registry ResourceResolver) (reference : Reference)
    (scope : ResolverScope) : Traced (Except Error Octets) := do
  match ← firstClaim scope (·.claims reference) .resourceResolverSkipped resolvers.entries with
  | none => return .error (.unresolvable reference.uri)
  | some (id, resolver) =>
    Traced.report (.resourceResolverClaimed id reference.uri)
    Traced.record (.resolved id)
    resolver.resolve reference

/-- The key that a description stands for. -/
def resolveKey (resolvers : Registry KeyResolver) (info : KeyInfo) (keys : KeyStore)
    (scope : ResolverScope) : Traced (Except Error Key) := do
  match ← firstClaim scope (·.claims info) .keyResolverSkipped resolvers.entries with
  | none => return .error (.unresolvable info.text)
  | some (id, resolver) =>
    Traced.report (.keyResolverClaimed id)
    Traced.record (.resolved id)
    return resolver.resolve info keys

end DsigRegistry
