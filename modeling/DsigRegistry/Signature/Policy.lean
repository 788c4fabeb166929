import DsigRegistry.Algorithm
import DsigRegistry.Registry
import DsigRegistry.Signature.Basic

/-!
# Policies

A policy is consulted before a signature algorithm is handed out. The registry itself hands out
whatever is registered.
-/

namespace DsigRegistry

/-- Which algorithm URIs may be used. -/
structure Policy where
  permits : String → Bool

/-- The policy that permits everything. -/
def Policy.permitAll : Policy := ⟨fun _ => true⟩

/-- A set of algorithm URIs that may not be used. -/
structure RejectList where
  uris : Dictionary Unit

namespace RejectList

/-- Nothing is rejected. -/
def empty : RejectList := ⟨.empty⟩

/-- The list with one more URI. -/
def reject (l : RejectList) (uri : String) : RejectList := ⟨l.uris.insert uri ()⟩

/-- The list of the URIs. -/
def ofList (uris : List String) : RejectList := uris.foldl reject empty

/-- The signature and authentication algorithms based on MD5 and RIPEMD-160. -/
def legacy : RejectList :=
  ofList [Algorithm.rsaMd5, Algorithm.hmacMd5, Algorithm.rsaRipemd160, Algorithm.hmacRipemd160]

/-- The rejected URIs in ascending order. -/
def rejected (l : RejectList) : List String := l.uris.keys

/-- The policy that permits all but the rejected URIs. -/
def policy (l : RejectList) : Policy := ⟨fun uri => !l.uris.contains uri⟩

end RejectList

/-- A new instance of the algorithm registered under the URI, if the policy permits the URI. -/
def signatureFor (signatures : Registry SignatureAlgorithm) (uri : String) (policy : Policy) :
    Traced (Except Error SignatureAlgorithm) := do
  if policy.permits uri then
    signatures.create uri
  else
    Traced.report (.algorithmRejected uri)
    return .error (.algorithmRejected uri)

end DsigRegistry
