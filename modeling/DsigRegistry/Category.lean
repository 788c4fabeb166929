/-!
# Categories

The five kinds of implementation that can be plugged in.
-/

namespace DsigRegistry

/-- A kind of pluggable implementation. -/
inductive Category where
  | canonicalizer
  | transform
  | signatureAlgorithm
  | resourceResolver
  | keyResolver
deriving DecidableEq

namespace Category

/-- The categories in the order in which they are listed. -/
def all : List Category :=
  [.canonicalizer, .transform, .signatureAlgorithm, .resourceResolver, .keyResolver]

theorem mem_all (c : Category) : c ∈ all := by
  cases c <;> decide

/-- The category's name as an identifier. -/
def name : Category → String
  | .canonicalizer => "Canonicalizer"
  | .transform => "Transform"
  | .signatureAlgorithm => "SignatureAlgorithm"
  | .resourceResolver => "ResourceResolver"
  | .keyResolver => "KeyResolver"

/-- The category in running text. -/
def label : Category → String
  | .canonicalizer => "canonicalizer"
  | .transform => "transform"
  | .signatureAlgorithm => "signature algorithm"
  | .resourceResolver => "resource resolver"
  | .keyResolver => "key resolver"

/-- Resolvers form chains and are keyed by implementation identifier; the other categories are
keyed by algorithm URI. -/
def isResolver : Category → Bool
  | .resourceResolver | .keyResolver => true
  | .canonicalizer | .transform | .signatureAlgorithm => false

end Category

end DsigRegistry
