import DsigRegistry.Transform.Basic

/-!
# Canonicalization transforms

The transforms for the canonicalization algorithms do not write documents themselves: each calls
on the canonicalizer that is registered under its URI.
-/

namespace DsigRegistry

/-- The canonicalization algorithms. -/
inductive C14nMode where
  | inclusive
  | inclusiveWithComments
  | inclusive11
  | inclusive11WithComments
  | exclusive
  | exclusiveWithComments
deriving DecidableEq

namespace C14nMode

/-- The algorithms in the order in which they are listed. -/
def all : List C14nMode :=
  [.inclusive, .inclusiveWithComments, .inclusive11, .inclusive11WithComments, .exclusive,
   .exclusiveWithComments]

theorem mem_all (m : C14nMode) : m ∈ all := by
  cases m <;> decide

/-- The URI of the algorithm. -/
def uri : C14nMode → String
  | .inclusive => Algorithm.c14n
  | .inclusiveWithComments => Algorithm.c14nWithComments
  | .inclusive11 => Algorithm.c14n11
  | .inclusive11WithComments => Algorithm.c14n11WithComments
  | .exclusive => Algorithm.excC14n
  | .exclusiveWithComments => Algorithm.excC14nWithComments

/-- The algorithm with the URI. -/
def ofUri? (uri : String) : Option C14nMode :=
  all.find? fun m => m.uri == uri

/-- Comments are kept. -/
def withComments : C14nMode → Bool
  | .inclusiveWithComments | .inclusive11WithComments | .exclusiveWithComments => true
  | .inclusive | .inclusive11 | .exclusive => false

/-- Only the namespaces in use are written. -/
def isExclusive : C14nMode → Bool
  | .exclusive | .exclusiveWithComments => true
  | .inclusive | .inclusiveWithComments | .inclusive11 | .inclusive11WithComments => false

/-- Each algorithm is found under its URI. -/
theorem ofUri?_uri (m : C14nMode) : ofUri? m.uri = some m := by
  cases m <;> decide

/-- The prefixes that are passed to the canonicalizer. -/
def prefixes (m : C14nMode) (params : Params) : List String :=
  if m.isExclusive then params.inclusivePrefixes else []

end C14nMode

/-- The transform for a canonicalization algorithm. Whatever keeps the canonicalizer from being
constructed is reported as its absence. -/
def Transform.c14n (m : C14nMode) : Transform where
  execute data params canonicalizers := do
    match ← canonicalizers.create m.uri with
    | .error _ =>
      return .error (.canonicalization ("no canonicalizer registered for " ++ m.uri))
    | .ok canonicalizer =>
      match data.asText with
      | .error e => return .error e
      | .ok document =>
        Traced.record (.canonicalized m.uri)
        return (canonicalizer.canonicalize document (m.prefixes params)).map .octets

end DsigRegistry
