import DsigRegistry.Journal
import DsigRegistry.Text.Utf8
import DsigRegistry.Url.Parser

/-!
# References to resources

What a signature refers to, and the interface of the resolvers that fetch it.
-/

namespace DsigRegistry

/-- A reference, and the base of the document that contains it. -/
structure Reference where
  uri : String
  base : Option String := none
deriving DecidableEq

/-- The scheme of a text that is a URL by itself. -/
def schemeOf? (uri : String) : Option String :=
  match Url.parse uri with
  | .ok url => some (String.ofList url.scheme)
  | .error _ => none

namespace Reference

/-- The reference is to the document that contains it: it is empty or a fragment. -/
def isSameDocument (r : Reference) : Bool :=
  match r.uri.toList with
  | [] => true
  | c :: _ => c = '#'

/-- The scheme of a reference that is a URL by itself. -/
def scheme? (r : Reference) : Option String := schemeOf? r.uri

end Reference

/-- Fetches the octets that references stand for. -/
structure ResourceResolver where
  claims : Reference → Bool
  resolve : Reference → Traced (Except Error Octets)

end DsigRegistry
