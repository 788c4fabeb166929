import DsigRegistry.Key.Resolver
import DsigRegistry.Resource.Basic
import DsigRegistry.Transform.Basic

/-!
# Stand-ins

Small implementations that a host can plug in where a real engine is out of reach: they show
what reached them, change it in a way that is easy to see, or fail. What a resolver claims depends
on nothing but the spelling of a reference, and it always answers the same.
-/

namespace DsigRegistry.Stub

/-! ### Transforms and canonicalizers -/

/-- The transform that changes octets and refuses documents. -/
def onOctets (f : Octets → Octets) : Transform :=
  .pure fun data _ =>
    match data with
    | .octets octets => .ok (.octets (f octets))
    | .xml _ => .error (.transform "octets required")

/-- The transform that appends the suffix. -/
def append (suffix : Octets) : Transform := onOctets (· ++ suffix)

/-- The transform that repeats the octets. -/
def double : Transform := onOctets fun octets => octets ++ octets

/-- The transform that reverses the octets. -/
def reverse : Transform := onOctets List.reverse

/-- The transform that takes its input for the text of a document. -/
def toXml : Transform :=
  .pure fun data _ => data.asText.map .xml

/-- The transform that converts its input to octets. -/
def toOctets : Transform where
  execute data _ canonicalizers := do
    match ← data.toOctets canonicalizers with
    | .ok octets => return .ok (.octets octets)
    | .error e => return .error e

/-- What the parameters of a step say about the names. -/
def describeParams (names : List String) (params : Params) : String :=
  "empty=" ++ toString params.isEmpty ++ ";"
    ++ String.join (names.map fun name =>
      name ++ "=" ++ (params.get? name).getD "<none>" ++ ";")
    ++ "prefixes=" ++ ",".intercalate params.inclusivePrefixes

/-- The transform that answers with a description of its parameters. -/
def showParams (names : List String) : Transform :=
  .pure fun _ params => .ok (.octets (Text.Utf8.encode (describeParams names params)))

/-- The transform that fails. -/
def failingTransform (error : Error) : Transform :=
  .pure fun _ _ => .error error

/-- The canonicalizer that takes off the white space around a document. -/
def trim : Canonicalizer where
  canonicalize document _ := .ok (Text.Utf8.encode (Text.trim document))

/-- The canonicalizer that shows what it was called with. -/
def tagged (tag : String) : Canonicalizer where
  canonicalize document prefixes :=
    .ok (Text.Utf8.encode (tag ++ "[" ++ ",".intercalate prefixes ++ "](" ++ document ++ ")"))

/-- The canonicalizer that fails. -/
def failingCanonicalizer (error : Error) : Canonicalizer where
  canonicalize _ _ := .error error

/-! ### Resolvers -/

/-- The resource resolver with the claims and the answer. -/
def resourceResolver (claims : Reference → Bool) (answer : Except Error Octets) :
    ResourceResolver where
  claims := claims
  resolve _ := return answer

/-- The reference starts with the text. -/
def startsWith (start : String) (r : Reference) : Bool :=
  start.toList.isPrefixOf r.uri.toList

/-- The reference has the scheme, or none. -/
def hasScheme (scheme : Option String) (r : Reference) : Bool :=
  r.scheme? == scheme

/-- The key resolver that claims everything or nothing and always answers the same. -/
def keyResolver (claims : Bool) (answer : Except Error Key) : KeyResolver where
  claims _ := claims
  resolve _ _ := answer

end DsigRegistry.Stub
