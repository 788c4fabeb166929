import DsigRegistry.Algorithm
import DsigRegistry.Configuration
import DsigRegistry.ImplementationId

/-!
# Default tables

What is registered without a configuration document: prefixes, transforms and signature
algorithms, but no canonicalizers and no resolvers.
-/

namespace DsigRegistry.Defaults

/-- The preferred prefixes of namespaces. -/
def namespaces : List (String × String) :=
  [(Namespace.dsig, "ds"), (Namespace.enc, "xenc"), (Namespace.experimental, "experimental"),
   (Namespace.xpath2Draft, "dsig-xpath-old"), (Namespace.xpath2, "dsig-xpath"),
   (Namespace.excC14n, "ec"), (Namespace.xpathFilterLegacy, "xx")]

/-- The implementations of transforms. -/
def transforms : List (String × String) :=
  [(Algorithm.base64, ImplementationId.base64Decode),
   (Algorithm.c14n, ImplementationId.c14nTransform),
   (Algorithm.c14nWithComments, ImplementationId.c14nWithCommentsTransform),
   (Algorithm.c14n11, ImplementationId.c14n11Transform),
   (Algorithm.c14n11WithComments, ImplementationId.c14n11WithCommentsTransform),
   (Algorithm.excC14n, ImplementationId.excC14nTransform),
   (Algorithm.excC14nWithComments, ImplementationId.excC14nWithCommentsTransform),
   (Algorithm.xpath, ImplementationId.xpath),
   (Algorithm.envelopedSignature, ImplementationId.envelopedSignature),
   (Algorithm.xslt, ImplementationId.xslt),
   (Algorithm.xpath2, ImplementationId.xpath2Filter),
   (Algorithm.xpath2Draft, ImplementationId.xpath2Filter)]

/-- The implementations of signature algorithms. -/
def signatureAlgorithms : List (String × String) :=
  [(Algorithm.dsaSha1, ImplementationId.dsaSha1), (Algorithm.rsaSha1, ImplementationId.rsaSha1),
   (Algorithm.hmacSha1, ImplementationId.hmacSha1), (Algorithm.rsaMd5, ImplementationId.rsaMd5),
   (Algorithm.rsaRipemd160, ImplementationId.rsaRipemd160),
   (Algorithm.rsaSha256, ImplementationId.rsaSha256),
   (Algorithm.rsaSha384, ImplementationId.rsaSha384),
   (Algorithm.rsaSha512, ImplementationId.rsaSha512),
   (Algorithm.ecdsaSha1, ImplementationId.ecdsaSha1),
   (Algorithm.ecdsaSha256, ImplementationId.ecdsaSha256),
   (Algorithm.ecdsaSha384, ImplementationId.ecdsaSha384),
   (Algorithm.ecdsaSha512, ImplementationId.ecdsaSha512),
   (Algorithm.hmacMd5, ImplementationId.hmacMd5),
   (Algorithm.hmacRipemd160, ImplementationId.hmacRipemd160),
   (Algorithm.hmacSha256, ImplementationId.hmacSha256),
   (Algorithm.hmacSha384, ImplementationId.hmacSha384),
   (Algorithm.hmacSha512, ImplementationId.hmacSha512)]

/-- The default locale. -/
def locale : Locale := ⟨some "en", some "US"⟩

/-- The prefixes as mappings. -/
def prefixMappings : List PrefixMapping :=
  namespaces.map fun (uri, label) => ⟨uri, label⟩

/-- The entries of a table as requests of the category. -/
def requestsOf (category : Category) (table : List (String × String)) : List Request :=
  table.map fun (id, implementation) => ⟨category, id, implementation, none⟩

/-- The entries to register, in order. -/
def requests : List Request :=
  requestsOf .transform transforms ++ requestsOf .signatureAlgorithm signatureAlgorithms

end DsigRegistry.Defaults
