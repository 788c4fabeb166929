import DsigRegistry.Catalog.Basic
import DsigRegistry.ImplementationId
import DsigRegistry.Resource.LocalFile
import DsigRegistry.Transform.Base64
import DsigRegistry.Transform.Canonicalization

/-!
# The built-in catalog

The implementations of this library, and the names of those that a host is expected to provide:
canonicalizers, engines that work on documents, public-key signatures, and access to networks.
-/

namespace DsigRegistry.Catalog

/-- The entries for the identifiers, all for want of the same thing. -/
def missing (category : Category) (dependency : String) (ids : List String) :
    List (String × CatalogEntry) :=
  ids.map fun id => (id, .unavailable category dependency)

/-- The entry for a value of the library itself. -/
def builtinEntry (category : Category) (id : String) (value : category.Interface) :
    String × CatalogEntry :=
  (id, .available (.const (.builtin id) category value))

/-- The canonicalizers. -/
def canonicalizers : List (String × CatalogEntry) :=
  missing .canonicalizer "canonical XML serializer"
    [ImplementationId.c14n, ImplementationId.c14nWithComments, ImplementationId.c14n11,
     ImplementationId.c14n11WithComments, ImplementationId.excC14n,
     ImplementationId.excC14nWithComments]

/-- The identifier of the transform for a canonicalization algorithm. -/
def c14nTransformId : C14nMode → String
  | .inclusive => ImplementationId.c14nTransform
  | .inclusiveWithComments => ImplementationId.c14nWithCommentsTransform
  | .inclusive11 => ImplementationId.c14n11Transform
  | .inclusive11WithComments => ImplementationId.c14n11WithCommentsTransform
  | .exclusive => ImplementationId.excC14nTransform
  | .exclusiveWithComments => ImplementationId.excC14nWithCommentsTransform

/-- The transforms. -/
def transforms : List (String × CatalogEntry) :=
  [builtinEntry .transform ImplementationId.base64Decode Transform.base64Decode,
   builtinEntry .transform ImplementationId.identity Transform.identity]
  ++ C14nMode.all.map (fun m => builtinEntry .transform (c14nTransformId m) (Transform.c14n m))
  ++ missing .transform "XML node-set engine" [ImplementationId.envelopedSignature]
  ++ missing .transform "XPath engine" [ImplementationId.xpath, ImplementationId.xpath2Filter]
  ++ missing .transform "XSLT engine" [ImplementationId.xslt]

/-- The identifier of the authentication code over a hash function. -/
def hmacId : Hash → String
  | .sha1 => ImplementationId.hmacSha1
  | .sha224 => ImplementationId.hmacSha224
  | .sha256 => ImplementationId.hmacSha256
  | .sha384 => ImplementationId.hmacSha384
  | .sha512 => ImplementationId.hmacSha512
  | .md5 => ImplementationId.hmacMd5
  | .ripemd160 => ImplementationId.hmacRipemd160

/-- The authentication codes over the hash functions. -/
def hmacs (hashes : List Hash) : List (String × CatalogEntry) :=
  hashes.map fun h => builtinEntry .signatureAlgorithm (hmacId h) (Hmac.algorithm h)

/-- The signature algorithms. The legacy authentication codes are there on demand only. -/
def signatureAlgorithms (withLegacy : Bool) : List (String × CatalogEntry) :=
  hmacs Hash.standard
  ++ (if withLegacy then hmacs Hash.legacy
      else missing .signatureAlgorithm "legacy-algorithms feature" (Hash.legacy.map hmacId))
  ++ missing .signatureAlgorithm "public-key signature provider"
    [ImplementationId.rsaSha1, ImplementationId.rsaSha256, ImplementationId.rsaSha384,
     ImplementationId.rsaSha512, ImplementationId.rsaMd5, ImplementationId.rsaRipemd160,
     ImplementationId.dsaSha1, ImplementationId.ecdsaSha1, ImplementationId.ecdsaSha256,
     ImplementationId.ecdsaSha384, ImplementationId.ecdsaSha512]

/-- The resource resolvers. -/
def resourceResolvers (files : FileSystem) : List (String × CatalogEntry) :=
  [builtinEntry .resourceResolver ImplementationId.localFile (LocalFile.resolver files)]
  ++ missing .resourceResolver "network transport" [ImplementationId.http]
  ++ missing .resourceResolver "XML node-set engine"
    [ImplementationId.fragment, ImplementationId.xpointer]

/-- The key resolvers. -/
def keyResolvers : List (String × CatalogEntry) :=
  [builtinEntry .keyResolver ImplementationId.keyName KeyResolver.keyName,
   builtinEntry .keyResolver ImplementationId.keyValue KeyResolver.keyValue]
  ++ missing .keyResolver "X.509 certificate parser" [ImplementationId.x509Certificate]

/-- The catalog of this library over the files of a system. -/
def builtin (withLegacy : Bool) (files : FileSystem) : Catalog :=
  ⟨.ofList (canonicalizers ++ transforms ++ signatureAlgorithms withLegacy
    ++ resourceResolvers files ++ keyResolvers)⟩

end DsigRegistry.Catalog
