/-!
# Implementation identifiers

The names under which a catalog knows the implementations of this library and those that a host
is expected to provide. Configuration documents refer to them.
-/

namespace DsigRegistry.ImplementationId

/-! ### Canonicalizers -/

def c14n : String := "ulriksdal::c14n::Canonical10"
def c14nWithComments : String := "ulriksdal::c14n::Canonical10WithComments"
def c14n11 : String := "ulriksdal::c14n::Canonical11"
def c14n11WithComments : String := "ulriksdal::c14n::Canonical11WithComments"
def excC14n : String := "ulriksdal::c14n::Exclusive"
def excC14nWithComments : String := "ulriksdal::c14n::ExclusiveWithComments"

/-! ### Transforms -/

def base64Decode : String := "ulriksdal::transforms::Base64Decode"
def identity : String := "ulriksdal::transforms::Identity"
def c14nTransform : String := "ulriksdal::transforms::C14n"
def c14nWithCommentsTransform : String := "ulriksdal::transforms::C14nWithComments"
def c14n11Transform : String := "ulriksdal::transforms::C14n11"
def c14n11WithCommentsTransform : String := "ulriksdal::transforms::C14n11WithComments"
def excC14nTransform : String := "ulriksdal::transforms::ExclusiveC14n"
def excC14nWithCommentsTransform : String := "ulriksdal::transforms::ExclusiveC14nWithComments"
def envelopedSignature : String := "ulriksdal::transforms::EnvelopedSignature"
def xpath : String := "ulriksdal::transforms::XPath"
def xpath2Filter : String := "ulriksdal::transforms::XPath2Filter"
def xslt : String := "ulriksdal::transforms::Xslt"

/-! ### Signature algorithms -/

def hmacSha1 : String := "ulriksdal::crypto::HmacSha1"
def hmacSha224 : String := "ulriksdal::crypto::HmacSha224"
def hmacSha256 : String := "ulriksdal::crypto::HmacSha256"
def hmacSha384 : String := "ulriksdal::crypto::HmacSha384"
def hmacSha512 : String := "ulriksdal::crypto::HmacSha512"
def hmacMd5 : String := "ulriksdal::crypto::HmacMd5"
def hmacRipemd160 : String := "ulriksdal::crypto::HmacRipemd160"
def rsaSha1 : String := "ulriksdal::crypto::RsaSha1"
def rsaSha256 : String := "ulriksdal::crypto::RsaSha256"
def rsaSha384 : String := "ulriksdal::crypto::RsaSha384"
def rsaSha512 : String := "ulriksdal::crypto::RsaSha512"
def rsaMd5 : String := "ulriksdal::crypto::RsaMd5"
def rsaRipemd160 : String := "ulriksdal::crypto::RsaRipemd160"
def dsaSha1 : String := "ulriksdal::crypto::DsaSha1"
def ecdsaSha1 : String := "ulriksdal::crypto::EcdsaSha1"
def ecdsaSha256 : String := "ulriksdal::crypto::EcdsaSha256"
def ecdsaSha384 : String := "ulriksdal::crypto::EcdsaSha384"
def ecdsaSha512 : String := "ulriksdal::crypto::EcdsaSha512"

/-! ### Resource resolvers -/

def localFile : String := "ulriksdal::resolver::LocalFile"
def http : String := "ulriksdal::resolver::Http"
def fragment : String := "ulriksdal::resolver::Fragment"
def xpointer : String := "ulriksdal::resolver::XPointer"

/-! ### Key resolvers -/

def keyName : String := "ulriksdal::keys::KeyName"
def keyValue : String := "ulriksdal::keys::KeyValue"
def x509Certificate : String := "ulriksdal::keys::X509Certificate"

end DsigRegistry.ImplementationId
