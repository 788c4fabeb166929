/-!
# The bundled document

The configuration document that comes with the library. It registers everything a host can be
expected to provide; what the host does not provide is skipped with a warning.
-/

namespace DsigRegistry

/-- The text of the bundled configuration document. -/
def bundledDocument : String := r#"<?xml version="1.0" encoding="UTF-8"?>
<!-- Default registrations for the Ulriksdal algorithm registries. -->
<Configuration xmlns="http://www.xmlsecurity.org/NS/#configuration">
  <ResourceBundles defaultLanguageCode="en" defaultCountryCode="US"/>

  <CanonicalizationMethods>
    <CanonicalizationMethod URI="http://www.w3.org/TR/2001/REC-xml-c14n-20010315"
                            JAVACLASS="ulriksdal::c14n::Canonical10"/>
    <CanonicalizationMethod URI="http://www.w3.org/TR/2001/REC-xml-c14n-20010315#WithComments"
                            JAVACLASS="ulriksdal::c14n::Canonical10WithComments"/>
    <CanonicalizationMethod URI="http://www.w3.org/2006/12/xml-c14n11"
                            JAVACLASS="ulriksdal::c14n::Canonical11"/>
    <CanonicalizationMethod URI="http://www.w3.org/2006/12/xml-c14n11#WithComments"
                            JAVACLASS="ulriksdal::c14n::Canonical11WithComments"/>
    <CanonicalizationMethod URI="http://www.w3.org/2001/10/xml-exc-c14n#"
                            JAVACLASS="ulriksdal::c14n::Exclusive"/>
    <CanonicalizationMethod URI="http://www.w3.org/2001/10/xml-exc-c14n#WithComments"
                            JAVACLASS="ulriksdal::c14n::ExclusiveWithComments"/>
  </CanonicalizationMethods>

  <TransformAlgorithms>
    <TransformAlgorithm URI="http://www.w3.org/2000/09/xmldsig#base64"
                        JAVACLASS="ulriksdal::transforms::Base64Decode"/>
    <TransformAlgorithm URI="http://www.w3.org/TR/2001/REC-xml-c14n-20010315"
                        JAVACLASS="ulriksdal::transforms::C14n"/>
    <TransformAlgorithm URI="http://www.w3.org/TR/2001/REC-xml-c14n-20010315#WithComments"
                        JAVACLASS="ulriksdal::transforms::C14nWithComments"/>
    <TransformAlgorithm URI="http://www.w3.org/2006/12/xml-c14n11"
                        JAVACLASS="ulriksdal::transforms::C14n11"/>
    <TransformAlgorithm URI="http://www.w3.org/2006/12/xml-c14n11#WithComments"
                        JAVACLASS="ulriksdal::transforms::C14n11WithComments"/>
    <TransformAlgorithm URI="http://www.w3.org/2001/10/xml-exc-c14n#"
                        JAVACLASS="ulriksdal::transforms::ExclusiveC14n"/>
    <TransformAlgorithm URI="http://www.w3.org/2001/10/xml-exc-c14n#WithComments"
                        JAVACLASS="ulriksdal::transforms::ExclusiveC14nWithComments"/>
    <TransformAlgorithm URI="http://www.w3.org/TR/1999/REC-xpath-19991116"
                        JAVACLASS="ulriksdal::transforms::XPath"/>
    <TransformAlgorithm URI="http://www.w3.org/2000/09/xmldsig#enveloped-signature"
                        JAVACLASS="ulriksdal::transforms::EnvelopedSignature"/>
    <TransformAlgorithm URI="http://www.w3.org/TR/1999/REC-xslt-19991116"
                        JAVACLASS="ulriksdal::transforms::Xslt"/>
    <TransformAlgorithm URI="http://www.w3.org/2002/06/xmldsig-filter2"
                        JAVACLASS="ulriksdal::transforms::XPath2Filter"/>
    <TransformAlgorithm URI="http://www.w3.org/2002/04/xmldsig-filter2"
                        JAVACLASS="ulriksdal::transforms::XPath2Filter"/>
  </TransformAlgorithms>

  <JCEAlgorithmMappings>
    <Algorithms>
      <Algorithm URI="http://www.w3.org/2000/09/xmldsig#hmac-sha1"
                 Description="Message Authentication code using SHA1"
                 AlgorithmClass="Mac" RequirementLevel="REQUIRED"
                 JCEName="HmacSHA1"/>
      <Algorithm URI="http://www.w3.org/2001/04/xmldsig-more#hmac-sha256"
                 Description="Message Authentication code using SHA-256"
                 AlgorithmClass="Mac" RequirementLevel="RECOMMENDED"
                 JCEName="HmacSHA256"/>
      <Algorithm URI="http://www.w3.org/2000/09/xmldsig#rsa-sha1"
                 Description="RSA Signature with SHA-1 message digest"
                 AlgorithmClass="Signature" RequirementLevel="RECOMMENDED"
                 JCEName="SHA1withRSA"/>
      <Algorithm URI="http://www.w3.org/2001/04/xmldsig-more#rsa-sha256"
                 Description="RSA Signature with SHA-256 message digest"
                 AlgorithmClass="Signature" RequirementLevel="RECOMMENDED"
                 JCEName="SHA256withRSA"/>
    </Algorithms>
  </JCEAlgorithmMappings>

  <SignatureAlgorithms>
    <SignatureAlgorithm URI="http://www.w3.org/2000/09/xmldsig#dsa-sha1"
                        JAVACLASS="ulriksdal::crypto::DsaSha1"/>
    <SignatureAlgorithm URI="http://www.w3.org/2000/09/xmldsig#rsa-sha1"
                        JAVACLASS="ulriksdal::crypto::RsaSha1"/>
    <SignatureAlgorithm URI="http://www.w3.org/2001/04/xmldsig-more#rsa-sha256"
                        JAVACLASS="ulriksdal::crypto::RsaSha256"/>
    <SignatureAlgorithm URI="http://www.w3.org/2001/04/xmldsig-more#rsa-sha384"
                        JAVACLASS="ulriksdal::crypto::RsaSha384"/>
    <SignatureAlgorithm URI="http://www.w3.org/2001/04/xmldsig-more#rsa-sha512"
                        JAVACLASS="ulriksdal::crypto::RsaSha512"/>
    <SignatureAlgorithm URI="http://www.w3.org/2001/04/xmldsig-more#rsa-md5"
                        JAVACLASS="ulriksdal::crypto::RsaMd5"/>
    <SignatureAlgorithm URI="http://www.w3.org/2001/04/xmldsig-more#rsa-ripemd160"
                        JAVACLASS="ulriksdal::crypto::RsaRipemd160"/>
    <SignatureAlgorithm URI="http://www.w3.org/2001/04/xmldsig-more#ecdsa-sha1"
                        JAVACLASS="ulriksdal::crypto::EcdsaSha1"/>
    <SignatureAlgorithm URI="http://www.w3.org/2001/04/xmldsig-more#ecdsa-sha256"
                        JAVACLASS="ulriksdal::crypto::EcdsaSha256"/>
    <SignatureAlgorithm URI="http://www.w3.org/2001/04/xmldsig-more#ecdsa-sha384"
                        JAVACLASS="ulriksdal::crypto::EcdsaSha384"/>
    <SignatureAlgorithm URI="http://www.w3.org/2001/04/xmldsig-more#ecdsa-sha512"
                        JAVACLASS="ulriksdal::crypto::EcdsaSha512"/>
    <SignatureAlgorithm URI="http://www.w3.org/2000/09/xmldsig#hmac-sha1"
                        JAVACLASS="ulriksdal::crypto::HmacSha1"/>
    <SignatureAlgorithm URI="http://www.w3.org/2001/04/xmldsig-more#hmac-sha224"
                        JAVACLASS="ulriksdal::crypto::HmacSha224"/>
    <SignatureAlgorithm URI="http://www.w3.org/2001/04/xmldsig-more#hmac-sha256"
                        JAVACLASS="ulriksdal::crypto::HmacSha256"/>
    <SignatureAlgorithm URI="http://www.w3.org/2001/04/xmldsig-more#hmac-sha384"
                        JAVACLASS="ulriksdal::crypto::HmacSha384"/>
    <SignatureAlgorithm URI="http://www.w3.org/2001/04/xmldsig-more#hmac-sha512"
                        JAVACLASS="ulriksdal::crypto::HmacSha512"/>
    <SignatureAlgorithm URI="http://www.w3.org/2001/04/xmldsig-more#hmac-md5"
                        JAVACLASS="ulriksdal::crypto::HmacMd5"/>
    <SignatureAlgorithm URI="http://www.w3.org/2001/04/xmldsig-more#hmac-ripemd160"
                        JAVACLASS="ulriksdal::crypto::HmacRipemd160"/>
  </SignatureAlgorithms>

  <ResourceResolvers>
    <Resolver JAVACLASS="ulriksdal::resolver::LocalFile"
              DESCRIPTION="A resolver for file: URIs and paths relative to the document"/>
    <Resolver JAVACLASS="ulriksdal::resolver::Fragment"
              DESCRIPTION="A simple resolver for requests of same-document URIs"/>
    <Resolver JAVACLASS="ulriksdal::resolver::XPointer"
              DESCRIPTION="A simple resolver for requests of XPointer fragments"/>
    <Resolver JAVACLASS="ulriksdal::resolver::Http"
              DESCRIPTION="A simple resolver for requests to HTTP space"/>
  </ResourceResolvers>

  <KeyResolver>
    <Resolver JAVACLASS="ulriksdal::keys::KeyValue"
              DESCRIPTION="Public keys carried inline in KeyValue"/>
    <Resolver JAVACLASS="ulriksdal::keys::X509Certificate"
              DESCRIPTION="Public keys from embedded X.509 certificates"/>
    <Resolver JAVACLASS="ulriksdal::keys::KeyName"
              DESCRIPTION="Named keys from the caller's key store"/>
  </KeyResolver>

  <PrefixMappings>
    <PrefixMapping namespace="http://www.w3.org/2000/09/xmldsig#" prefix="ds"/>
    <PrefixMapping namespace="http://www.w3.org/2001/04/xmlenc#" prefix="xenc"/>
    <PrefixMapping namespace="http://www.xmlsecurity.org/experimental#" prefix="experimental"/>
    <PrefixMapping namespace="http://www.w3.org/2002/04/xmldsig-filter2" prefix="dsig-xpath-old"/>
    <PrefixMapping namespace="http://www.w3.org/2002/06/xmldsig-filter2" prefix="dsig-xpath"/>
    <PrefixMapping namespace="http://www.w3.org/2001/10/xml-exc-c14n#" prefix="ec"/>
    <PrefixMapping namespace="http://www.nue.et-inf.uni-siegen.de/~geuer-pollmann/#xpathFilter" prefix="xx"/>
    <PrefixMapping namespace="http://www.w3.org/2009/xmldsig11#" prefix="dsig11"/>
  </PrefixMappings>
</Configuration>
"#

end DsigRegistry
