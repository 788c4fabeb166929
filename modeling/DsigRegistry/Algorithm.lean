/-!
# Algorithm identifiers

The URIs that name algorithms in the `Algorithm` attributes of a signature and in the entries of
a configuration document.
-/

namespace DsigRegistry.Algorithm

/-! ### Canonicalization -/

def c14n : String := "http://www.w3.org/TR/2001/REC-xml-c14n-20010315"
def c14nWithComments : String := "http://www.w3.org/TR/2001/REC-xml-c14n-20010315#WithComments"
def c14n11 : String := "http://www.w3.org/2006/12/xml-c14n11"
def c14n11WithComments : String := "http://www.w3.org/2006/12/xml-c14n11#WithComments"
def excC14n : String := "http://www.w3.org/2001/10/xml-exc-c14n#"
def excC14nWithComments : String := "http://www.w3.org/2001/10/xml-exc-c14n#WithComments"

/-! ### Transforms -/

def base64 : String := "http://www.w3.org/2000/09/xmldsig#base64"
def envelopedSignature : String := "http://www.w3.org/2000/09/xmldsig#enveloped-signature"
def xpath : String := "http://www.w3.org/TR/1999/REC-xpath-19991116"
def xpath2 : String := "http://www.w3.org/2002/06/xmldsig-filter2"
def xpath2Draft : String := "http://www.w3.org/2002/04/xmldsig-filter2"
def xslt : String := "http://www.w3.org/TR/1999/REC-xslt-19991116"

/-! ### RSA signatures -/

def rsaSha1 : String := "http://www.w3.org/2000/09/xmldsig#rsa-sha1"
def rsaSha256 : String := "http://www.w3.org/2001/04/xmldsig-more#rsa-sha256"
def rsaSha384 : String := "http://www.w3.org/2001/04/xmldsig-more#rsa-sha384"
def rsaSha512 : String := "http://www.w3.org/2001/04/xmldsig-more#rsa-sha512"
def rsaMd5 : String := "http://www.w3.org/2001/04/xmldsig-more#rsa-md5"
def rsaRipemd160 : String := "http://www.w3.org/2001/04/xmldsig-more#rsa-ripemd160"

/-! ### DSA and ECDSA signatures -/

def dsaSha1 : String := "http://www.w3.org/2000/09/xmldsig#dsa-sha1"
def ecdsaSha1 : String := "http://www.w3.org/2001/04/xmldsig-more#ecdsa-sha1"
def ecdsaSha256 : String := "http://www.w3.org/2001/04/xmldsig-more#ecdsa-sha256"
def ecdsaSha384 : String := "http://www.w3.org/2001/04/xmldsig-more#ecdsa-sha384"
def ecdsaSha512 : String := "http://www.w3.org/2001/04/xmldsig-more#ecdsa-sha512"

/-! ### Message authentication codes -/

def hmacSha1 : String := "http://www.w3.org/2000/09/xmldsig#hmac-sha1"
def hmacSha224 : String := "http://www.w3.org/2001/04/xmldsig-more#hmac-sha224"
def hmacSha256 : String := "http://www.w3.org/2001/04/xmldsig-more#hmac-sha256"
def hmacSha384 : String := "http://www.w3.org/2001/04/xmldsig-more#hmac-sha384"
def hmacSha512 : String := "http://www.w3.org/2001/04/xmldsig-more#hmac-sha512"
def hmacMd5 : String := "http://www.w3.org/2001/04/xmldsig-more#hmac-md5"
def hmacRipemd160 : String := "http://www.w3.org/2001/04/xmldsig-more#hmac-ripemd160"

/-! ### Types of key values -/

def rsaKeyValue : String := "http://www.w3.org/2000/09/xmldsig#RSAKeyValue"
def dsaKeyValue : String := "http://www.w3.org/2000/09/xmldsig#DSAKeyValue"
def ecKeyValue : String := "http://www.w3.org/2009/xmldsig11#ECKeyValue"

/-- Every identifier under the name it goes by. -/
def all : List (String × String) :=
  [("C14N", c14n),
   ("C14N_WITH_COMMENTS", c14nWithComments),
   ("C14N11", c14n11),
   ("C14N11_WITH_COMMENTS", c14n11WithComments),
   ("EXC_C14N", excC14n),
   ("EXC_C14N_WITH_COMMENTS", excC14nWithComments),
   ("BASE64", base64),
   ("ENVELOPED_SIGNATURE", envelopedSignature),
   ("XPATH", xpath),
   ("XPATH2", xpath2),
   ("XPATH2_DRAFT", xpath2Draft),
   ("XSLT", xslt),
   ("RSA_SHA1", rsaSha1),
   ("RSA_SHA256", rsaSha256),
   ("RSA_SHA384", rsaSha384),
   ("RSA_SHA512", rsaSha512),
   ("RSA_MD5", rsaMd5),
   ("RSA_RIPEMD160", rsaRipemd160),
   ("DSA_SHA1", dsaSha1),
   ("ECDSA_SHA1", ecdsaSha1),
   ("ECDSA_SHA256", ecdsaSha256),
   ("ECDSA_SHA384", ecdsaSha384),
   ("ECDSA_SHA512", ecdsaSha512),
   ("HMAC_SHA1", hmacSha1),
   ("HMAC_SHA224", hmacSha224),
   ("HMAC_SHA256", hmacSha256),
   ("HMAC_SHA384", hmacSha384),
   ("HMAC_SHA512", hmacSha512),
   ("HMAC_MD5", hmacMd5),
   ("HMAC_RIPEMD160", hmacRipemd160),
   ("RSA_KEY_VALUE", rsaKeyValue),
   ("DSA_KEY_VALUE", dsaKeyValue),
   ("EC_KEY_VALUE", ecKeyValue)]

end DsigRegistry.Algorithm
