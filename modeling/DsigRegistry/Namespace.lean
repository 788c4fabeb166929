/-!
# Namespaces

The XML namespaces that configuration documents and signatures use.
-/

namespace DsigRegistry.Namespace

/-- Namespace of the registry configuration document. -/
def configuration : String := "http://www.xmlsecurity.org/NS/#configuration"

/-- XML Digital Signature namespace. -/
def dsig : String := "http://www.w3.org/2000/09/xmldsig#"

/-- XML Digital Signature 1.1 namespace. -/
def dsig11 : String := "http://www.w3.org/2009/xmldsig11#"

/-- XML Encryption namespace. -/
def enc : String := "http://www.w3.org/2001/04/xmlenc#"

/-- Exclusive C14N namespace. -/
def excC14n : String := "http://www.w3.org/2001/10/xml-exc-c14n#"

/-- XPath Filter 2.0 namespace. -/
def xpath2 : String := "http://www.w3.org/2002/06/xmldsig-filter2"

/-- XPath Filter 2.0 namespace from the 2002/04 draft. -/
def xpath2Draft : String := "http://www.w3.org/2002/04/xmldsig-filter2"

/-- Experimental extensions namespace. -/
def experimental : String := "http://www.xmlsecurity.org/experimental#"

/-- Pre-standard XPath filter namespace. -/
def xpathFilterLegacy : String := "http://www.nue.et-inf.uni-siegen.de/~geuer-pollmann/#xpathFilter"

/-- Every namespace under the name it goes by. -/
def all : List (String × String) :=
  [("CONFIGURATION", configuration),
   ("DSIG", dsig),
   ("DSIG11", dsig11),
   ("ENC", enc),
   ("EXC_C14N", excC14n),
   ("XPATH2", xpath2),
   ("XPATH2_DRAFT", xpath2Draft),
   ("EXPERIMENTAL", experimental),
   ("XPATH_FILTER_LEGACY", xpathFilterLegacy)]

end DsigRegistry.Namespace
