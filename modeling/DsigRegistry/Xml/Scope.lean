import DsigRegistry.Xml.Markup

/-!
# Namespaces of a document

Attributes that declare namespaces are taken out of the tree, and the prefixes of the other names
are replaced by the namespaces that they stand for. A document with an undeclared prefix, a
declaration of a reserved name, or two attributes of one name is not well formed.
-/

namespace DsigRegistry.Xml

/-- The namespace that the prefix `xml` always stands for. -/
def xmlUri : String := "http://www.w3.org/XML/1998/namespace"

/-- The namespace of namespace declarations, which cannot be declared. -/
def xmlnsUri : String := "http://www.w3.org/2000/xmlns/"

/-- Prefixes in force with their namespaces, the innermost first; the empty prefix stands for the
default namespace. -/
abbrev Scope := List (String × String)

/-- The namespaces that the attributes of an element declare, in order. -/
def declarations? : List (WrittenName × String) → Option Scope
  | [] => some []
  | (name, uri) :: rest => do
    let later ← declarations? rest
    if name.label = "xmlns" then
      guard (uri ≠ xmlnsUri)
      guard (name.localPart = "xml" ↔ uri = xmlUri)
      if name.localPart = "xml" then return later
      guard (later.all fun d => d.1 != name.localPart)
      return (name.localPart, uri) :: later
    else if name.localPart = "xmlns" then
      guard (uri ≠ xmlUri ∧ uri ≠ xmlnsUri)
      return ("", uri) :: later
    else return later

/-- The attribute declares a namespace. -/
def isDeclaration (name : WrittenName) : Bool :=
  name.label = "xmlns" || name.localPart = "xmlns"

/-- The namespace that a prefix stands for; only the empty prefix may stand for none. -/
def Scope.namespaceOf? (scope : Scope) (label : String) : Option (Option String) :=
  match scope.find? fun d => d.1 == label with
  | some d => some (some d.2)
  | none => if label = "" then some none else none

/-- The name that an element name stands for. -/
def elementName? (scope : Scope) (name : WrittenName) : Option Name := do
  guard (name.label ≠ "xmlns")
  let uri ← scope.namespaceOf? name.label
  return ⟨uri, name.localPart⟩

/-- The name that an attribute name stands for. The default namespace does not apply to it. -/
def attributeName? (scope : Scope) (name : WrittenName) : Option Name :=
  if name.label = "xml" then some ⟨some xmlUri, name.localPart⟩
  else if name.label = "" then some ⟨none, name.localPart⟩
  else (scope.namespaceOf? name.label).map fun uri => ⟨uri, name.localPart⟩

/-- The attributes that are no declarations, under the names they stand for, each once. -/
def resolveAttributes? (scope : Scope) :
    List (WrittenName × String) → Option (List (Name × String))
  | [] => some []
  | (name, value) :: rest => do
    let later ← resolveAttributes? scope rest
    if isDeclaration name then return later
    let name ← attributeName? scope name
    guard (later.all fun a => a.1 ≠ name)
    return (name, value) :: later

mutual

/-- The node with the names that its names stand for. -/
def resolve? (scope : Scope) : Node WrittenName → Option (Node Name)
  | .element name attributes children source => do
    let declared ← declarations? attributes
    let scope := declared ++ scope
    let name ← elementName? scope name
    let attributes ← resolveAttributes? scope attributes
    let children ← resolveList? scope children
    return .element name attributes children source
  | .text value => some (.text value)
  | .cdata value => some (.cdata value)
  | .comment value => some (.comment value)
  | .instruction target value => some (.instruction target value)

/-- The nodes with the names that their names stand for. -/
def resolveList? (scope : Scope) : List (Node WrittenName) → Option (List (Node Name))
  | [] => some []
  | node :: nodes => do
    let node ← resolve? scope node
    let nodes ← resolveList? scope nodes
    return node :: nodes

end

/-- The root element of a well-formed document. -/
def parse? (document : String) : Option (Element Name) := do
  let root ← markup? document.toList
  let root ← resolve? [] root
  root.element?

end DsigRegistry.Xml
