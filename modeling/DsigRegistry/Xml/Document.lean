/-!
# XML documents

A document is a tree of nodes over a type of names: the names as they are written, or the names
that they stand for once prefixes are resolved.
-/

namespace DsigRegistry.Xml

/-- A name as it is written, with its prefix; an empty prefix is none. -/
structure WrittenName where
  label : String
  localPart : String
deriving DecidableEq

/-- A name with the namespace that its prefix stands for. -/
structure Name where
  namespaceUri : Option String
  localPart : String
deriving DecidableEq

/-- A part of a document. -/
inductive Node (ν : Type) where
  /-- An element with its attributes, its content, and the text of the document it spans. -/
  | element (name : ν) (attributes : List (ν × String)) (children : List (Node ν))
      (source : String)
  | text (value : String)
  /-- Character data in which markup is not recognised. -/
  | cdata (value : String)
  | comment (value : String)
  | instruction (target value : String)

variable {ν : Type}

mutual

/-- The character data of a node, in document order. -/
def Node.characterData : Node ν → String
  | .element _ _ children _ => listCharacterData children
  | .text value | .cdata value => value
  | .comment _ | .instruction _ _ => ""

/-- The character data of nodes, in order. -/
def listCharacterData : List (Node ν) → String
  | [] => ""
  | node :: nodes => node.characterData ++ listCharacterData nodes

end

/-- An element by itself. -/
structure Element (ν : Type) where
  name : ν
  attributes : List (ν × String)
  children : List (Node ν)
  /-- The text of the document that the element spans. -/
  source : String

/-- The element that a node is. -/
def Node.element? : Node ν → Option (Element ν)
  | .element name attributes children source => some ⟨name, attributes, children, source⟩
  | .text _ | .cdata _ | .comment _ | .instruction _ _ => none

/-- The elements among nodes, in order. -/
def elements (nodes : List (Node ν)) : List (Element ν) :=
  nodes.filterMap Node.element?

/-- The character data within an element. -/
def Element.characterData (e : Element ν) : String :=
  listCharacterData e.children

/-- The value of the attribute with the name, which is outside every namespace. -/
def Element.attribute? (e : Element Name) (localPart : String) : Option String :=
  (e.attributes.find? fun a => a.1 = ⟨none, localPart⟩).map (·.2)

end DsigRegistry.Xml
