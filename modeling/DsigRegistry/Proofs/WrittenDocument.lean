import DsigRegistry.Xml.Scope

/-!
# Documents as they are written

The productions of XML with namespaces as data that carry their own conditions. Each has `chars`,
the text that it is written as. Trees have their character data, which is what XML says it is:
text and sections in document order, with references resolved and line ends turned into line
feeds.
-/

namespace DsigRegistry.Xml

/-! ### Names -/

/-- A name without a colon. -/
structure IsNcName (cs : List Char) : Prop where
  start : cs.head?.any isNameStart = true
  nameChar : cs.all (fun c => isNameChar c && c != ':') = true

/-- Both parts of the name are names; the prefix may be missing. -/
structure WrittenName.WellFormed (name : WrittenName) : Prop where
  label : name.label = "" ∨ IsNcName name.label.toList
  localPart : IsNcName name.localPart.toList

/-- The name with the colon behind its prefix. -/
def WrittenName.chars (name : WrittenName) : List Char :=
  if name.label = "" then name.localPart.toList
  else name.label.toList ++ ':' :: name.localPart.toList

namespace Written

/-- White space, which may be empty. -/
structure Space where
  chars : List Char
  isSpace : chars.all isSpace = true

/-! ### Text -/

/-- What stands between `&` and `;` in a reference to the character. -/
inductive RefersTo : List Char → Char → Prop
  | entity {name : List Char} {c : Char} (h : (name, c) ∈ entities) : RefersTo name c
  | decimal {digits : List Char} {c : Char} (hne : digits ≠ [])
      (hdigits : digits.all (fun d => (digitValue? 10 d).isSome) = true)
      (hnumber : numberOf 10 digits = c.toNat) (hc : isXmlChar c = true) :
      RefersTo ('#' :: digits) c
  | hexadecimal {digits : List Char} {c : Char} (hne : digits ≠ [])
      (hdigits : digits.all (fun d => (digitValue? 16 d).isSome) = true)
      (hnumber : numberOf 16 digits = c.toNat) (hc : isXmlChar c = true) :
      RefersTo ('#' :: 'x' :: digits) c

/-- A character of text or of an attribute value: itself, or a reference to it. -/
inductive Item where
  | plain (c : Char) (h : isXmlChar c = true ∧ c ≠ '<' ∧ c ≠ '&')
  | reference (body : List Char) (c : Char) (h : RefersTo body c)

def Item.chars : Item → List Char
  | .plain c _ => [c]
  | .reference body _ _ => '&' :: body ++ [';']

/-- What the items are written as. -/
def itemChars (items : List Item) : List Char :=
  items.flatMap Item.chars

/-- What the items stand for. Only the characters that stand for themselves are normalized. -/
def itemValue (normalize : Char → Option Char → List Char) : List Item → List Char
  | [] => []
  | .plain c _ :: items => normalize c (itemChars items).head? ++ itemValue normalize items
  | .reference _ c _ :: items => c :: itemValue normalize items

/-- Text without markup in it. -/
structure Run where
  items : List Item
  unclosed : ¬ [']', ']', '>'] <:+: itemChars items

def Run.chars (run : Run) : List Char :=
  itemChars run.items

def Run.characterData (run : Run) : List Char :=
  itemValue normalizeText run.items

/-! ### Tags -/

/-- An attribute with the white space in front of it. -/
structure Attribute where
  gap : Space
  gap_ne : gap.chars ≠ []
  name : WrittenName
  name_wf : name.WellFormed
  beforeEquals : Space
  afterEquals : Space
  quote : Char
  quote_eq : quote = '"' ∨ quote = '\''
  items : List Item
  unquoted : quote ∉ itemChars items

/-- The attribute behind its gap. -/
def Attribute.body (a : Attribute) : List Char :=
  a.name.chars ++ a.beforeEquals.chars ++ '=' :: a.afterEquals.chars ++
    a.quote :: itemChars a.items ++ [a.quote]

def Attribute.chars (a : Attribute) : List Char :=
  a.gap.chars ++ a.body

def Attribute.value (a : Attribute) : String :=
  String.ofList (itemValue normalizeAttribute a.items)

/-- The attribute with the value that it has. -/
def Attribute.pair (a : Attribute) : WrittenName × String :=
  (a.name, a.value)

/-- A tag that may have attributes, without its marks. -/
structure Tag where
  name : WrittenName
  name_wf : name.WellFormed
  attributes : List Attribute
  gap : Space

def Tag.chars (tag : Tag) : List Char :=
  tag.name.chars ++ tag.attributes.flatMap Attribute.chars ++ tag.gap.chars

def Tag.pairs (tag : Tag) : List (WrittenName × String) :=
  tag.attributes.map Attribute.pair

/-! ### Other markup -/

/-- A section in which markup is not recognised. -/
structure Section where
  text : List Char
  isXmlChar : text.all isXmlChar = true
  unclosed : ¬ [']', ']', '>'] <:+: text

def Section.chars (s : Section) : List Char :=
  ['<', '!', '[', 'C', 'D', 'A', 'T', 'A', '['] ++ s.text ++ [']', ']', '>']

def Section.characterData (s : Section) : List Char :=
  normalizeLines s.text

/-- A comment, in which two hyphens do not stand together. -/
structure Comment where
  text : List Char
  isXmlChar : text.all isXmlChar = true
  undashed : ¬ ['-', '-'] <:+: text
  ending : text.getLast? ≠ some '-'

def Comment.chars (c : Comment) : List Char :=
  ['<', '!', '-', '-'] ++ c.text ++ ['-', '-', '>']

/-- A processing instruction. It is not the XML declaration, for which the reader takes what has
a space behind `xml`. -/
structure Instruction where
  target : List Char
  target_start : target.head?.any isNameStart = true
  target_nameChar : target.all isNameChar = true
  gap : Space
  undeclared : target = ['x', 'm', 'l'] → gap.chars.head? ≠ some ' '
  text : List Char
  gap_ne : text ≠ [] → gap.chars ≠ []
  isXmlChar : text.all isXmlChar = true
  text_start : text.head?.all (fun c => !isSpace c) = true
  unclosed : ¬ ['?', '>'] <:+: text

def Instruction.chars (i : Instruction) : List Char :=
  ['<', '?'] ++ i.target ++ i.gap.chars ++ i.text ++ ['?', '>']

/-- Markup without character data, which may also stand outside the root element. -/
inductive Aside where
  | comment (c : Comment)
  | instruction (i : Instruction)

def Aside.chars : Aside → List Char
  | .comment c => c.chars
  | .instruction i => i.chars

/-! ### Trees -/

mutual

/-- An element: a tag by itself, or a start tag with content and an end tag of its name. -/
inductive Element where
  | empty (tag : Tag)
  | full (tag : Tag) (content : Content) (endGap : Space)

/-- What stands between tags: text, with markup between its runs. -/
inductive Content where
  | last (run : Run)
  | next (run : Run) (markup : Markup) (rest : Content)

/-- A piece of markup in content. -/
inductive Markup where
  | element (e : Element)
  | cdata (s : Section)
  | aside (a : Aside)

end

mutual

def Element.chars : Element → List Char
  | .empty tag => '<' :: tag.chars ++ ['/', '>']
  | .full tag content endGap =>
    '<' :: tag.chars ++ '>' :: content.chars ++
      '<' :: '/' :: tag.name.chars ++ endGap.chars ++ ['>']

def Content.chars : Content → List Char
  | .last run => run.chars
  | .next run markup rest => run.chars ++ markup.chars ++ rest.chars

def Markup.chars : Markup → List Char
  | .element e => e.chars
  | .cdata s => s.chars
  | .aside a => a.chars

end

mutual

def Element.characterData : Element → List Char
  | .empty _ => []
  | .full _ content _ => content.characterData

def Content.characterData : Content → List Char
  | .last run => run.characterData
  | .next run markup rest =>
    run.characterData ++ markup.characterData ++ rest.characterData

def Markup.characterData : Markup → List Char
  | .element e => e.characterData
  | .cdata s => s.characterData
  | .aside _ => []

end

/-! ### Namespaces -/

/-- The namespace that an attribute declares, with its prefix. -/
def declares? : WrittenName × String → Option (String × String)
  | (⟨label, localPart⟩, value) =>
    if label = "xmlns" then some (localPart, value)
    else if label = "" ∧ localPart = "xmlns" then some ("", value)
    else none

/-- The namespaces that a tag declares. -/
def Tag.declared (tag : Tag) : Scope :=
  tag.pairs.filterMap declares?

/-- The name that an attribute name stands for, where declarations have a namespace as well. -/
def expandedName? (scope : Scope) (name : WrittenName) : Option Name :=
  if name.label = "xmlns" then some ⟨some xmlnsUri, name.localPart⟩
  else attributeName? scope name

/-- The names of a tag within the declarations around it stand for something, and no two of its
attributes for the same. -/
structure Tag.Named (outer : Scope) (tag : Tag) : Prop where
  /-- The reserved namespaces are not declared, except that of `xml` under its own prefix. -/
  reserved : ∀ a ∈ tag.pairs, a.1.label = "xmlns" ∨ a.1.localPart = "xmlns" →
    a.2 ≠ xmlnsUri ∧ (a.2 = xmlUri ↔ a.1 = ⟨"xmlns", "xml"⟩)
  /-- The reserved prefixes name no elements. -/
  label : tag.name.label ≠ "xml" ∧ tag.name.label ≠ "xmlns"
  element : (Scope.namespaceOf? (tag.declared ++ outer) tag.name.label).isSome = true
  attributes : ∀ a ∈ tag.pairs, (expandedName? (tag.declared ++ outer) a.1).isSome = true
  once : (tag.pairs.map fun a => expandedName? (tag.declared ++ outer) a.1).Nodup

mutual

/-- Every tag of the element has declared names. -/
def Element.Named (outer : Scope) : Element → Prop
  | .empty tag => tag.Named outer
  | .full tag content _ => tag.Named outer ∧ content.Named (tag.declared ++ outer)

def Content.Named (scope : Scope) : Content → Prop
  | .last _ => True
  | .next _ markup rest => markup.Named scope ∧ rest.Named scope

def Markup.Named (scope : Scope) : Markup → Prop
  | .element e => e.Named scope
  | .cdata _ | .aside _ => True

end

/-! ### Documents -/

/-- What may stand around the root element. -/
structure Misc where
  asides : List (Space × Aside)
  gap : Space

def Misc.chars (misc : Misc) : List Char :=
  misc.asides.flatMap (fun (gap, aside) => gap.chars ++ aside.chars) ++ misc.gap.chars

/-- The XML declaration; the reader takes it for one by the space behind its opening mark. -/
structure Declaration where
  version : Attribute
  version_name : version.name = ⟨"", "version"⟩
  version_gap : version.gap.chars.head? = some ' '
  encoding : Option Attribute
  encoding_name : ∀ a ∈ encoding, a.name = ⟨"", "encoding"⟩
  standalone : Option Attribute
  standalone_name : ∀ a ∈ standalone, a.name = ⟨"", "standalone"⟩
  gap : Space

def Declaration.chars (d : Declaration) : List Char :=
  ['<', '?', 'x', 'm', 'l'] ++ d.version.chars ++ (d.encoding.map Attribute.chars).getD [] ++
    (d.standalone.map Attribute.chars).getD [] ++ d.gap.chars ++ ['?', '>']

/-- A document without a document type declaration. -/
structure Document where
  /-- A byte order mark comes first. -/
  mark : Bool
  declaration : Option Declaration
  prolog : Misc
  root : Element
  epilog : Misc
  named : root.Named []

def Document.chars (d : Document) : List Char :=
  (if d.mark then ['\uFEFF'] else []) ++ (d.declaration.map Declaration.chars).getD [] ++
    d.prolog.chars ++ d.root.chars ++ d.epilog.chars

/-- The document as a text. -/
def Document.text (d : Document) : String :=
  String.ofList d.chars

/-- The character data of the root element. -/
def Document.characterData (d : Document) : String :=
  String.ofList d.root.characterData

end Written

end DsigRegistry.Xml
