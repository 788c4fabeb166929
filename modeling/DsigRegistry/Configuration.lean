import DsigRegistry.Journal
import DsigRegistry.Namespace
import DsigRegistry.Text.Blank
import DsigRegistry.Xml.Scope

/-!
# Configuration documents

A configuration document lists what to register, section by section. Sections are known by their
local names and their entries by name and namespace; anything else is passed over. An entry whose
required attribute is absent or blank is skipped and noted.
-/

namespace DsigRegistry

/-- An entry to register; a resolver is registered under its implementation identifier. -/
structure Request where
  category : Category
  id : String
  implementation : String
  description : Option String
deriving DecidableEq

/-- A preferred prefix for a namespace. -/
structure PrefixMapping where
  uri : String
  label : String
deriving DecidableEq

/-- The default locale for diagnostics. -/
structure Locale where
  language : Option String
  country : Option String
deriving DecidableEq

/-- An entry that was dropped because a required attribute is absent or blank. -/
structure SkippedEntry where
  sectionName : String
  element : String
  missing : String
deriving DecidableEq

/-- What a configuration document says. -/
structure Configuration where
  /-- The entries to register, in document order. -/
  requests : List Request
  prefixMappings : List PrefixMapping
  locale : Option Locale
  /-- The element with the mappings for providers, as it is written. -/
  providerMappings : Option String
  skipped : List SkippedEntry
deriving DecidableEq

namespace Configuration

/-- What an entry of a section amounts to. -/
inductive Outcome where
  | request (r : Request)
  | mapping (m : PrefixMapping)
  | skipped (e : SkippedEntry)
deriving DecidableEq

namespace Outcome

/-- The request, if the entry is one. -/
def request? : Outcome → Option Request
  | .request r => some r
  | _ => none

/-- The prefix mapping, if the entry is one. -/
def mapping? : Outcome → Option PrefixMapping
  | .mapping m => some m
  | _ => none

/-- What was dropped, if the entry was. -/
def skipped? : Outcome → Option SkippedEntry
  | .skipped e => some e
  | _ => none

end Outcome

/-- The kinds of sections. -/
inductive SectionKind where
  | locale
  | algorithms (entryName : String) (category : Category)
  | resolvers (category : Category)
  | providerMappings
  | prefixMappings
  | unknown
deriving DecidableEq

/-- The kind of a section with the local name. -/
def SectionKind.ofName (name : String) : SectionKind :=
  if name = "ResourceBundles" then .locale
  else if name = "CanonicalizationMethods" then
    .algorithms "CanonicalizationMethod" .canonicalizer
  else if name = "TransformAlgorithms" then .algorithms "TransformAlgorithm" .transform
  else if name = "SignatureAlgorithms" then .algorithms "SignatureAlgorithm" .signatureAlgorithm
  else if name = "JCEAlgorithmMappings" then .providerMappings
  else if name = "ResourceResolvers" then .resolvers .resourceResolver
  else if name = "KeyResolver" then .resolvers .keyResolver
  else if name = "PrefixMappings" then .prefixMappings
  else .unknown

/-- The name of the entries of a section. -/
def SectionKind.entryName? : SectionKind → Option String
  | .algorithms entryName _ => some entryName
  | .resolvers _ => some "Resolver"
  | .prefixMappings => some "PrefixMapping"
  | .locale | .providerMappings | .unknown => none

/-- The trimmed value of an attribute, unless it is absent or blank. -/
def attribute? (entry : Xml.Element Xml.Name) (name : String) : Option String :=
  Text.nonBlank? (entry.attribute? name)

/-- The attribute that names the implementation. -/
def implementationAttribute : String := "JAVACLASS"

/-- The implementation that an entry names: by the usual attribute where it is present, by the
alternative one elsewhere. -/
def implementation? (entry : Xml.Element Xml.Name) : Option String :=
  Text.nonBlank?
    ((entry.attribute? implementationAttribute).or (entry.attribute? "Implementation"))

/-- What an entry amounts to in a section of the kind. -/
def outcome (kind : SectionKind) (sectionName : String) (entry : Xml.Element Xml.Name) : Outcome :=
  let skip (missing : String) : Outcome := .skipped ⟨sectionName, entry.name.localPart, missing⟩
  match kind with
  | .algorithms _ category =>
    match attribute? entry "URI" with
    | none => skip "URI"
    | some id =>
      match implementation? entry with
      | none => skip implementationAttribute
      | some implementation => .request ⟨category, id, implementation, none⟩
  | .resolvers category =>
    match implementation? entry with
    | none => skip implementationAttribute
    | some implementation =>
      .request ⟨category, implementation, implementation, attribute? entry "DESCRIPTION"⟩
  | _ =>
    match attribute? entry "namespace" with
    | none => skip "namespace"
    | some uri =>
      match attribute? entry "prefix" with
      | none => skip "prefix"
      | some label => .mapping ⟨uri, label⟩

/-- The entries of a section: its child elements of the right name, in the namespace of
configuration documents. -/
def entries (s : Xml.Element Xml.Name) : List (Xml.Element Xml.Name) :=
  match (SectionKind.ofName s.name.localPart).entryName? with
  | none => []
  | some entryName =>
    (Xml.elements s.children).filter fun e => e.name = ⟨some Namespace.configuration, entryName⟩

/-- What the entries of a section amount to, in order. -/
def outcomes (s : Xml.Element Xml.Name) : List Outcome :=
  (entries s).map (outcome (.ofName s.name.localPart) s.name.localPart)

/-- The events that a section gives rise to. -/
def sectionEvents (s : Xml.Element Xml.Name) : List Event :=
  if SectionKind.ofName s.name.localPart = .unknown then
    [.configurationSectionIgnored s.name.localPart]
  else
    (outcomes s).filterMap fun o => o.skipped?.map fun e =>
      .configurationEntrySkipped e.sectionName e.element e.missing

/-- The last section of the kind. -/
def lastOfKind? (sections : List (Xml.Element Xml.Name)) (kind : SectionKind) :
    Option (Xml.Element Xml.Name) :=
  (sections.filter fun s => SectionKind.ofName s.name.localPart = kind).getLast?

/-- What the sections of a document say. -/
def ofSections (sections : List (Xml.Element Xml.Name)) : Configuration where
  requests := (sections.flatMap outcomes).filterMap Outcome.request?
  prefixMappings := (sections.flatMap outcomes).filterMap Outcome.mapping?
  locale := (lastOfKind? sections .locale).map fun s =>
    ⟨s.attribute? "defaultLanguageCode", s.attribute? "defaultCountryCode"⟩
  providerMappings := (lastOfKind? sections .providerMappings).map (·.source)
  skipped := (sections.flatMap outcomes).filterMap Outcome.skipped?

/-- The sections of a document with the right root. Where the document is malformed, the words of
the XML reader for what is wrong are left out of the error. -/
def sections? (document : String) : Except Error (List (Xml.Element Xml.Name)) :=
  match Xml.parse? document with
  | none => .error (.configDocument "malformed XML")
  | some root =>
    if root.name.localPart = "Configuration" then .ok (Xml.elements root.children)
    else .error
      (.configDocument ("expected Configuration root, found " ++ root.name.localPart))

/-- What a document says, with the events that reading it gives rise to. -/
def parse (document : String) : Traced (Except Error Configuration) :=
  match sections? document with
  | .error e => return .error e
  | .ok sections => do
    (sections.flatMap sectionEvents).forM Traced.report
    return .ok (ofSections sections)

/-- The requests of a category, in document order. -/
def requestsIn (c : Configuration) (category : Category) : List Request :=
  c.requests.filter fun r => r.category = category

end Configuration

end DsigRegistry
