import DsigRegistry.Bootstrap.Defaults
import DsigRegistry.Proofs.Accounting

/-!
# What the bundled document says

The sections of the bundled document list the default transforms and prefixes, the default
signature algorithms and one more, and canonicalizers and resolvers, of which there are none by
default. What a section says can be told from the start tags in it, and these are read off the
document by evaluation. Main fact: `Bundled.sections?_bundled`.
-/

namespace DsigRegistry

namespace Text

/-! ### Texts that are given -/

theorem trim_of_trimmed {s : String} (h : Trimmed s) : trim s = s := by
  have hfirst : s.toList.dropWhile isBlank = s.toList := by
    cases hs : s.toList with
    | nil => rfl
    | cons c cs => simp [h.first c (by simp [hs])]
  have hlast : s.toList.rdropWhile isBlank = s.toList := by
    rw [List.rdropWhile_eq_self_iff]
    intro hne
    simp [h.last _ (List.getLast?_eq_getLast_of_ne_nil hne)]
  rw [trim, trimChars_eq_rdropWhile, hfirst, hlast, String.ofList_toList]

theorem nonBlank?_of_trimmed {s : String} (h : Trimmed s) : nonBlank? (some s) = some s := by
  simp [nonBlank?, trim_of_trimmed h, h.ne_empty]

/-- The first character and the last one are there and no blanks. -/
def trimmedChars (cs : List Char) : Bool :=
  (cs.head?.any fun c => !isBlank c) && cs.reverse.head?.any fun c => !isBlank c

theorem trimmed_of_chars {s : String} {cs : List Char} (h : s = String.ofList cs)
    (hcs : trimmedChars cs = true) : Trimmed s := by
  subst h
  rw [trimmedChars, Bool.and_eq_true, List.head?_reverse, Option.any_eq_true,
    Option.any_eq_true] at hcs
  obtain ⟨⟨first, hfirst, hfirst'⟩, last, hlast, hlast'⟩ := hcs
  have hne : cs ≠ [] := by
    rintro rfl
    cases hfirst
  exact ⟨by simpa using hne, by simpa [hfirst] using hfirst', by simpa [hlast] using hlast'⟩

end Text

/-- The sections of a document with the right root are those of the root. -/
theorem Provider.sections?_of_root {p : Provider} {path document : String}
    {root : Xml.Element Xml.Name} (h : p.document path = .ok document)
    (hparse : Xml.parse? document = some root) (hname : root.name.localPart = "Configuration") :
    p.sections? path = .ok (Xml.elements root.children) := by
  have hsections : Configuration.sections? document = .ok (Xml.elements root.children) := by
    simp only [Configuration.sections?, hparse, hname, if_true]
  rw [Provider.sections?, h]
  exact hsections

namespace Configuration

/-- The entries of a table as requests for resolvers of the category. -/
def resolversOf (category : Category) (table : List (String × String)) : List Request :=
  table.map fun (implementation, description) =>
    ⟨category, implementation, implementation, some description⟩

/-- The entries of a table as prefix mappings. -/
def mappingsOf (table : List (String × String)) : List PrefixMapping :=
  table.map fun (uri, label) => ⟨uri, label⟩

/-! ### Start tags -/

/-- A start tag. -/
structure Tag where
  name : Xml.Name
  attributes : List (Xml.Name × String)
deriving DecidableEq

namespace Tag

/-- The start tag of an element. -/
def ofElement (e : Xml.Element Xml.Name) : Tag := ⟨e.name, e.attributes⟩

/-- The element that has nothing in it. -/
def element (t : Tag) : Xml.Element Xml.Name := ⟨t.name, t.attributes, [], ""⟩

/-- The start tag as a configuration document has it. -/
def configuration (name : String) (attributes : List (String × String)) : Tag where
  name := ⟨some Namespace.configuration, name⟩
  attributes := attributes.map fun (name, value) => (⟨none, name⟩, value)

end Tag

/-- The start tag of a section and those of the elements in it. -/
structure Listing where
  tag : Tag
  entries : List Tag
deriving DecidableEq

namespace Listing

/-- The start tags of a section. -/
def ofSection (s : Xml.Element Xml.Name) : Listing where
  tag := .ofElement s
  entries := (Xml.elements s.children).map .ofElement

/-- What the entries amount to, in order. -/
def outcomes (l : Listing) : List Outcome :=
  l.entries.filterMap fun t => outcome? l.tag.element t.element

/-- A section with a table of algorithms and their implementations. -/
def algorithms (sectionName entryName : String) (table : List (String × String)) : Listing where
  tag := .configuration sectionName []
  entries := table.map fun (id, implementation) =>
    .configuration entryName [("URI", id), ("JAVACLASS", implementation)]

/-- A section with a table of resolvers and their descriptions. -/
def resolvers (sectionName : String) (table : List (String × String)) : Listing where
  tag := .configuration sectionName []
  entries := table.map fun (implementation, description) =>
    .configuration "Resolver" [("JAVACLASS", implementation), ("DESCRIPTION", description)]

/-- A section with a table of namespaces and their prefixes. -/
def prefixes (table : List (String × String)) : Listing where
  tag := .configuration "PrefixMappings" []
  entries := table.map fun (uri, label) =>
    .configuration "PrefixMapping" [("namespace", uri), ("prefix", label)]

/-- What a section says can be told from its start tags. -/
theorem outcomes_ofSection (s : Xml.Element Xml.Name) :
    (ofSection s).outcomes = Configuration.outcomes s := by
  rw [outcomes_eq_filterMap, outcomes, ofSection, List.filterMap_map]
  rfl

theorem flatMap_outcomes_ofSection (ss : List (Xml.Element Xml.Name)) :
    (ss.map ofSection).flatMap outcomes = ss.flatMap Configuration.outcomes := by
  rw [List.flatMap_map]
  exact congrArg (ss.flatMap ·) (funext outcomes_ofSection)

/-- What is read off the last section of a kind, if it stands in the start tag, can be told from the
start tags. -/
theorem lastOfKind?_map_ofSection (ss : List (Xml.Element Xml.Name)) (kind : SectionKind) :
    (lastOfKind? ss kind).map ofSection = ((ss.map ofSection).filter fun l =>
      SectionKind.ofName l.tag.name.localPart = kind).getLast? := by
  rw [lastOfKind?, ← List.getLast?_map, List.filter_map]
  rfl

/-- If the rows of a table are written as entries, the section amounts to what they amount to. -/
theorem outcomes_rows {ρ : Type} {t : Tag} {tag : ρ → Tag} {o : ρ → Outcome} {rows : List ρ}
    (h : ∀ row ∈ rows, outcome? t.element (tag row).element = some (o row)) :
    outcomes ⟨t, rows.map tag⟩ = rows.map o := by
  rw [outcomes, List.filterMap_map, ← List.filterMap_eq_map (f := o)]
  exact List.filterMap_congr h

theorem outcomes_of_no_entries {l : Listing}
    (h : (SectionKind.ofName l.tag.name.localPart).entryName? = none) : l.outcomes = [] := by
  rw [outcomes, List.filterMap_eq_nil_iff]
  intro t _
  have helement : (SectionKind.ofName l.tag.element.name.localPart).entryName? = none := h
  rw [outcome?, helement]

/-- The texts in the rows of a table are trimmed. -/
def Clean (table : List (String × String)) : Prop :=
  ∀ row ∈ table, Text.Trimmed row.1 ∧ Text.Trimmed row.2

variable {sectionName entryName : String} {category : Category} {table : List (String × String)}

theorem clean_nil : Clean [] := List.forall_mem_nil _

theorem clean_cons {row : String × String} :
    Clean (row :: table) ↔ (Text.Trimmed row.1 ∧ Text.Trimmed row.2) ∧ Clean table :=
  List.forall_mem_cons

theorem outcomes_algorithms
    (hkind : SectionKind.ofName sectionName = .algorithms entryName category)
    (htable : Clean table) :
    (algorithms sectionName entryName table).outcomes =
      (Defaults.requestsOf category table).map .request := by
  rw [Defaults.requestsOf, List.map_map]
  refine outcomes_rows fun ⟨id, implementation⟩ hrow => ?_
  obtain ⟨hid, himplementation⟩ : Text.Trimmed id ∧ Text.Trimmed implementation := htable _ hrow
  simp [outcome?, outcome, hkind, Tag.element, Tag.configuration, SectionKind.entryName?,
    attribute?, implementation?, implementationAttribute, Xml.Element.attribute?,
    Text.nonBlank?_of_trimmed hid, Text.nonBlank?_of_trimmed himplementation]

theorem outcomes_resolvers (hkind : SectionKind.ofName sectionName = .resolvers category)
    (htable : Clean table) :
    (resolvers sectionName table).outcomes = (resolversOf category table).map .request := by
  rw [resolversOf, List.map_map]
  refine outcomes_rows fun ⟨implementation, description⟩ hrow => ?_
  obtain ⟨himplementation, hdescription⟩ : Text.Trimmed implementation ∧ Text.Trimmed description :=
    htable _ hrow
  simp [outcome?, outcome, hkind, Tag.element, Tag.configuration, SectionKind.entryName?,
    attribute?, implementation?, implementationAttribute, Xml.Element.attribute?,
    Text.nonBlank?_of_trimmed himplementation, Text.nonBlank?_of_trimmed hdescription]

theorem outcomes_prefixes (htable : Clean table) :
    (prefixes table).outcomes = (mappingsOf table).map .mapping := by
  rw [mappingsOf, List.map_map]
  refine outcomes_rows fun ⟨uri, label⟩ hrow => ?_
  obtain ⟨huri, hlabel⟩ : Text.Trimmed uri ∧ Text.Trimmed label := htable _ hrow
  have hkind : SectionKind.ofName "PrefixMappings" = .prefixMappings := by decide
  simp [outcome?, outcome, hkind, Tag.element, Tag.configuration, SectionKind.entryName?,
    attribute?, Xml.Element.attribute?, Text.nonBlank?_of_trimmed huri,
    Text.nonBlank?_of_trimmed hlabel]

end Listing

end Configuration

namespace Bundled

open DsigRegistry.Configuration

/-! ### The tables of the bundled document -/

/-- The implementations of canonicalizers. -/
def canonicalizers : List (String × String) :=
  [(Algorithm.c14n, ImplementationId.c14n),
   (Algorithm.c14nWithComments, ImplementationId.c14nWithComments),
   (Algorithm.c14n11, ImplementationId.c14n11),
   (Algorithm.c14n11WithComments, ImplementationId.c14n11WithComments),
   (Algorithm.excC14n, ImplementationId.excC14n),
   (Algorithm.excC14nWithComments, ImplementationId.excC14nWithComments)]

/-- The implementations of signature algorithms. -/
def signatureAlgorithms : List (String × String) :=
  [(Algorithm.dsaSha1, ImplementationId.dsaSha1), (Algorithm.rsaSha1, ImplementationId.rsaSha1),
   (Algorithm.rsaSha256, ImplementationId.rsaSha256),
   (Algorithm.rsaSha384, ImplementationId.rsaSha384),
   (Algorithm.rsaSha512, ImplementationId.rsaSha512),
   (Algorithm.rsaMd5, ImplementationId.rsaMd5),
   (Algorithm.rsaRipemd160, ImplementationId.rsaRipemd160),
   (Algorithm.ecdsaSha1, ImplementationId.ecdsaSha1),
   (Algorithm.ecdsaSha256, ImplementationId.ecdsaSha256),
   (Algorithm.ecdsaSha384, ImplementationId.ecdsaSha384),
   (Algorithm.ecdsaSha512, ImplementationId.ecdsaSha512),
   (Algorithm.hmacSha1, ImplementationId.hmacSha1),
   (Algorithm.hmacSha224, ImplementationId.hmacSha224),
   (Algorithm.hmacSha256, ImplementationId.hmacSha256),
   (Algorithm.hmacSha384, ImplementationId.hmacSha384),
   (Algorithm.hmacSha512, ImplementationId.hmacSha512),
   (Algorithm.hmacMd5, ImplementationId.hmacMd5),
   (Algorithm.hmacRipemd160, ImplementationId.hmacRipemd160)]

/-- The implementations of resource resolvers and what they are said to do. -/
def resourceResolvers : List (String × String) :=
  [(ImplementationId.localFile, "A resolver for file: URIs and paths relative to the document"),
   (ImplementationId.fragment, "A simple resolver for requests of same-document URIs"),
   (ImplementationId.xpointer, "A simple resolver for requests of XPointer fragments"),
   (ImplementationId.http, "A simple resolver for requests to HTTP space")]

/-- The implementations of key resolvers and what they are said to do. -/
def keyResolvers : List (String × String) :=
  [(ImplementationId.keyValue, "Public keys carried inline in KeyValue"),
   (ImplementationId.x509Certificate, "Public keys from embedded X.509 certificates"),
   (ImplementationId.keyName, "Named keys from the caller's key store")]

/-- The preferred prefixes of namespaces. -/
def namespaces : List (String × String) :=
  Defaults.namespaces ++ [(Namespace.dsig11, "dsig11")]

/-- The section with the locale. -/
def localeListing : Listing :=
  ⟨.configuration "ResourceBundles"
    [("defaultLanguageCode", "en"), ("defaultCountryCode", "US")], []⟩

/-- The section with the mappings for providers. -/
def providersListing : Listing :=
  ⟨.configuration "JCEAlgorithmMappings" [], [.configuration "Algorithms" []]⟩

/-- The sections of the bundled document. Its transforms are the default ones. -/
def listings : List Listing :=
  [localeListing,
   .algorithms "CanonicalizationMethods" "CanonicalizationMethod" canonicalizers,
   .algorithms "TransformAlgorithms" "TransformAlgorithm" Defaults.transforms,
   providersListing,
   .algorithms "SignatureAlgorithms" "SignatureAlgorithm" signatureAlgorithms,
   .resolvers "ResourceResolvers" resourceResolvers,
   .resolvers "KeyResolver" keyResolvers,
   .prefixes namespaces]

/-- The requests of the bundled document, in document order. -/
def requests : List Request :=
  Defaults.requestsOf .canonicalizer canonicalizers ++
    Defaults.requestsOf .transform Defaults.transforms ++
    Defaults.requestsOf .signatureAlgorithm signatureAlgorithms ++
    resolversOf .resourceResolver resourceResolvers ++ resolversOf .keyResolver keyResolvers

/-! ### Reading the bundled document -/

/-- The name of the root of a document and the start tags of its sections. -/
def listings? (cs : List Char) : Option (String × List Listing) := do
  let root ← Xml.markup? cs
  let root ← Xml.resolve? [] root
  let root ← root.element?
  return (root.name.localPart, (Xml.elements root.children).map .ofSection)

theorem listings?_toList (document : String) :
    listings? document.toList = (Xml.parse? document).map fun root =>
      (root.name.localPart, (Xml.elements root.children).map .ofSection) := by
  unfold listings? Xml.parse?
  cases Xml.markup? document.toList with
  | none => rfl
  | some root =>
    dsimp only [Option.bind_eq_bind, Option.bind_some]
    cases Xml.resolve? [] root with
    | none => rfl
    | some root =>
      dsimp only [Option.bind_some]
      cases root.element? with
      | none => rfl
      | some root => rfl

/-- What is to be shown of the characters of a text may be shown of the characters that it is made
of. Evaluation does not get from a long text to its characters itself. -/
theorem of_chars {s : String} {P : List Char → Bool} {cs : List Char} (h : s = String.ofList cs)
    (hP : P cs = true) : P s.toList = true := by
  subst h
  rwa [String.toList_ofList]

set_option maxRecDepth 100000 in
theorem listings?_bundledDocument :
    listings? bundledDocument.toList = some ("Configuration", listings) :=
  of_decide_eq_true (of_chars (s := bundledDocument)
    (P := fun cs => decide (listings? cs = some ("Configuration", listings)))
    (by unfold bundledDocument; rfl) (by decide +kernel))

theorem clean_canonicalizers : Listing.Clean canonicalizers := by
  simp only [canonicalizers, Listing.clean_cons, Listing.clean_nil, and_true]
  and_intros <;> exact Text.trimmed_of_chars rfl (by decide)

theorem clean_transforms : Listing.Clean Defaults.transforms := by
  simp only [Defaults.transforms, Listing.clean_cons, Listing.clean_nil, and_true]
  and_intros <;> exact Text.trimmed_of_chars rfl (by decide)

theorem clean_signatureAlgorithms : Listing.Clean signatureAlgorithms := by
  simp only [signatureAlgorithms, Listing.clean_cons, Listing.clean_nil, and_true]
  and_intros <;> exact Text.trimmed_of_chars rfl (by decide)

theorem clean_resourceResolvers : Listing.Clean resourceResolvers := by
  simp only [resourceResolvers, Listing.clean_cons, Listing.clean_nil, and_true]
  and_intros <;> exact Text.trimmed_of_chars rfl (by decide)

theorem clean_keyResolvers : Listing.Clean keyResolvers := by
  simp only [keyResolvers, Listing.clean_cons, Listing.clean_nil, and_true]
  and_intros <;> exact Text.trimmed_of_chars rfl (by decide)

theorem clean_namespaces : Listing.Clean namespaces := by
  simp only [namespaces, Defaults.namespaces, List.cons_append, List.nil_append,
    Listing.clean_cons, Listing.clean_nil, and_true]
  and_intros <;> exact Text.trimmed_of_chars rfl (by decide)

/-- The entries amount to the requests and the prefix mappings of the tables. -/
theorem flatMap_outcomes_listings :
    listings.flatMap Listing.outcomes =
      requests.map .request ++ (mappingsOf namespaces).map .mapping := by
  have hlocale : localeListing.outcomes = [] := rfl
  have hcanonicalizers := Listing.outcomes_algorithms (show SectionKind.ofName
    "CanonicalizationMethods" = .algorithms "CanonicalizationMethod" .canonicalizer by decide)
    clean_canonicalizers
  have htransforms := Listing.outcomes_algorithms (show SectionKind.ofName
    "TransformAlgorithms" = .algorithms "TransformAlgorithm" .transform by decide)
    clean_transforms
  have hproviders : providersListing.outcomes = [] := Listing.outcomes_of_no_entries (by decide)
  have hsignatures := Listing.outcomes_algorithms (show SectionKind.ofName
    "SignatureAlgorithms" = .algorithms "SignatureAlgorithm" .signatureAlgorithm by decide)
    clean_signatureAlgorithms
  have hresources := Listing.outcomes_resolvers (show SectionKind.ofName
    "ResourceResolvers" = .resolvers .resourceResolver by decide) clean_resourceResolvers
  have hkeys := Listing.outcomes_resolvers (show SectionKind.ofName
    "KeyResolver" = .resolvers .keyResolver by decide) clean_keyResolvers
  simp only [listings, List.flatMap_cons, List.flatMap_nil, hlocale, hcanonicalizers, htransforms,
    hproviders, hsignatures, hresources, hkeys, Listing.outcomes_prefixes clean_namespaces,
    requests, List.map_append, List.append_assoc, List.nil_append, List.append_nil]

theorem locale_of_listings {ss : List (Xml.Element Xml.Name)}
    (h : ss.map Listing.ofSection = listings) : (ofSections ss).locale = some Defaults.locale := by
  have hlast := Listing.lastOfKind?_map_ofSection ss .locale
  rw [h] at hlast
  have honly : (listings.filter fun l =>
      SectionKind.ofName l.tag.name.localPart = .locale).getLast? = some localeListing := rfl
  obtain ⟨s, hs, hlisting⟩ := Option.map_eq_some_iff.1 (hlast.trans honly)
  have hattributes : s.attributes = localeListing.tag.attributes :=
    congrArg (·.tag.attributes) hlisting
  simp [ofSections, hs, Xml.Element.attribute?, hattributes, localeListing, Tag.configuration,
    Defaults.locale]

theorem document_bundled :
    Provider.bundled.document Options.defaultPath = .ok bundledDocument := by
  simp only [Provider.bundled, if_true]

/-- The bundled document can be read. It requests the entries of its tables and maps its namespaces
to their prefixes, its locale is the default one, and none of its entries is skipped. -/
theorem sections?_bundled : ∃ ss,
    Provider.bundled.sections? Options.defaultPath = .ok ss ∧
    (ofSections ss).requests = requests ∧
    (ofSections ss).prefixMappings = mappingsOf namespaces ∧
    (ofSections ss).locale = some Defaults.locale ∧
    (ofSections ss).skipped = [] := by
  have hlistings := (listings?_toList bundledDocument).symm.trans listings?_bundledDocument
  obtain ⟨root, hparse, hroot⟩ := Option.map_eq_some_iff.1 hlistings
  obtain ⟨hname, hss⟩ := Prod.mk.inj hroot
  have houtcomes : (Xml.elements root.children).flatMap outcomes =
      requests.map .request ++ (mappingsOf namespaces).map .mapping := by
    rw [← Listing.flatMap_outcomes_ofSection, hss, flatMap_outcomes_listings]
  refine ⟨_, Provider.sections?_of_root document_bundled hparse hname, ?_, ?_,
    locale_of_listings hss, ?_⟩
  · simp [ofSections, houtcomes, Function.comp_def, Outcome.request?]
  · simp [ofSections, houtcomes, Function.comp_def, Outcome.mapping?]
  · simp [ofSections, houtcomes, Function.comp_def, Outcome.skipped?]

end Bundled

end DsigRegistry
