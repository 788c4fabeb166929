import DsigRegistry.Proofs.Blank
import DsigRegistry.Proofs.Isolation
import DsigRegistry.Proofs.OwnName

/-!
# What the entries of a document amount to

The entries of a document are found by walking the children of its root and of the sections among
them. Each entry amounts to one request, to one prefix mapping, or to one note that it was skipped,
and a document says nothing but what its entries amount to and what its last sections for the
locale and for providers have. Main fact: `parse_accounts`.
-/

namespace DsigRegistry.Configuration

/-- What the entries of a section are for. -/
inductive Purpose where
  | algorithm (category : Category)
  | resolver (category : Category)
  | prefixMapping
deriving DecidableEq

/-- The local names of the sections that have entries, with the local names of the entries and
what these are for. -/
def sectionTable : List (String × String × Purpose) :=
  [("CanonicalizationMethods", "CanonicalizationMethod", .algorithm .canonicalizer),
   ("TransformAlgorithms", "TransformAlgorithm", .algorithm .transform),
   ("SignatureAlgorithms", "SignatureAlgorithm", .algorithm .signatureAlgorithm),
   ("ResourceResolvers", "Resolver", .resolver .resourceResolver),
   ("KeyResolver", "Resolver", .resolver .keyResolver),
   ("PrefixMappings", "PrefixMapping", .prefixMapping)]

/-- What an element is for in a section with the local name, if it is an entry there. -/
def purpose? (sectionName : String) (name : Xml.Name) : Option Purpose :=
  match sectionTable.lookup sectionName with
  | none => none
  | some (entryName, purpose) =>
    if name = ⟨some Namespace.configuration, entryName⟩ then some purpose else none

/-- An entry in its section. -/
structure Entry where
  parent : Xml.Element Xml.Name
  element : Xml.Element Xml.Name
  purpose : Purpose
  isEntry : purpose? parent.name.localPart element.name = some purpose

/-- The entries among the children of a section, in document order. -/
def entriesAmong (s : Xml.Element Xml.Name) : List (Xml.Node Xml.Name) → List Entry
  | [] => []
  | .element name attributes children source :: nodes =>
    match h : purpose? s.name.localPart name with
    | some purpose => ⟨s, ⟨name, attributes, children, source⟩, purpose, h⟩ :: entriesAmong s nodes
    | none => entriesAmong s nodes
  | .text _ :: nodes | .cdata _ :: nodes | .comment _ :: nodes | .instruction _ _ :: nodes =>
    entriesAmong s nodes

/-- The entries of the sections among the children of the root, in document order. -/
def entriesBelow : List (Xml.Node Xml.Name) → List Entry
  | [] => []
  | .element name attributes children source :: nodes =>
    entriesAmong ⟨name, attributes, children, source⟩ children ++ entriesBelow nodes
  | .text _ :: nodes | .cdata _ :: nodes | .comment _ :: nodes | .instruction _ _ :: nodes =>
    entriesBelow nodes

/-! ### What an entry amounts to -/

/-- The element has the attribute, and the value is what remains of it without blanks. -/
def Holds (e : Xml.Element Xml.Name) (name value : String) : Prop :=
  ∃ written, e.attribute? name = some written ∧ Text.isBlankText written = false ∧
    value = Text.trim written

/-- The element has no such attribute, or a blank one. -/
def Lacks (e : Xml.Element Xml.Name) (name : String) : Prop :=
  ∀ written, e.attribute? name = some written → Text.isBlankText written = true

/-- The attribute that an entry names its implementation by. -/
def implementationSpelling (e : Xml.Element Xml.Name) : String :=
  if (e.attribute? "JAVACLASS").isSome then "JAVACLASS" else "Implementation"

/-- The attributes that an entry has to have, in order, each after the name that it goes by where
it is lacking. -/
def required (e : Xml.Element Xml.Name) : Purpose → List (String × String)
  | .algorithm _ => [("URI", "URI"), ("JAVACLASS", implementationSpelling e)]
  | .resolver _ => [("JAVACLASS", implementationSpelling e)]
  | .prefixMapping => [("namespace", "namespace"), ("prefix", "prefix")]

/-- What an entry amounts to. -/
inductive Amounts : Entry → Outcome → Prop
  | algorithm {s e category h id implementation} (hid : Holds e "URI" id)
      (himplementation : Holds e (implementationSpelling e) implementation) :
      Amounts ⟨s, e, .algorithm category, h⟩ (.request ⟨category, id, implementation, none⟩)
  | resolver {s e category h implementation description}
      (himplementation : Holds e (implementationSpelling e) implementation)
      (hdescription : ∀ v, description = some v ↔ Holds e "DESCRIPTION" v) :
      Amounts ⟨s, e, .resolver category, h⟩
        (.request ⟨category, implementation, implementation, description⟩)
  | prefixMapping {s e h uri label} (huri : Holds e "namespace" uri)
      (hlabel : Holds e "prefix" label) :
      Amounts ⟨s, e, .prefixMapping, h⟩ (.mapping ⟨uri, label⟩)
  | skipped {s e purpose h before after} {missing : String × String}
      (hrequired : required e purpose = before ++ missing :: after)
      (hbefore : ∀ a ∈ before, ∃ v, Holds e a.2 v) (hmissing : Lacks e missing.2) :
      Amounts ⟨s, e, purpose, h⟩
        (.skipped ⟨s.name.localPart, e.name.localPart, missing.1⟩)

variable {e : Xml.Element Xml.Name}

theorem attribute?_eq_some_iff {name v : String} :
    attribute? e name = some v ↔ Holds e name v :=
  Text.nonBlank?_eq_some_iff

theorem attribute?_eq_none_iff {name : String} : attribute? e name = none ↔ Lacks e name :=
  Text.nonBlank?_eq_none_iff

theorem implementation?_eq : implementation? e = attribute? e (implementationSpelling e) := by
  unfold implementation? attribute? implementationSpelling implementationAttribute
  cases h : e.attribute? "JAVACLASS" with
  | none => rfl
  | some written => simp [h]

/-! ### Sections by their kinds -/

/-- The name of the entries of a section of the kind, and what they are for. -/
def SectionKind.entries? : SectionKind → Option (String × Purpose)
  | .algorithms entryName category => some (entryName, .algorithm category)
  | .resolvers category => some ("Resolver", .resolver category)
  | .prefixMappings => some ("PrefixMapping", .prefixMapping)
  | .locale | .providerMappings | .unknown => none

/-- The local names of the sections that a document may have. -/
def sectionNames : List String :=
  ["ResourceBundles", "CanonicalizationMethods", "TransformAlgorithms", "SignatureAlgorithms",
   "JCEAlgorithmMappings", "ResourceResolvers", "KeyResolver", "PrefixMappings"]

theorem SectionKind.ofName_of_notMem {sectionName : String} (h : sectionName ∉ sectionNames) :
    ofName sectionName = .unknown := by
  simp only [sectionNames, List.mem_cons, List.not_mem_nil, or_false, not_or] at h
  obtain ⟨h1, h2, h3, h4, h5, h6, h7, h8⟩ := h
  simp only [ofName, h1, h2, h3, h4, h5, h6, h7, h8, if_false]

theorem lookup_sectionTable (sectionName : String) :
    sectionTable.lookup sectionName = (SectionKind.ofName sectionName).entries? := by
  by_cases h : sectionName ∈ sectionNames
  · simp only [sectionNames, List.mem_cons, List.not_mem_nil, or_false] at h
    rcases h with rfl | rfl | rfl | rfl | rfl | rfl | rfl | rfl <;> rfl
  · rw [SectionKind.ofName_of_notMem h, SectionKind.entries?, List.lookup_eq_none_iff]
    have htable : ∀ row ∈ sectionTable, row.1 ∈ sectionNames := by decide
    intro row hrow
    rw [bne_iff_ne]
    rintro rfl
    exact h (htable row hrow)

/-- What an entry amounts to when it is read. -/
def Entry.outcome (t : Entry) : Outcome :=
  Configuration.outcome (.ofName t.parent.name.localPart) t.parent.name.localPart t.element

theorem Entry.entries?_eq (t : Entry) :
    (SectionKind.ofName t.parent.name.localPart).entries? =
      some (t.element.name.localPart, t.purpose) := by
  have h := t.isEntry
  rw [purpose?, lookup_sectionTable] at h
  split at h
  next => contradiction
  next entryName purpose hentries =>
    split at h
    next hname =>
      cases h
      rw [hentries, hname]
    next => contradiction

theorem outcome?_eq_map (s e : Xml.Element Xml.Name) :
    outcome? s e = (purpose? s.name.localPart e.name).map fun _ =>
      outcome (.ofName s.name.localPart) s.name.localPart e := by
  rw [outcome?, purpose?, lookup_sectionTable]
  cases SectionKind.ofName s.name.localPart with
  | algorithms entryName category => 
    simp only [SectionKind.entryName?, SectionKind.entries?]
    split <;> rfl
  | resolvers category =>
    simp only [SectionKind.entryName?, SectionKind.entries?]
    split <;> rfl
  | prefixMappings =>
    simp only [SectionKind.entryName?, SectionKind.entries?]
    split <;> rfl
  | locale => rfl
  | providerMappings => rfl
  | unknown => rfl

theorem map_outcome_entriesAmong (s : Xml.Element Xml.Name) (nodes : List (Xml.Node Xml.Name)) :
    (entriesAmong s nodes).map Entry.outcome = (Xml.elements nodes).filterMap (outcome? s) := by
  induction nodes with
  | nil => rfl
  | cons node nodes ih =>
    cases node with
    | element name attributes children source =>
      change _ = (⟨name, attributes, children, source⟩ :: Xml.elements nodes).filterMap (outcome? s)
      rw [entriesAmong, List.filterMap_cons, outcome?_eq_map]
      split
      next purpose h =>
        simp only [h, Option.map_some, List.map_cons, ih]
        rfl
      next h =>
        simp only [h, Option.map_none, ih]
    | text value => exact ih
    | cdata value => exact ih
    | comment value => exact ih
    | instruction target value => exact ih

theorem map_outcome_entriesBelow (nodes : List (Xml.Node Xml.Name)) :
    (entriesBelow nodes).map Entry.outcome = (Xml.elements nodes).flatMap outcomes := by
  induction nodes with
  | nil => rfl
  | cons node nodes ih =>
    cases node with
    | element name attributes children source =>
      rw [entriesBelow, List.map_append, ih, map_outcome_entriesAmong]
      simp only [Xml.elements, List.filterMap_cons, Xml.Node.element?, List.flatMap_cons,
        outcomes_eq_filterMap]
    | text value => exact ih
    | cdata value => exact ih
    | comment value => exact ih
    | instruction target value => exact ih

/-- The kind of sections whose entries have the name and are for the purpose. -/
def Purpose.kind (entryName : String) : Purpose → SectionKind
  | .algorithm category => .algorithms entryName category
  | .resolver category => .resolvers category
  | .prefixMapping => .prefixMappings

theorem SectionKind.eq_of_entries? {kind : SectionKind} {entryName : String} {purpose : Purpose}
    (h : kind.entries? = some (entryName, purpose)) : kind = purpose.kind entryName := by
  cases kind <;> cases h <;> rfl

theorem Entry.outcome_eq (t : Entry) :
    t.outcome = Configuration.outcome (t.purpose.kind t.element.name.localPart)
      t.parent.name.localPart t.element := by
  rw [outcome, SectionKind.eq_of_entries? t.entries?_eq]

/-- The first attribute that an entry lacks, under its two names. -/
def missing? (e : Xml.Element Xml.Name) (purpose : Purpose) : Option (String × String) :=
  (required e purpose).find? fun a => (attribute? e a.2).isNone

theorem missing?_eq_some_iff {purpose : Purpose} {missing : String × String} :
    missing? e purpose = some missing ↔ Lacks e missing.2 ∧ ∃ before after,
      required e purpose = before ++ missing :: after ∧ ∀ a ∈ before, ∃ v, Holds e a.2 v := by
  simp only [missing?, List.find?_eq_some_iff_append, Option.isNone_iff_eq_none,
    attribute?_eq_none_iff, Bool.not_eq_eq_eq_not, Bool.not_true, Option.isNone_eq_false_iff,
    Option.isSome_iff_exists, attribute?_eq_some_iff]

theorem exists_holds_of_missing?_eq_none {purpose : Purpose} (h : missing? e purpose = none)
    {a : String × String} (ha : a ∈ required e purpose) : ∃ v, attribute? e a.2 = some v := by
  have hnone := List.find?_eq_none.1 h a ha
  rwa [Bool.not_eq_true, Option.isNone_eq_false_iff, Option.isSome_iff_exists] at hnone

/-- An entry that lacks something is skipped, and goes by the name of what it lacks first. -/
theorem Entry.outcome_of_missing {t : Entry} {missing : String × String}
    (h : missing? t.element t.purpose = some missing) :
    t.outcome = .skipped ⟨t.parent.name.localPart, t.element.name.localPart, missing.1⟩ := by
  obtain ⟨s, e, purpose, hentry⟩ := t
  rw [Entry.outcome_eq]
  cases purpose with
  | algorithm category =>
    simp only [missing?, required, List.find?_cons] at h
    simp only [Purpose.kind, Configuration.outcome, implementation?_eq]
    cases hid : attribute? e "URI" with
    | none =>
      rw [hid] at h
      cases h
      rfl
    | some id =>
      cases himplementation : attribute? e (implementationSpelling e) with
      | none =>
        rw [hid, himplementation] at h
        cases h
        rfl
      | some implementation => simp [hid, himplementation] at h
  | resolver category =>
    simp only [missing?, required, List.find?_cons] at h
    simp only [Purpose.kind, Configuration.outcome, implementation?_eq]
    cases himplementation : attribute? e (implementationSpelling e) with
    | none =>
      rw [himplementation] at h
      cases h
      rfl
    | some implementation => simp [himplementation] at h
  | prefixMapping =>
    simp only [missing?, required, List.find?_cons] at h
    simp only [Purpose.kind, Configuration.outcome]
    cases huri : attribute? e "namespace" with
    | none =>
      rw [huri] at h
      cases h
      rfl
    | some uri =>
      cases hlabel : attribute? e "prefix" with
      | none =>
        rw [huri, hlabel] at h
        cases h
        rfl
      | some label => simp [huri, hlabel] at h

/-- Every entry amounts to what is read from it. -/
theorem amounts_outcome (t : Entry) : Amounts t t.outcome := by
  cases hmissing : missing? t.element t.purpose with
  | some missing =>
    rw [Entry.outcome_of_missing hmissing]
    obtain ⟨hlacks, before, after, hrequired, hbefore⟩ := missing?_eq_some_iff.1 hmissing
    exact .skipped hrequired hbefore hlacks
  | none =>
    have hpresent : ∀ a ∈ required t.element t.purpose, ∃ v, attribute? t.element a.2 = some v :=
      fun a => exists_holds_of_missing?_eq_none hmissing
    rw [Entry.outcome_eq]
    obtain ⟨s, e, purpose, hentry⟩ := t
    cases purpose with
    | algorithm category =>
      obtain ⟨id, hid⟩ := hpresent ("URI", "URI") (by simp [required])
      obtain ⟨implementation, himplementation⟩ :=
        hpresent ("JAVACLASS", implementationSpelling e) (by simp [required])
      simp only [Purpose.kind, outcome, implementation?_eq, hid, himplementation]
      exact .algorithm (attribute?_eq_some_iff.1 hid) (attribute?_eq_some_iff.1 himplementation)
    | resolver category =>
      obtain ⟨implementation, himplementation⟩ :=
        hpresent ("JAVACLASS", implementationSpelling e) (by simp [required])
      simp only [Purpose.kind, outcome, implementation?_eq, himplementation]
      exact .resolver (attribute?_eq_some_iff.1 himplementation) fun v => attribute?_eq_some_iff
    | prefixMapping =>
      obtain ⟨uri, huri⟩ := hpresent ("namespace", "namespace") (by simp [required])
      obtain ⟨label, hlabel⟩ := hpresent ("prefix", "prefix") (by simp [required])
      simp only [Purpose.kind, outcome, huri, hlabel]
      exact .prefixMapping (attribute?_eq_some_iff.1 huri) (attribute?_eq_some_iff.1 hlabel)

/-- An entry amounts to nothing else. -/
theorem Amounts.eq_outcome {t : Entry} {o : Outcome} (h : Amounts t o) : o = t.outcome := by
  cases h with
  | algorithm hid himplementation =>
    rw [Entry.outcome_eq]
    simp only [Purpose.kind, outcome, implementation?_eq, attribute?_eq_some_iff.2 hid,
      attribute?_eq_some_iff.2 himplementation]
  | @resolver s e category h implementation description himplementation hdescription =>
    have hattribute : attribute? e "DESCRIPTION" = description :=
      Option.ext fun v => attribute?_eq_some_iff.trans (hdescription v).symm
    rw [Entry.outcome_eq]
    simp only [Purpose.kind, outcome, implementation?_eq,
      attribute?_eq_some_iff.2 himplementation, hattribute]
  | prefixMapping huri hlabel =>
    rw [Entry.outcome_eq]
    simp only [Purpose.kind, outcome, attribute?_eq_some_iff.2 huri,
      attribute?_eq_some_iff.2 hlabel]
  | @skipped s e purpose hentry before after missing hrequired hbefore hlacks =>
    have hmissing : missing? e purpose = some missing :=
      missing?_eq_some_iff.2 ⟨hlacks, before, after, hrequired, hbefore⟩
    exact (@Entry.outcome_of_missing ⟨s, e, purpose, hentry⟩ missing hmissing).symm

/-- What entries amount to, one by one, is what is read from them. -/
theorem forall₂_amounts_iff (ts : List Entry) (os : List Outcome) :
    List.Forall₂ Amounts ts os ↔ os = ts.map Entry.outcome := by
  constructor
  · intro h
    induction h with
    | nil => rfl
    | cons head tail ih => rw [List.map_cons, ← ih, head.eq_outcome]
  · rintro rfl
    induction ts with
    | nil => exact .nil
    | cons t ts ih => exact .cons (amounts_outcome t) ih

/-- The outcomes of a section are those of its entries. -/
theorem exists_entry {s : Xml.Element Xml.Name} {o : Outcome} (h : o ∈ outcomes s) :
    ∃ t ∈ entriesAmong s s.children, o = t.outcome := by
  rw [outcomes_eq_filterMap, ← map_outcome_entriesAmong] at h
  obtain ⟨t, ht, rfl⟩ := List.mem_map.1 h
  exact ⟨t, ht, rfl⟩

theorem exists_amounts {ss : List (Xml.Element Xml.Name)} {o : Outcome}
    (h : o ∈ ss.flatMap outcomes) : ∃ t, Amounts t o := by
  obtain ⟨s, -, hs⟩ := List.mem_flatMap.1 h
  obtain ⟨t, -, rfl⟩ := exists_entry hs
  exact ⟨t, amounts_outcome t⟩

/-! ### What is kept of entries -/

theorem Outcome.request?_eq_some_iff {o : Outcome} {q : Request} :
    o.request? = some q ↔ o = .request q := by
  cases o <;> simp [request?]

theorem Outcome.mapping?_eq_some_iff {o : Outcome} {m : PrefixMapping} :
    o.mapping? = some m ↔ o = .mapping m := by
  cases o <;> simp [mapping?]

theorem Holds.trimmed {name v : String} (h : Holds e name v) : Text.Trimmed v := by
  obtain ⟨written, -, hblank, rfl⟩ := h
  exact Text.trimmed_trim hblank

theorem Amounts.trimmed_request {t : Entry} {q : Request} (h : Amounts t (.request q)) :
    Text.Trimmed q.id ∧ Text.Trimmed q.implementation ∧ ∀ d ∈ q.description, Text.Trimmed d := by
  cases h with
  | algorithm hid himplementation =>
    exact ⟨hid.trimmed, himplementation.trimmed, nofun⟩
  | resolver himplementation hdescription =>
    exact ⟨himplementation.trimmed, himplementation.trimmed,
      fun d hd => ((hdescription d).1 hd).trimmed⟩

theorem Amounts.trimmed_mapping {t : Entry} {m : PrefixMapping} (h : Amounts t (.mapping m)) :
    Text.Trimmed m.uri ∧ Text.Trimmed m.label := by
  cases h with
  | prefixMapping huri hlabel => exact ⟨huri.trimmed, hlabel.trimmed⟩

/-- Each outcome is a request, a mapping, or something skipped, and only one of these. -/
theorem length_outcomes (os : List Outcome) :
    (os.filterMap Outcome.request?).length + (os.filterMap Outcome.mapping?).length +
      (os.filterMap Outcome.skipped?).length = os.length := by
  induction os with
  | nil => rfl
  | cons o os ih =>
    cases o <;> simp only [List.filterMap_cons, Outcome.request?, Outcome.mapping?,
      Outcome.skipped?, List.length_cons] <;> omega

/-! ### Documents -/

/-- A section that a document may have is known by its name alone. -/
theorem SectionKind.ofName_eq_iff {sectionName known : String} (hknown : known ∈ sectionNames) :
    ofName sectionName = ofName known ↔ sectionName = known := by
  constructor
  · intro h
    by_cases hname : sectionName ∈ sectionNames
    · have hnames : ∀ n ∈ sectionNames, ∀ m ∈ sectionNames, ofName n = ofName m → n = m := by
        decide
      exact hnames sectionName hname known hknown h
    · rw [ofName_of_notMem hname] at h
      have hkind : ∀ known ∈ sectionNames, ofName known ≠ .unknown := by decide
      exact absurd h.symm (hkind known hknown)
  · rintro rfl
    rfl

/-- The last section with the local name. -/
def lastNamed? (root : Xml.Element Xml.Name) (sectionName : String) :
    Option (Xml.Element Xml.Name) :=
  ((Xml.elements root.children).filter fun s => s.name.localPart = sectionName).getLast?

theorem parse_of_root {document : String} {root : Xml.Element Xml.Name}
    (hparse : Xml.parse? document = some root) (hroot : root.name.localPart = "Configuration")
    (j : Journal) : (parse document j).1 = .ok (ofSections (Xml.elements root.children)) := by
  have hsections : sections? document = .ok (Xml.elements root.children) := by
    simp only [sections?, hparse, hroot, if_true]
  simp only [parse, hsections, Traced.bind_apply, Traced.pure_apply]

/-- A document with the right root is read. Each of its entries amounts to exactly one outcome, in
document order, and apart from the locale and the mappings for providers, which are those of the
last sections for them, it says nothing else. What is kept of the entries is trimmed, and resolvers
go by the identifiers of their implementations. -/
theorem parse_accounts (document : String) (root : Xml.Element Xml.Name)
    (hparse : Xml.parse? document = some root) (hroot : root.name.localPart = "Configuration")
    (j : Journal) :
    ∃ c outcomes, (parse document j).1 = .ok c ∧
      (∀ os, List.Forall₂ Amounts (entriesBelow root.children) os ↔ os = outcomes) ∧
      c = {
        requests := outcomes.filterMap Outcome.request?
        prefixMappings := outcomes.filterMap Outcome.mapping?
        locale := (lastNamed? root "ResourceBundles").map fun s =>
          ⟨s.attribute? "defaultLanguageCode", s.attribute? "defaultCountryCode"⟩
        providerMappings := (lastNamed? root "JCEAlgorithmMappings").map (·.source)
        skipped := outcomes.filterMap Outcome.skipped? } ∧
      c.requests.length + c.prefixMappings.length + c.skipped.length =
        (entriesBelow root.children).length ∧
      (∀ q ∈ c.requests, Text.Trimmed q.id ∧ Text.Trimmed q.implementation ∧
        (∀ d ∈ q.description, Text.Trimmed d) ∧
        (q.category.isResolver = true → q.id = q.implementation)) ∧
      ∀ m ∈ c.prefixMappings, Text.Trimmed m.uri ∧ Text.Trimmed m.label := by
  have houtcomes := map_outcome_entriesBelow root.children
  refine ⟨_, _, parse_of_root hparse hroot j, forall₂_amounts_iff _, ?_, ?_, ?_, ?_⟩
  · rw [houtcomes]
    have hlocale : ∀ n, SectionKind.ofName n = .locale ↔ n = "ResourceBundles" :=
      fun n => @SectionKind.ofName_eq_iff n "ResourceBundles" (by decide)
    have hmappings : ∀ n, SectionKind.ofName n = .providerMappings ↔ n = "JCEAlgorithmMappings" :=
      fun n => @SectionKind.ofName_eq_iff n "JCEAlgorithmMappings" (by decide)
    simp only [ofSections, lastOfKind?, lastNamed?, hlocale, hmappings]
  · rw [← List.length_map Entry.outcome, houtcomes]
    exact length_outcomes _
  · intro q hq
    obtain ⟨o, ho, hrequest⟩ := List.mem_filterMap.1 hq
    obtain ⟨t, ht⟩ := exists_amounts ho
    rw [Outcome.request?_eq_some_iff.1 hrequest] at ht
    obtain ⟨hid, himplementation, hdescription⟩ := ht.trimmed_request
    exact ⟨hid, himplementation, hdescription,
      fun hresolver => (ownName_of_mem_requests hq hresolver).symm⟩
  · intro m hm
    obtain ⟨o, ho, hmapping⟩ := List.mem_filterMap.1 hm
    obtain ⟨t, ht⟩ := exists_amounts ho
    rw [Outcome.mapping?_eq_some_iff.1 hmapping] at ht
    exact ht.trimmed_mapping

/-! ### Two spellings -/

/-- The element for a resolver that is named by the alternative attribute. -/
def resolverSpelled (id source : String) : Xml.Element Xml.Name where
  name := ⟨some Namespace.configuration, "Resolver"⟩
  attributes := [(⟨none, "Implementation"⟩, id)]
  children := []
  source := source

/-- A resolver with a name, as it is written. -/
def namedResolver : Xml.Element Xml.Name :=
  resolverSpelled " k" "<c:Resolver Implementation=\" k\"/>"

/-- A resolver with a blank name, as it is written. -/
def namelessResolver : Xml.Element Xml.Name :=
  resolverSpelled "" "<c:Resolver Implementation=\"\"/>"

/-- The node that an element is. -/
def nodeOf (e : Xml.Element Xml.Name) : Xml.Node Xml.Name :=
  .element e.name e.attributes e.children e.source

/-- The section with the two resolvers. -/
def spelledSection : Xml.Element Xml.Name where
  name := ⟨none, "KeyResolver"⟩
  attributes := []
  children := [nodeOf namedResolver, nodeOf namelessResolver]
  source := "<KeyResolver><c:Resolver Implementation=\" k\"/><c:Resolver Implementation=\"\"/>" ++
    "</KeyResolver>"

/-- The root of a document with that section. -/
def spelledRoot : Xml.Element Xml.Name where
  name := ⟨some Namespace.configuration, "Configuration"⟩
  attributes := []
  children := [nodeOf spelledSection]
  source := "<c:Configuration xmlns:c=\"http://www.xmlsecurity.org/NS/#configuration\">" ++
    "<KeyResolver><c:Resolver Implementation=\" k\"/><c:Resolver Implementation=\"\"/>" ++
    "</KeyResolver></c:Configuration>"

theorem parse?_spelledRoot : Xml.parse? spelledRoot.source = some spelledRoot := by
  cbv

theorem entriesBelow_spelledRoot :
    entriesBelow spelledRoot.children =
      [⟨spelledSection, namedResolver, .resolver .keyResolver, rfl⟩,
        ⟨spelledSection, namelessResolver, .resolver .keyResolver, rfl⟩] := rfl

/-- The entry with a blank name is skipped. -/
theorem parse_accounts_spelled :
    Xml.parse? spelledRoot.source = some spelledRoot ∧
    spelledRoot.name.localPart = "Configuration" ∧
    ∃ c, (parse spelledRoot.source []).1 = .ok c ∧
      c.skipped = [⟨"KeyResolver", "Resolver", "JAVACLASS"⟩] ∧
      c.requests.length + c.prefixMappings.length + c.skipped.length = 2 := by
  obtain ⟨c, os, hread, hamounts, hc, hlength, -⟩ :=
    parse_accounts spelledRoot.source spelledRoot parse?_spelledRoot rfl []
  have hskipped : c.skipped = [⟨"KeyResolver", "Resolver", "JAVACLASS"⟩] := by
    rw [hc, ← (hamounts _).1 ((forall₂_amounts_iff _ _).2 rfl), entriesBelow_spelledRoot]
    rfl
  exact ⟨parse?_spelledRoot, rfl, c, hread, hskipped, hlength⟩

/-- The attribute that the entry lacks is the alternative one, and it is noted as the usual one. -/
theorem noted_under_usual_name :
    Xml.parse? spelledRoot.source = some spelledRoot ∧
    ((entriesBelow spelledRoot.children).filterMap fun t =>
      (missing? t.element t.purpose).map (·.2)) = ["Implementation"] ∧
    ∃ c, (parse spelledRoot.source []).1 = .ok c ∧ c.skipped.map (·.missing) = ["JAVACLASS"] := by
  have hmissing : ((entriesBelow spelledRoot.children).filterMap fun t =>
      (missing? t.element t.purpose).map (·.2)) = ["Implementation"] := by
    rw [entriesBelow_spelledRoot]
    rfl
  exact ⟨parse?_spelledRoot, hmissing, _, parse_of_root parse?_spelledRoot rfl [], rfl⟩

end DsigRegistry.Configuration
