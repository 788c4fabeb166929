import DsigRegistry.Proofs.Accounting

/-!
# The order of sections

A document may list its sections in any order, as long as those of one name follow each other in
the same one: each outcome stems from sections of one name, entries of different categories act on
different registries, and with steady constructors whether an entry fails depends on no other.
Main facts: `Rearranged.filterMap_eq` and `init_of_rearranged`.
-/

namespace DsigRegistry

namespace Configuration

/-- The same sections in another order, in which those of one name follow each other as before. -/
structure Rearranged (ss ss' : List (Xml.Element Xml.Name)) : Prop where
  perm : ss'.Perm ss
  order : ∀ name, (ss'.filter fun s => s.name.localPart = name) =
    ss.filter fun s => s.name.localPart = name

/-! ### Where outcomes stem from -/

/-- The local name of the sections that have the entries of the category. -/
def sectionOf : Category → String
  | .canonicalizer => "CanonicalizationMethods"
  | .transform => "TransformAlgorithms"
  | .signatureAlgorithm => "SignatureAlgorithms"
  | .resourceResolver => "ResourceResolvers"
  | .keyResolver => "KeyResolver"

/-- The local name of the sections that an outcome stems from. -/
def Outcome.origin : Outcome → String
  | .request q => sectionOf q.category
  | .mapping _ => "PrefixMappings"
  | .skipped e => e.sectionName

theorem Entry.mem_sectionTable (t : Entry) :
    (t.parent.name.localPart, t.element.name.localPart, t.purpose) ∈ sectionTable := by
  have hlookup : sectionTable.lookup t.parent.name.localPart =
      some (t.element.name.localPart, t.purpose) := by
    rw [lookup_sectionTable, t.entries?_eq]
  obtain ⟨before, after, htable, -⟩ := List.lookup_eq_some_iff.1 hlookup
  simp [htable]

/-- What an entry amounts to tells in which sections it stands. -/
theorem Amounts.origin_eq {t : Entry} {o : Outcome} (h : Amounts t o) :
    o.origin = t.parent.name.localPart := by
  have htable := t.mem_sectionTable
  cases h with
  | @algorithm s e category =>
    have hrow : ∀ row ∈ sectionTable, row.2.2 = .algorithm category →
        sectionOf category = row.1 := by
      cases category <;> decide
    exact hrow _ htable rfl
  | @resolver s e category =>
    have hrow : ∀ row ∈ sectionTable, row.2.2 = .resolver category →
        sectionOf category = row.1 := by
      cases category <;> decide
    exact hrow _ htable rfl
  | prefixMapping =>
    have hrow : ∀ row ∈ sectionTable, row.2.2 = .prefixMapping → "PrefixMappings" = row.1 := by
      decide
    exact hrow _ htable rfl
  | skipped => rfl

theorem parent_of_mem_entriesAmong {s : Xml.Element Xml.Name} {nodes : List (Xml.Node Xml.Name)}
    {t : Entry} (h : t ∈ entriesAmong s nodes) : t.parent = s := by
  induction nodes with
  | nil => cases h
  | cons node nodes ih =>
    cases node with
    | element name attributes children source =>
      rw [entriesAmong] at h
      split at h
      next =>
        rcases List.mem_cons.1 h with rfl | h
        · rfl
        · exact ih h
      next => exact ih h
    | text value => exact ih h
    | cdata value => exact ih h
    | comment value => exact ih h
    | instruction target value => exact ih h

theorem origin_of_mem_outcomes {s : Xml.Element Xml.Name} {o : Outcome} (h : o ∈ outcomes s) :
    o.origin = s.name.localPart := by
  obtain ⟨t, ht, rfl⟩ := exists_entry h
  rw [(amounts_outcome t).origin_eq, parent_of_mem_entriesAmong ht]

/-! ### Rearranged sections -/

theorem filter_origin_outcomes (ss : List (Xml.Element Xml.Name)) (name : String) :
    ((ss.flatMap outcomes).filter fun o => o.origin = name) =
      (ss.filter fun s => s.name.localPart = name).flatMap outcomes := by
  induction ss with
  | nil => rfl
  | cons s ss ih =>
    rw [List.flatMap_cons, List.filter_append, ih]
    by_cases hname : s.name.localPart = name
    · have hall : (outcomes s).filter (fun o => o.origin = name) = outcomes s :=
        List.filter_eq_self.2 fun o ho => by simp [origin_of_mem_outcomes ho, hname]
      simp [hall, hname]
    · have hnone : (outcomes s).filter (fun o => o.origin = name) = [] :=
        List.filter_eq_nil_iff.2 fun o ho => by simp [origin_of_mem_outcomes ho, hname]
      simp [hnone, hname]

variable {ss ss' : List (Xml.Element Xml.Name)}

/-- What is read off outcomes from sections of one name is the same in another order. -/
theorem Rearranged.filterMap_eq {β : Type} (h : Rearranged ss ss') {f : Outcome → Option β}
    (name : String) (hf : ∀ o b, f o = some b → o.origin = name) :
    (ss'.flatMap outcomes).filterMap f = (ss.flatMap outcomes).filterMap f := by
  have hfilter : ∀ os : List Outcome,
      os.filterMap f = (os.filter fun o => o.origin = name).filterMap f := by
    intro os
    rw [List.filterMap_filter]
    refine List.filterMap_congr fun o _ => ?_
    cases ho : f o with
    | none => simp
    | some b => simp [hf o b ho]
  rw [hfilter, hfilter (ss.flatMap outcomes), filter_origin_outcomes, filter_origin_outcomes,
    h.order]

theorem Rearranged.requestsIn_eq (h : Rearranged ss ss') (c : Category) :
    (ofSections ss').requestsIn c = (ofSections ss).requestsIn c := by
  simp only [requestsIn, ofSections, List.filter_filterMap]
  refine h.filterMap_eq (sectionOf c) fun o q hq => ?_
  obtain ⟨hrequest, hcategory⟩ := Option.filter_eq_some_iff.1 hq
  rw [Outcome.request?_eq_some_iff.1 hrequest, ← of_decide_eq_true hcategory]
  rfl

theorem Rearranged.prefixMappings_eq (h : Rearranged ss ss') :
    (ofSections ss').prefixMappings = (ofSections ss).prefixMappings := by
  refine h.filterMap_eq "PrefixMappings" fun o m hm => ?_
  rw [Outcome.mapping?_eq_some_iff.1 hm]
  rfl

theorem Rearranged.filter_skipped_eq (h : Rearranged ss ss') (name : String) :
    ((ofSections ss').skipped.filter fun e => e.sectionName = name) =
      (ofSections ss).skipped.filter fun e => e.sectionName = name := by
  simp only [ofSections, List.filter_filterMap]
  refine h.filterMap_eq name fun o e he => ?_
  obtain ⟨hskipped, hname⟩ := Option.filter_eq_some_iff.1 he
  cases o with
  | request q => cases hskipped
  | mapping m => cases hskipped
  | skipped e' =>
    cases hskipped
    exact of_decide_eq_true hname

theorem Rearranged.lastOfKind?_eq (h : Rearranged ss ss') {known : String}
    (hknown : known ∈ sectionNames) :
    lastOfKind? ss' (.ofName known) = lastOfKind? ss (.ofName known) := by
  simp only [lastOfKind?, SectionKind.ofName_eq_iff hknown, h.order]

theorem Rearranged.locale_eq (h : Rearranged ss ss') :
    (ofSections ss').locale = (ofSections ss).locale := by
  have hlast : lastOfKind? ss' .locale = lastOfKind? ss .locale :=
    @lastOfKind?_eq _ _ h "ResourceBundles" (by decide)
  simp only [ofSections, hlast]

theorem Rearranged.providerMappings_eq (h : Rearranged ss ss') :
    (ofSections ss').providerMappings = (ofSections ss).providerMappings := by
  have hlast : lastOfKind? ss' .providerMappings = lastOfKind? ss .providerMappings :=
    @lastOfKind?_eq _ _ h "JCEAlgorithmMappings" (by decide)
  simp only [ofSections, hlast]

end Configuration

namespace AlgorithmRegistry

open DsigRegistry.Configuration

variable {a b : AlgorithmRegistry}

/-! ### Categories do not interfere -/

/-- What there is besides the five registries. -/
def shell (a : AlgorithmRegistry) : AlgorithmRegistry where
  prefixes := a.prefixes
  catalog := a.catalog
  locale := a.locale
  providerMappings := a.providerMappings
  report := a.report

theorem ext_registry (hshell : a.shell = b.shell) (h : ∀ c, a.registry c = b.registry c) :
    a = b := by
  cases a
  cases b
  cases hshell
  cases h .canonicalizer
  cases h .transform
  cases h .signatureAlgorithm
  cases h .resourceResolver
  cases h .keyResolver
  rfl

theorem shell_withRegistry (a : AlgorithmRegistry) (c : Category) (r : Registry c.Interface) :
    (a.withRegistry c r).shell = a.shell := by
  cases c <;> rfl

theorem shell_entered (q : Request) : (a.entered q).shell = a.shell := by
  rcases a.entered_cases q with h | ⟨r, -, h⟩
  · rw [h]
  · rw [h, shell_withRegistry]

theorem shell_foldl_entered (qs : List Request) : (qs.foldl entered a).shell = a.shell := by
  induction qs generalizing a with
  | nil => rfl
  | cons q qs ih => rw [List.foldl_cons, ih, shell_entered]

/-- An entry leaves the registries of the other categories alone. -/
theorem registry_entered_of_ne {q : Request} {c : Category} (h : c ≠ q.category) :
    (a.entered q).registry c = a.registry c := by
  rcases a.entered_cases q with hq | ⟨r, -, hq⟩
  · rw [hq]
  · rw [hq, registry_withRegistry_of_ne a h]

/-- What an entry makes of the registry of its category depends on no other. -/
theorem registry_entered_congr {q : Request} (hcatalog : b.catalog = a.catalog)
    (h : b.registry q.category = a.registry q.category) :
    (b.entered q).registry q.category = (a.entered q).registry q.category := by
  simp only [entered, attempt_eq, hcatalog, h]
  cases a.catalog.resolve q.category q.id q.implementation with
  | error e => exact h
  | ok factory =>
    dsimp only
    cases factory.build 0 with
    | error cause => exact h
    | ok x => simp only [withDescribed, registry_withRegistry, h]

theorem registry_foldl_entered (hcatalog : b.catalog = a.catalog) {c : Category}
    (h : b.registry c = a.registry c) (qs : List Request) :
    (qs.foldl entered b).registry c =
      ((qs.filter fun q => q.category = c).foldl entered a).registry c := by
  induction qs generalizing a b with
  | nil => exact h
  | cons q qs ih =>
    by_cases hc : q.category = c
    · subst hc
      rw [List.filter_cons_of_pos (by simp), List.foldl_cons, List.foldl_cons]
      exact ih (by simp [hcatalog]) (registry_entered_congr hcatalog h)
    · rw [List.filter_cons_of_neg (by simp [hc]), List.foldl_cons]
      exact ih (by simp [hcatalog]) ((registry_entered_of_ne (Ne.symm hc)).trans h)

/-- Entries of different categories may be registered in any order. -/
theorem foldl_entered_eq {qs qs' : List Request}
    (h : ∀ c, (qs'.filter fun q => q.category = c) = qs.filter fun q => q.category = c) :
    qs'.foldl entered a = qs.foldl entered a := by
  refine ext_registry ?_ fun c => ?_
  · rw [shell_foldl_entered, shell_foldl_entered]
  · calc (qs'.foldl entered a).registry c
        = ((qs'.filter fun q => q.category = c).foldl entered a).registry c :=
          registry_foldl_entered rfl rfl qs'
      _ = ((qs.filter fun q => q.category = c).foldl entered a).registry c := by rw [h]
      _ = (qs.foldl entered a).registry c := (registry_foldl_entered rfl rfl qs).symm

/-! ### Bootstraps -/

variable {ss ss' : List (Xml.Element Xml.Name)}

/-- The requests of a category that do not fail are the same in another order. -/
theorem filter_kept_eq (h : Rearranged ss ss') (c : Category) :
    (((ofSections ss').requests.filter fun q => (a.failure? q).isNone).filter
        fun q => q.category = c) =
      ((ofSections ss).requests.filter fun q => (a.failure? q).isNone).filter
        fun q => q.category = c := by
  have hkept : ∀ qs : List Request,
      ((qs.filter fun q => (a.failure? q).isNone).filter fun q => q.category = c) =
        (qs.filter fun q => q.category = c).filter fun q => (a.failure? q).isNone :=
    fun qs => List.filter_comm _ _ qs
  rw [hkept, hkept]
  exact congrArg (List.filter _) (h.requestsIn_eq c)

theorem category_of_failure? {q : Request} {f : EntryFailure} (h : a.failure? q = some f) :
    f.category = q.category := by
  unfold failure? at h
  split at h
  next => contradiction
  next =>
    cases h
    rfl

/-- The failures in a category are those of its requests. -/
theorem filter_filterMap_failure? (qs : List Request) (c : Category) :
    ((qs.filterMap a.failure?).filter fun f => f.category = c) =
      (qs.filter fun q => q.category = c).filterMap a.failure? := by
  induction qs with
  | nil => rfl
  | cons q qs ih =>
    rw [List.filterMap_cons]
    cases hq : a.failure? q with
    | none => by_cases hc : q.category = c <;> simp [hc, hq, ih]
    | some f =>
      have hcategory := category_of_failure? hq
      by_cases hc : q.category = c <;> simp [hcategory, hc, hq, ih]

/-- With steady constructors, rearranging the sections of a document makes no difference to the
registries, nor to what the report says of each category, of prefixes, and of the entries skipped
in the sections of each name. -/
theorem init_of_rearranged (a : AlgorithmRegistry) (ha : a.report = none)
    (hsteady : a.catalog.Steady) (p p' : Provider) (o : Options)
    (ss ss' : List (Xml.Element Xml.Name)) (hread : p.sections? o.path = .ok ss)
    (hread' : p'.sections? o.path = .ok ss') (h : Rearranged ss ss') (j j' : Journal) :
    ∃ b b' r r' k k',
      a.init p o j = ((b, .ok r), k) ∧ a.init p' o j' = ((b', .ok r'), k') ∧
      b' = { b with report := some r' } ∧ r'.mode = r.mode ∧
      (∀ c, r'.registeredIn c = r.registeredIn c ∧
        (r'.registered.filter fun e => e.category = c) =
          r.registered.filter (fun e => e.category = c) ∧
        (r'.failures.filter fun f => f.category = c) =
          r.failures.filter fun f => f.category = c) ∧
      r'.prefixConflicts = r.prefixConflicts ∧
      ∀ name, (r'.skipped.filter fun e => e.sectionName = name) =
        r.skipped.filter fun e => e.sectionName = name := by
  obtain ⟨k, hinit⟩ := init_of_sections ha hsteady hread j
  obtain ⟨k', hinit'⟩ := init_of_sections ha hsteady hread' j'
  have hregistered : ∀ c,
      (((ofSections ss').requests.filter fun q => (a.failure? q).isNone).map
          Request.registration).filter (fun e => e.category = c) =
        (((ofSections ss).requests.filter fun q => (a.failure? q).isNone).map
          Request.registration).filter fun e => e.category = c := by
    intro c
    rw [List.filter_map, List.filter_map]
    exact congrArg (List.map _) (filter_kept_eq h c)
  refine ⟨_, _, _, _, _, _, hinit, hinit', ?_, rfl, fun c => ⟨?_, hregistered c, ?_⟩, ?_,
    h.filter_skipped_eq⟩
  · simp only [applied, h.locale_eq, h.providerMappings_eq, h.prefixMappings_eq]
    rw [foldl_entered_eq (filter_kept_eq h)]
  · exact congrArg (List.map _) (hregistered c)
  · simp only [applied, filter_filterMap_failure?]
    exact congrArg (List.filterMap _) (h.requestsIn_eq c)
  · simp only [applied, h.prefixMappings_eq]

/-- The provider of a document with two sections. -/
def sectionsProvider (s s' : Xml.Element Xml.Name) : Provider where
  document _ := .ok ("<Configuration xmlns=\"http://www.xmlsecurity.org/NS/#configuration\">" ++
    s.source ++ s'.source ++ "</Configuration>")

/-- A section with mappings for providers. -/
def providerSection : Xml.Element Xml.Name where
  name := ⟨some Namespace.configuration, "JCEAlgorithmMappings"⟩
  attributes := []
  children := []
  source := "<JCEAlgorithmMappings/>"

/-- The section after that of a key resolver may as well stand before it: the resolver is found. -/
theorem init_of_swapped :
    let a := ofCatalog (Catalog.empty.provide "k" (.const (.builtin "k") .keyResolver .keyName))
    let p := sectionsProvider oneResolver providerSection
    let p' := sectionsProvider providerSection oneResolver
    ∃ b b' r r' k k', a.init p {} [] = ((b, .ok r), k) ∧ a.init p' {} [] = ((b', .ok r'), k') ∧
      b' = { b with report := some r' } ∧
      r'.registeredIn .keyResolver = r.registeredIn .keyResolver ∧
      r.registeredIn .keyResolver = ["k"] ∧
      (b.registry .keyResolver).lookup? "k" =
        some (.described "k" (.const (.builtin "k") KeyResolver.keyName) none) ∧
      b.providerMappings = some providerSection.source := by
  intro a p p'
  have hsteady : a.catalog.Steady := Catalog.steady_empty.provide "k" (Factory.steady_const _ _)
  have hread : p.sections? Options.defaultPath = .ok [oneResolver, providerSection] := by cbv
  have hread' : p'.sections? Options.defaultPath = .ok [providerSection, oneResolver] := by cbv
  have hrearranged : Rearranged [oneResolver, providerSection] [providerSection, oneResolver] := by
    refine ⟨.swap _ _ _, fun name => ?_⟩
    by_cases hname : "KeyResolver" = name
    · subst hname
      rfl
    · simp [List.filter_cons, oneResolver, hname]
  obtain ⟨b, b', r, r', k, k', hinit, hinit', hb, -, hcategory, -⟩ :=
    init_of_rearranged a rfl hsteady p p' {} _ _ hread hread' hrearranged [] []
  obtain ⟨_, hstate⟩ := init_of_sections (a := a) (o := {}) rfl hsteady hread []
  cases congrArg Prod.fst (hstate.symm.trans hinit)
  exact ⟨_, b', _, r', k, k', hinit, hinit', hb, (hcategory .keyResolver).1, rfl, rfl, rfl⟩

end AlgorithmRegistry

end DsigRegistry
