import DsigRegistry.Catalog.Builtin
import DsigRegistry.Proofs.BundledDocument
import DsigRegistry.Proofs.Call
import DsigRegistry.Proofs.PrefixTable
import DsigRegistry.Proofs.Requests

/-!
# The default tables and the bundled document

Registries are populated from the default tables as they would be from a document with the same
entries. The bundled document has all of these: its transforms are the same, it has one request for
each signature algorithm of the tables, and none of its prefixes collide. So with steady
constructors the two agree on the default tables, whatever the catalog has. Main fact:
`AlgorithmRegistry.bundled_agrees_with_defaults`.
-/

namespace DsigRegistry

namespace PrefixTable

/-! ### Prefixes that do not collide -/

/-- A namespace without a prefix gets one that no namespace has. -/
theorem prefixFor?_after {t : PrefixTable} {m : PrefixMapping}
    (hunbound : t.prefixFor? m.uri = none) (hunused : ∀ other, t.prefixFor? other ≠ some m.label)
    (uri label : String) :
    (t.after m).prefixFor? uri = some label ↔
      t.prefixFor? uri = some label ∨ ⟨uri, label⟩ = m := by
  obtain ⟨t', hbind⟩ : ∃ t', t.bind m.uri m.label = .ok t' :=
    exists_bind_eq_ok fun other hother => absurd hother (hunused other)
  rw [after_of_bind_eq_ok hbind, prefixFor?_of_bind_eq_ok hbind]
  by_cases heq : m.uri = uri
  · subst heq
    cases m
    simp [hunbound, eq_comm]
  · have hne : (⟨uri, label⟩ : PrefixMapping) ≠ m := fun hm => heq (by rw [← hm])
    simp [heq, hne]

/-- If neither namespaces nor prefixes repeat, and none is in the table yet, every namespace gets
its prefix. -/
theorem prefixFor?_foldl_after {t : PrefixTable} {ms : List PrefixMapping}
    (huris : (ms.map (·.uri)).Nodup) (hlabels : (ms.map (·.label)).Nodup)
    (hunbound : ∀ m ∈ ms, t.prefixFor? m.uri = none)
    (hunused : ∀ m ∈ ms, ∀ other, t.prefixFor? other ≠ some m.label) (uri label : String) :
    (ms.foldl after t).prefixFor? uri = some label ↔
      t.prefixFor? uri = some label ∨ ⟨uri, label⟩ ∈ ms := by
  induction ms generalizing t with
  | nil => simp
  | cons m ms ih =>
    obtain ⟨huri, huris⟩ := List.nodup_cons.1 huris
    obtain ⟨hlabel, hlabels⟩ := List.nodup_cons.1 hlabels
    obtain ⟨hfirst, hunbound⟩ := List.forall_mem_cons.1 hunbound
    obtain ⟨hfirst', hunused⟩ := List.forall_mem_cons.1 hunused
    have hafter := prefixFor?_after hfirst hfirst'
    have hunbound' : ∀ m' ∈ ms, (t.after m).prefixFor? m'.uri = none := by
      intro m' hm'
      rw [Option.eq_none_iff_forall_ne_some]
      intro other hother
      rcases (hafter _ _).1 hother with hold | rfl
      · simp [hunbound m' hm'] at hold
      · exact huri (List.mem_map.2 ⟨m', hm', rfl⟩)
    have hunused' : ∀ m' ∈ ms, ∀ other, (t.after m).prefixFor? other ≠ some m'.label := by
      intro m' hm' other hother
      rcases (hafter _ _).1 hother with hold | rfl
      · exact hunused m' hm' other hold
      · exact hlabel (List.mem_map.2 ⟨m', hm', rfl⟩)
    rw [List.foldl_cons, ih huris hlabels hunbound' hunused', hafter, List.mem_cons, or_assoc]

end PrefixTable

/-! ### The default tables as a document -/

/-- What a document says that has the entries of the default tables. -/
def Defaults.configuration : Configuration where
  requests := requests
  prefixMappings := prefixMappings
  locale := some locale
  providerMappings := none
  skipped := []

namespace AlgorithmRegistry

variable {a : AlgorithmRegistry}

/-- The default tables come to what a document with their entries comes to. -/
theorem applyDefaults_yields (h : a.catalog.Steady) :
    a.applyDefaults.Yields (a.applied Defaults.configuration .defaults) := by
  have hyields := applied_prefixes_first h (d := Defaults.configuration) rfl .defaults
  simp only [Defaults.configuration, Option.some_or, Option.none_or] at hyields ⊢
  rw [applyDefaults]
  exact hyields

/-- The registry made ready by the default tables is the one that a document with their entries
comes to. -/
theorem initDefaults_of_steady (ha : a.report = none) (h : a.catalog.Steady) (j : Journal) :
    let applied := a.applied Defaults.configuration .defaults
    ∃ j', a.initDefaults j =
      (({ applied.registry with report := some applied.report }, applied.report), j') := by
  have hload := a.loadDefaults_apply j
  simp only [applyDefaults_yields h j] at hload
  exact ⟨_, initDefaults_of_ok ha hload⟩

end AlgorithmRegistry

/-! ### Requests of tables -/

namespace Defaults

variable {c c' : Category} {table : List (String × String)}

theorem filter_requestsOf :
    ((requestsOf c' table).filter fun q => q.category = c) =
      if c' = c then requestsOf c' table else [] := by
  by_cases h : c' = c <;> simp [requestsOf, List.filter_map, Function.comp_def, h]

theorem filter_id_requestsOf (id : String) :
    ((requestsOf c table).filter fun q => q.id = id) =
      requestsOf c (table.filter fun row => row.1 = id) := by
  rw [requestsOf, List.filter_map]
  rfl

theorem filter_requests_transforms :
    (requests.filter fun q => q.category = .transform) = requestsOf .transform transforms := by
  simp [requests, filter_requestsOf]

theorem filter_requests_signatures :
    (requests.filter fun q => q.category = .signatureAlgorithm) =
      requestsOf .signatureAlgorithm signatureAlgorithms := by
  simp [requests, filter_requestsOf]

end Defaults

namespace Bundled

theorem filter_resolversOf {c c' : Category} {table : List (String × String)} :
    ((Configuration.resolversOf c' table).filter fun q => q.category = c) =
      if c' = c then Configuration.resolversOf c' table else [] := by
  by_cases h : c' = c <;> simp [Configuration.resolversOf, List.filter_map, Function.comp_def, h]

theorem filter_requests_transforms :
    (requests.filter fun q => q.category = .transform) =
      Defaults.requestsOf .transform Defaults.transforms := by
  simp [requests, Defaults.filter_requestsOf, filter_resolversOf]

theorem filter_requests_signatures :
    (requests.filter fun q => q.category = .signatureAlgorithm) =
      Defaults.requestsOf .signatureAlgorithm signatureAlgorithms := by
  simp [requests, Defaults.filter_requestsOf, filter_resolversOf]

end Bundled

/-! ### Documents that have the default entries -/

namespace Configuration

/-- Neither namespaces nor prefixes repeat in the prefix mappings. -/
structure Distinct (d : Configuration) : Prop where
  uris : (d.prefixMappings.map (·.uri)).Nodup
  labels : (d.prefixMappings.map (·.label)).Nodup

/-- The document has the transforms of the default tables and no others, their signature algorithms
and prefixes, and their locale. -/
structure HasDefaults (d : Configuration) : Prop where
  transforms : d.requestsIn .transform = Defaults.configuration.requestsIn .transform
  signatures : ∀ row ∈ Defaults.signatureAlgorithms,
    d.requestsFor .signatureAlgorithm row.1 =
      Defaults.configuration.requestsFor .signatureAlgorithm row.1
  mappings : Defaults.prefixMappings ⊆ d.prefixMappings
  distinct : d.Distinct
  locale : d.locale = some Defaults.locale

end Configuration

/-- The registries `a` and their report `r`, which come from the default tables, and the registries
`b` and their report `s`, which come from elsewhere, agree on what is in the tables. -/
structure Defaults.Agree (a b : AlgorithmRegistry) (r s : Report) : Prop where
  transforms : b.registry .transform = a.registry .transform
  signatures : ∀ uri descriptor,
    (a.registry .signatureAlgorithm).lookup? uri = some descriptor →
      (b.registry .signatureAlgorithm).lookup? uri = some descriptor
  /-- The namespaces of the tables have their prefixes. -/
  bound : ∀ row ∈ namespaces, a.prefixes.prefixFor? row.1 = some row.2
  prefixes : ∀ uri label, a.prefixes.prefixFor? uri = some label →
    b.prefixes.prefixFor? uri = some label
  locale : b.locale = a.locale
  /-- What is reported of the identifiers in the tables, each in its category, is the same. -/
  failures : ∀ entries ∈ [(Category.transform, Defaults.transforms),
      (.signatureAlgorithm, signatureAlgorithms)], ∀ row ∈ entries.2,
    (s.failures.filter fun f => f.error.id = row.1 ∧ f.category = entries.1) =
      r.failures.filter fun f => f.error.id = row.1 ∧ f.category = entries.1

namespace Defaults.Agree

variable {a b : AlgorithmRegistry} {r s : Report}

/-- The reports that made the registries ready do not matter. -/
theorem withReports (h : Agree a b r s) (report report' : Option Report) :
    Agree { a with report } { b with report := report' } r s :=
  ⟨h.transforms, h.signatures, h.bound, h.prefixes, h.locale, h.failures⟩

end Defaults.Agree

namespace AlgorithmRegistry

open DsigRegistry.Configuration

variable {k : Catalog} {d : Configuration} {mode : Mode}

theorem prefixFor?_applied (h : d.Distinct) (uri label : String) :
    ((ofCatalog k).applied d mode).registry.prefixes.prefixFor? uri = some label ↔
      ⟨uri, label⟩ ∈ d.prefixMappings := by
  have hempty (uri : String) : PrefixTable.empty.prefixFor? uri = none := rfl
  have hbound := PrefixTable.prefixFor?_foldl_after h.uris h.labels (t := .empty)
    (fun m _ => hempty m.uri) (fun m _ other => by simp [hempty]) uri label
  rw [hempty] at hbound
  exact hbound.trans (or_iff_right nofun)

theorem distinct_defaults : Defaults.configuration.Distinct where
  uris := by decide +kernel
  labels := by decide +kernel

/-- A document that has the default entries does with these what the default tables do. -/
theorem agree_of_hasDefaults (k : Catalog) (mode : Mode) (h : d.HasDefaults) :
    let a := (ofCatalog k).applied Defaults.configuration .defaults
    let b := (ofCatalog k).applied d mode
    Defaults.Agree a.registry b.registry a.report b.report := by
  intro a b
  have htransforms (uri : String) :
      d.requestsFor .transform uri = Defaults.configuration.requestsFor .transform uri := by
    rw [requestsFor_eq_filter, requestsFor_eq_filter, h.transforms]
  refine ⟨registry_applied_congr h.transforms, fun uri descriptor huri => ?_,
    fun row hrow => ?_, fun uri label hlabel => ?_, ?_, ?_⟩
  · obtain ⟨q, hq, rfl⟩ := exists_request_of_lookup? huri
    rw [requestsIn, Defaults.configuration, Defaults.filter_requests_signatures] at hq
    obtain ⟨row, hrow, rfl⟩ := List.mem_map.1 hq
    exact (lookup?_applied_congr (h.signatures row hrow)).trans huri
  · exact (prefixFor?_applied distinct_defaults _ _).2 (List.mem_map_of_mem hrow)
  · exact (prefixFor?_applied h.distinct uri label).2
      (h.mappings ((prefixFor?_applied distinct_defaults uri label).1 hlabel))
  · rw [locale_applied, locale_applied, h.locale, Defaults.configuration]
  · intro entries hentries row hrow
    rcases List.mem_cons.1 hentries with rfl | hentries
    · exact failures_applied_congr (htransforms row.1)
    · obtain rfl := List.mem_singleton.1 hentries
      exact failures_applied_congr (h.signatures row hrow)

/-- The bundled document has every signature algorithm of the default tables, once. -/
theorem filter_signatureAlgorithms : ∀ row ∈ Defaults.signatureAlgorithms,
    (Bundled.signatureAlgorithms.filter fun r => r.1 = row.1) =
      Defaults.signatureAlgorithms.filter fun r => r.1 = row.1 := by
  decide +kernel

/-- The bundled document has the default entries. -/
theorem hasDefaults_of_bundled (hrequests : d.requests = Bundled.requests)
    (hmappings : d.prefixMappings = mappingsOf Bundled.namespaces)
    (hlocale : d.locale = some Defaults.locale) : d.HasDefaults where
  transforms := by
    rw [requestsIn, requestsIn, hrequests, Bundled.filter_requests_transforms]
    exact Defaults.filter_requests_transforms.symm
  signatures row hrow := by
    have hdefaults : Defaults.configuration.requestsIn .signatureAlgorithm =
        Defaults.requestsOf .signatureAlgorithm Defaults.signatureAlgorithms :=
      Defaults.filter_requests_signatures
    rw [requestsFor_eq_filter, requestsFor_eq_filter, hdefaults, requestsIn, hrequests,
      Bundled.filter_requests_signatures, Defaults.filter_id_requestsOf,
      Defaults.filter_id_requestsOf, filter_signatureAlgorithms row hrow]
  mappings := by
    rw [hmappings]
    exact List.map_subset _ (List.subset_append_left _ _)
  distinct := by
    constructor
    · rw [hmappings]
      decide +kernel
    · rw [hmappings]
      decide +kernel
  locale := hlocale

/-- Whatever the catalog has, as long as its constructors are steady, fresh registries are made
ready by the default tables and by the bundled document alike, and agree on what is in the
tables. -/
theorem bundled_agrees_with_defaults (k : Catalog) (h : k.Steady) (j j' : Journal) :
    ∃ a b r s i i',
      (ofCatalog k).initDefaults j = ((a, r), i) ∧
      (ofCatalog k).init .bundled {} j' = ((b, .ok s), i') ∧
      Defaults.Agree a b r s := by
  obtain ⟨ss, hread, hrequests, hmappings, hlocale, -⟩ := Bundled.sections?_bundled
  obtain ⟨i, hdefaults⟩ := initDefaults_of_steady (a := ofCatalog k) rfl h j
  obtain ⟨i', hbundled⟩ := init_of_sections (a := ofCatalog k) (o := {}) rfl h hread j'
  have hagree := agree_of_hasDefaults k (.configuration Options.defaultPath)
    (hasDefaults_of_bundled hrequests hmappings hlocale)
  exact ⟨_, _, _, _, _, _, hdefaults, hbundled, hagree.withReports _ _⟩

end AlgorithmRegistry

/-! ### The built-in catalog -/

namespace Catalog

/-- The constructors among the entries are steady. -/
def SteadyEntries (entries : List (String × CatalogEntry)) : Prop :=
  ∀ e ∈ entries, ∀ i, e.2 = .available i → i.factory.Steady

theorem steady_ofList {entries : List (String × CatalogEntry)} (h : SteadyEntries entries) :
    Steady ⟨.ofList entries⟩ :=
  fun _ i hi => h _ (Dictionary.mem_of_get?_ofList hi) i rfl

theorem SteadyEntries.append {entries entries' : List (String × CatalogEntry)}
    (h : SteadyEntries entries) (h' : SteadyEntries entries') :
    SteadyEntries (entries ++ entries') :=
  List.forall_mem_append.2 ⟨h, h'⟩

theorem steadyEntries_missing (category : Category) (dependency : String) (ids : List String) :
    SteadyEntries (missing category dependency ids) := by
  intro e he i hi
  obtain ⟨id, -, rfl⟩ := List.mem_map.1 he
  cases hi

theorem steadyEntries_builtin {ι : Type} {category : Category} (id : ι → String)
    (value : ι → category.Interface) (keys : List ι) :
    SteadyEntries (keys.map fun key => builtinEntry category (id key) (value key)) := by
  intro e he i hi
  obtain ⟨key, -, rfl⟩ := List.mem_map.1 he
  cases hi
  exact Factory.steady_const _ _

theorem SteadyEntries.cons_builtin {category : Category} {id : String} {value : category.Interface}
    {entries : List (String × CatalogEntry)} (h : SteadyEntries entries) :
    SteadyEntries (builtinEntry category id value :: entries) :=
  (steadyEntries_builtin (fun _ => id) (fun _ => value) [()]).append h

theorem steadyEntries_nil : SteadyEntries [] := List.forall_mem_nil _

theorem steadyEntries_transforms : SteadyEntries transforms :=
  ((((steadyEntries_nil.cons_builtin.cons_builtin).append (steadyEntries_builtin _ _ _)).append
    (steadyEntries_missing _ _ _)).append (steadyEntries_missing _ _ _)).append
    (steadyEntries_missing _ _ _)

theorem steadyEntries_signatureAlgorithms (withLegacy : Bool) :
    SteadyEntries (signatureAlgorithms withLegacy) := by
  refine (SteadyEntries.append (steadyEntries_builtin _ _ _) ?_).append
    (steadyEntries_missing _ _ _)
  cases withLegacy with
  | false => exact steadyEntries_missing _ _ _
  | true => exact steadyEntries_builtin _ _ _

/-- The implementations of this library are always to be had. -/
theorem steady_builtin (withLegacy : Bool) (files : FileSystem) :
    (builtin withLegacy files).Steady := by
  have hresources : SteadyEntries (resourceResolvers files) :=
    (steadyEntries_nil.cons_builtin.append (steadyEntries_missing _ _ _)).append
      (steadyEntries_missing _ _ _)
  have hkeys : SteadyEntries keyResolvers :=
    steadyEntries_nil.cons_builtin.cons_builtin.append (steadyEntries_missing _ _ _)
  exact steady_ofList (((((steadyEntries_missing _ _ _).append steadyEntries_transforms).append
    (steadyEntries_signatureAlgorithms withLegacy)).append hresources).append hkeys)

end Catalog

namespace AlgorithmRegistry

/-- The report that makes a registry ready is none of its entries. -/
theorem registry_withReport (a : AlgorithmRegistry) (report : Option Report) (c : Category) :
    ({ a with report } : AlgorithmRegistry).registry c = a.registry c := by
  cases c <;> rfl

/-- The catalog is the built-in one with an implementation from the host, which is then found in the
registries of either. -/
theorem bundled_agrees_with_defaults_host :
    let factory : Factory SignatureAlgorithm := .const (.host 0) (Hmac.algorithm .sha256)
    let k := (Catalog.builtin false ⟨.emptyDirectory, []⟩).provide ImplementationId.rsaSha256
      (.const (.host 0) .signatureAlgorithm (Hmac.algorithm .sha256))
    k.Steady ∧ ∃ a b r s i i',
      (ofCatalog k).initDefaults [] = ((a, r), i) ∧
      (ofCatalog k).init .bundled {} [] = ((b, .ok s), i') ∧
      Defaults.Agree a b r s ∧
      (a.registry .signatureAlgorithm).lookup? Algorithm.rsaSha256 =
        some (.described ImplementationId.rsaSha256 factory none) ∧
      (b.registry .signatureAlgorithm).lookup? Algorithm.rsaSha256 =
        some (.described ImplementationId.rsaSha256 factory none) := by
  intro factory k
  have hsteady : k.Steady := (Catalog.steady_builtin _ _).provide _ (Factory.steady_const _ _)
  obtain ⟨a, b, r, s, i, i', hdefaults, hbundled, hagree⟩ :=
    bundled_agrees_with_defaults k hsteady [] []
  let q : Request := ⟨.signatureAlgorithm, Algorithm.rsaSha256, ImplementationId.rsaSha256, none⟩
  have hrequests : Defaults.configuration.requestsFor .signatureAlgorithm Algorithm.rsaSha256 =
      [q] := by
    decide +kernel
  have hworking : k.working? q = some factory :=
    Catalog.working?_provide (q := q) (x := Hmac.algorithm .sha256) _ rfl rfl
  have hfound := lookup?_applied_of_working (a := ofCatalog k) hrequests hworking .defaults
  obtain ⟨_, hstate⟩ := initDefaults_of_steady (a := ofCatalog k) rfl hsteady []
  have hready : a = { ((ofCatalog k).applied Defaults.configuration .defaults).registry with
      report := some ((ofCatalog k).applied Defaults.configuration .defaults).report } :=
    congrArg (·.1.1) (hdefaults.symm.trans hstate)
  rw [← registry_withReport, ← hready] at hfound
  exact ⟨hsteady, a, b, r, s, i, i', hdefaults, hbundled, hagree, hfound,
    hagree.signatures _ _ hfound⟩

end AlgorithmRegistry

end DsigRegistry
