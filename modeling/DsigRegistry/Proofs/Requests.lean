import DsigRegistry.Proofs.SectionOrder

/-!
# The requests for one identifier

With steady constructors, what a document registers under an identifier, and which failures it
reports for it, depends on no requests but those for the identifier in its category. Documents may
then differ in all else. Main facts: `lookup?_applied_congr` and `failures_applied_congr`.
-/

namespace DsigRegistry

/-- The request is for the identifier in the category. -/
def Request.isFor (c : Category) (id : String) (q : Request) : Bool :=
  q.id = id && q.category = c

theorem Request.isFor_iff {q : Request} {c : Category} {id : String} :
    q.isFor c id = true ↔ q.id = id ∧ q.category = c := by
  rw [isFor, Bool.and_eq_true, decide_eq_true_eq, decide_eq_true_eq]

/-- The requests for an identifier in a category, in document order. -/
def Configuration.requestsFor (d : Configuration) (c : Category) (id : String) : List Request :=
  d.requests.filter (Request.isFor c id)

theorem Configuration.requestsFor_eq_filter (d : Configuration) (c : Category) (id : String) :
    d.requestsFor c id = (d.requestsIn c).filter fun q => q.id = id :=
  List.filter_filter.symm

/-- The constructor for a request, if the catalog has it and it works. -/
def Catalog.working? (k : Catalog) (q : Request) : Option (Factory q.category.Interface) :=
  match k.resolve q.category q.id q.implementation with
  | .error _ => none
  | .ok factory =>
    match factory.build 0 with
    | .error _ => none
    | .ok _ => some factory

/-- The constructor that a host has provided is there for requests that name it. -/
theorem Catalog.working?_provide (k : Catalog) {q : Request} {i : Implementation}
    {factory : Factory q.category.Interface} {x : q.category.Interface}
    (hfactory : i.factoryFor? q.category = some factory) (hbuild : factory.build 0 = .ok x) :
    (k.provide q.implementation i).working? q = some factory := by
  have hentry : (k.provide q.implementation i).entries.get? q.implementation =
      some (.available i) := by
    rw [provide, Dictionary.get?_insert, if_pos rfl]
  simp only [working?, resolve, hentry, hfactory, hbuild]

namespace AlgorithmRegistry

open DsigRegistry.Configuration

variable {a b : AlgorithmRegistry} {q : Request} {c : Category} {id : String}

/-! ### One request -/

/-- A request whose constructor works is registered, and any other one leaves everything as it
was. -/
theorem entered_eq (a : AlgorithmRegistry) (q : Request) :
    a.entered q =
      match a.catalog.working? q with
      | none => a
      | some factory => a.withDescribed q.category q.id q.implementation q.description factory := by
  rw [entered, attempt_eq, Catalog.working?]
  cases a.catalog.resolve q.category q.id q.implementation with
  | error e => rfl
  | ok factory =>
    dsimp only
    cases factory.build 0 with
    | error cause => rfl
    | ok x => rfl

theorem entered_of_failure? {f : EntryFailure} (h : a.failure? q = some f) : a.entered q = a := by
  unfold failure? at h
  unfold entered
  cases hq : a.attempt q with
  | ok b => simp [hq] at h
  | error e => rfl

theorem id_of_failure? {f : EntryFailure} (h : a.failure? q = some f) : f.error.id = q.id := by
  unfold failure? at h
  cases hq : a.attempt q with
  | ok b => simp [hq] at h
  | error e =>
    rw [hq] at h
    cases h
    obtain ⟨hid, -⟩ := names_of_error (Prod.ext hq rfl)
    exact hid

/-- A request leaves the other identifiers alone, and its own in the other categories. -/
theorem lookup?_entered_of_not (h : ¬q.isFor c id = true) :
    ((a.entered q).registry c).lookup? id = (a.registry c).lookup? id := by
  by_cases hc : c = q.category
  · subst hc
    have hid : q.id ≠ id := fun hid => h (Request.isFor_iff.2 ⟨hid, rfl⟩)
    rw [entered_eq]
    cases a.catalog.working? q with
    | none => rfl
    | some factory =>
      simp only [withDescribed, registry_withRegistry, Registry.lookup?_put, if_neg hid]
  · rw [registry_entered_of_ne hc]

/-- What a request makes of its identifier depends on no other. -/
theorem lookup?_entered_congr (hcatalog : b.catalog = a.catalog)
    (h : (b.registry q.category).lookup? q.id = (a.registry q.category).lookup? q.id) :
    ((b.entered q).registry q.category).lookup? q.id =
      ((a.entered q).registry q.category).lookup? q.id := by
  rw [entered_eq, entered_eq, hcatalog]
  cases a.catalog.working? q with
  | none => exact h
  | some factory => simp only [withDescribed, registry_withRegistry, Registry.lookup?_put, if_true]

/-- A request takes no notice of the prefixes. -/
theorem entered_withPrefixes (t : PrefixTable) (q : Request) :
    { a with prefixes := t }.entered q = { a.entered q with prefixes := t } := by
  obtain ⟨category, id, implementation, description⟩ := q
  rw [entered_eq, entered_eq]
  dsimp only
  cases a.catalog.working? ⟨category, id, implementation, description⟩ with
  | none => rfl
  | some factory => cases category <;> rfl

/-! ### All requests -/

/-- It makes no difference whether requests that fail are made. -/
theorem foldl_entered_kept (qs : List Request) :
    (qs.filter fun q => (a.failure? q).isNone).foldl entered a = qs.foldl entered a := by
  induction qs generalizing a with
  | nil => rfl
  | cons q qs ih =>
    cases hq : a.failure? q with
    | none =>
      rw [List.filter_cons_of_pos (by simp [hq]), List.foldl_cons, List.foldl_cons, ← ih,
        failure?_entered]
    | some f =>
      rw [List.filter_cons_of_neg (by simp [hq]), List.foldl_cons, entered_of_failure? hq, ih]

/-- What is registered under an identifier depends on no requests but those for it in its
category. -/
theorem lookup?_foldl_entered (hcatalog : b.catalog = a.catalog)
    (h : (b.registry c).lookup? id = (a.registry c).lookup? id) (qs : List Request) :
    ((qs.foldl entered b).registry c).lookup? id =
      (((qs.filter (Request.isFor c id)).foldl entered a).registry c).lookup? id := by
  induction qs generalizing a b with
  | nil => exact h
  | cons q qs ih =>
    by_cases hq : q.isFor c id = true
    · rw [List.filter_cons_of_pos hq, List.foldl_cons, List.foldl_cons]
      obtain ⟨rfl, rfl⟩ := Request.isFor_iff.1 hq
      exact ih (by simp [hcatalog]) (lookup?_entered_congr hcatalog h)
    · rw [List.filter_cons_of_neg hq, List.foldl_cons]
      exact ih (by simp [hcatalog]) ((lookup?_entered_of_not hq).trans h)

theorem registry_foldl_entered_congr (hcatalog : b.catalog = a.catalog)
    (h : b.registry c = a.registry c) (qs : List Request) :
    (qs.foldl entered b).registry c = (qs.foldl entered a).registry c :=
  (registry_foldl_entered hcatalog h qs).trans (registry_foldl_entered rfl rfl qs).symm

theorem foldl_entered_withPrefixes (t : PrefixTable) (qs : List Request) :
    qs.foldl entered { a with prefixes := t } = { qs.foldl entered a with prefixes := t } := by
  induction qs generalizing a with
  | nil => rfl
  | cons q qs ih => rw [List.foldl_cons, List.foldl_cons, entered_withPrefixes, ih]

/-- The failures for an identifier in a category are those of the requests for it. -/
theorem filter_failures (qs : List Request) :
    ((qs.filterMap a.failure?).filter fun f => f.error.id = id ∧ f.category = c) =
      (qs.filter (Request.isFor c id)).filterMap a.failure? := by
  rw [List.filter_filterMap, List.filterMap_filter]
  refine List.filterMap_congr fun q _ => ?_
  cases hq : a.failure? q with
  | none => simp
  | some f => simp [Option.filter_some, Request.isFor, category_of_failure? hq, id_of_failure? hq]

/-! ### Documents -/

/-- What a document makes of the registry of a category is what its requests make of it. -/
theorem registry_applied (a : AlgorithmRegistry) (d : Configuration) (mode : Mode) (c : Category) :
    (a.applied d mode).registry.registry c = (d.requests.foldl entered a).registry c := by
  let settled := { a with
    locale := d.locale.or a.locale
    providerMappings := d.providerMappings.or a.providerMappings }
  have hcatalog : settled.catalog = a.catalog := rfl
  have hregistry : settled.registry c = a.registry c := by cases c <;> rfl
  rw [← foldl_entered_kept, ← registry_foldl_entered_congr hcatalog hregistry]
  cases c <;> rfl

theorem locale_applied (a : AlgorithmRegistry) (d : Configuration) (mode : Mode) :
    (a.applied d mode).registry.locale = d.locale.or a.locale := by
  have hshell := shell_foldl_entered (a := { a with
      locale := d.locale.or a.locale
      providerMappings := d.providerMappings.or a.providerMappings })
    (d.requests.filter fun q => (a.failure? q).isNone)
  exact congrArg locale hshell

variable {d d' : Configuration} {mode mode' : Mode}

/-- Documents with the same requests of a category make the same of its registry. -/
theorem registry_applied_congr (h : d'.requestsIn c = d.requestsIn c) :
    (a.applied d' mode').registry.registry c = (a.applied d mode).registry.registry c := by
  have hrequests (d : Configuration) : (d.requests.foldl entered a).registry c =
      ((d.requestsIn c).foldl entered a).registry c :=
    registry_foldl_entered rfl rfl d.requests
  rw [registry_applied, registry_applied, hrequests, h, ← hrequests]

theorem lookup?_applied (a : AlgorithmRegistry) (d : Configuration) (mode : Mode) (c : Category)
    (id : String) :
    ((a.applied d mode).registry.registry c).lookup? id =
      (((d.requestsFor c id).foldl entered a).registry c).lookup? id := by
  rw [registry_applied]
  exact lookup?_foldl_entered rfl rfl d.requests

/-- The only request for an identifier registers it, if the constructor works. -/
theorem lookup?_applied_of_working {factory : Factory q.category.Interface}
    (h : d.requestsFor q.category q.id = [q]) (hworking : a.catalog.working? q = some factory)
    (mode : Mode) :
    ((a.applied d mode).registry.registry q.category).lookup? q.id =
      some (.described q.implementation factory q.description) := by
  rw [lookup?_applied, h, List.foldl_cons, List.foldl_nil, entered_eq, hworking]
  simp only [withDescribed, registry_withRegistry, Registry.lookup?_put, if_true]

/-- Documents with the same requests for an identifier in a category register the same under it. -/
theorem lookup?_applied_congr (h : d'.requestsFor c id = d.requestsFor c id) :
    ((a.applied d' mode').registry.registry c).lookup? id =
      ((a.applied d mode).registry.registry c).lookup? id := by
  rw [lookup?_applied, lookup?_applied, h]

/-- What is registered in a fresh registry was requested. -/
theorem exists_request_of_lookup? {k : Catalog} {descriptor : Descriptor c.Interface}
    (h : (((ofCatalog k).applied d mode).registry.registry c).lookup? id = some descriptor) :
    ∃ q ∈ d.requestsIn c, q.id = id := by
  by_contra hnone
  have hrequests : d.requestsFor c id = [] := by
    rw [requestsFor_eq_filter, List.filter_eq_nil_iff]
    intro q hq hid
    exact hnone ⟨q, hq, of_decide_eq_true hid⟩
  have hfresh : ((ofCatalog k).registry c).lookup? id = none := by cases c <;> rfl
  rw [lookup?_applied, hrequests, List.foldl_nil, hfresh] at h
  contradiction

/-- Documents with the same requests for an identifier in a category report the same failures. -/
theorem failures_applied_congr (h : d'.requestsFor c id = d.requestsFor c id) :
    ((a.applied d' mode').report.failures.filter fun f => f.error.id = id ∧ f.category = c) =
      (a.applied d mode).report.failures.filter fun f => f.error.id = id ∧ f.category = c := by
  simp only [applied, filter_failures]
  exact congrArg (List.filterMap a.failure?) h

/-- Prefixes may as well be bound before the entries are registered. -/
theorem applied_prefixes_first (h : a.catalog.Steady) (hskipped : d.skipped = []) (mode : Mode) :
    let settled := { a with
      locale := d.locale.or a.locale
      providerMappings := d.providerMappings.or a.providerMappings }
    (Progress.bindPrefixes ⟨settled, { mode }⟩ d.prefixMappings >>= fun p =>
      p.enterAll d.requests).Yields (a.applied d mode) := by
  intro settled
  let bound : Progress :=
    ⟨{ settled with prefixes := d.prefixMappings.foldl .after a.prefixes },
      { mode, prefixConflicts := [] ++ a.prefixes.conflicts d.prefixMappings }⟩
  have hfailure : bound.registry.failure? = a.failure? :=
    failure?_congr rfl fun c => by cases c <;> rfl
  have hentered := Progress.enterAll_yields (p := bound) h d.requests
  simp only [hfailure, bound, foldl_entered_withPrefixes] at hentered
  rw [applied, hskipped]
  exact (Progress.bindPrefixes_yields d.prefixMappings).bind hentered

end AlgorithmRegistry

end DsigRegistry
