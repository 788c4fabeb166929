import DsigRegistry.Proofs.Bootstrap

/-!
# Applying a document with steady constructors

If each constructor in the catalog answers the same way on each call, whether an entry fails can
be told from the registry at the outset. Applying a document is then a fold over the entries that
do not fail, and its report lists the others. Main fact: `apply_yields`.
-/

namespace DsigRegistry

/-- The constructors of the implementations answer the same way on each call. -/
def Catalog.Steady (k : Catalog) : Prop :=
  ∀ id i, k.entries.get? id = some (.available i) → i.factory.Steady

theorem Implementation.factoryFor?_steady {i : Implementation} (h : i.factory.Steady) {c : Category}
    {factory : Factory c.Interface} (hf : i.factoryFor? c = some factory) : factory.Steady := by
  unfold factoryFor? at hf
  split at hf
  next hc =>
    subst hc
    obtain rfl := Option.some.inj hf
    exact h
  next => contradiction

theorem Catalog.Steady.resolve {k : Catalog} (h : k.Steady) {c : Category}
    {id implementation : String} {factory : Factory c.Interface}
    (hf : k.resolve c id implementation = .ok factory) : factory.Steady := by
  unfold Catalog.resolve at hf
  split at hf
  next => contradiction
  next => split at hf <;> contradiction
  next i hi =>
    split at hf
    next hfactory =>
      obtain rfl := Except.ok.inj hf
      exact Implementation.factoryFor?_steady (h _ i hi) hfactory
    next => contradiction

theorem Catalog.steady_empty : Catalog.empty.Steady := by
  intro id i h
  simp [Catalog.empty] at h

theorem Catalog.Steady.provide {k : Catalog} (h : k.Steady) (id : String) {i : Implementation}
    (hi : i.factory.Steady) : (k.provide id i).Steady := by
  intro id' i' h'
  rw [Catalog.provide, Dictionary.get?_insert] at h'
  split at h'
  next =>
    cases h'
    exact hi
  next => exact h id' i' h'

theorem Factory.steady_const {α : Type} (id : FactoryId) (value : α) : (const id value).Steady :=
  fun _ _ => rfl

/-- What the report says of an entry that was registered. -/
def Request.registration (q : Request) : Registration :=
  ⟨q.category, q.id, q.implementation⟩

namespace AlgorithmRegistry

variable (a : AlgorithmRegistry) (q : Request)

/-! ### One entry -/

/-- What registering an entry comes to. -/
def attempt : Except RegistrationError AlgorithmRegistry :=
  (a.registerDescribed q.category q.id q.implementation q.description).answer

/-- The failure of an entry that cannot be registered. -/
def failure? : Option EntryFailure :=
  match a.attempt q with
  | .ok _ => none
  | .error e => some ⟨q.category, e⟩

/-- The registry after an entry. -/
def entered : AlgorithmRegistry :=
  match a.attempt q with
  | .ok b => b
  | .error _ => a

theorem attempt_eq :
    a.attempt q =
      match a.catalog.resolve q.category q.id q.implementation with
      | .error e => .error e
      | .ok factory =>
        match factory.build 0 with
        | .error cause =>
          .error (.unresolvable (a.registry q.category).category q.id q.implementation
            (.construction cause))
        | .ok _ =>
          .ok (a.withDescribed q.category q.id q.implementation q.description factory) := by
  unfold attempt Traced.answer
  rw [registerDescribed_apply]
  cases a.catalog.resolve q.category q.id q.implementation with
  | error e => rfl
  | ok factory =>
    have hcalls : Journal.constructions [] factory.id = 0 := rfl
    dsimp only
    rw [hcalls]
    cases factory.build 0 with
    | error cause => rfl
    | ok x => rfl

variable {a}

theorem attempt_yields (h : a.catalog.Steady) :
    (a.registerDescribed q.category q.id q.implementation q.description).Yields
      (a.attempt q) := by
  intro j
  rw [attempt_eq, registerDescribed_apply]
  cases hr : a.catalog.resolve q.category q.id q.implementation with
  | error e => rfl
  | ok factory =>
    simp only [h.resolve hr (Journal.constructions j factory.id) 0]
    cases factory.build 0 with
    | error cause => rfl
    | ok x => rfl

/-- Whether an entry fails depends on the catalog, and the failure on the category that the
registry goes by. -/
theorem failure?_congr {b : AlgorithmRegistry} (hcatalog : b.catalog = a.catalog)
    (hcategory : ∀ c, (b.registry c).category = (a.registry c).category) :
    b.failure? = a.failure? := by
  funext q
  simp only [failure?, attempt_eq, hcatalog, hcategory]
  cases a.catalog.resolve q.category q.id q.implementation with
  | error e => rfl
  | ok factory =>
    dsimp only
    cases factory.build 0 with
    | error cause => rfl
    | ok x => rfl

/-- Registering an entry either leaves everything as it was or replaces the registry of its
category by one for the same category. -/
theorem entered_cases : a.entered q = a ∨
    ∃ r, r.category = (a.registry q.category).category ∧
      a.entered q = a.withRegistry q.category r := by
  simp only [entered, attempt_eq]
  cases a.catalog.resolve q.category q.id q.implementation with
  | error e => exact .inl rfl
  | ok factory =>
    dsimp only
    cases factory.build 0 with
    | error cause => exact .inl rfl
    | ok x => exact .inr ⟨_, Registry.category_put _ _ _, rfl⟩

@[simp] theorem catalog_entered : (a.entered q).catalog = a.catalog := by
  rcases a.entered_cases q with h | ⟨r, -, h⟩ <;> simp [h]

@[simp] theorem prefixes_entered : (a.entered q).prefixes = a.prefixes := by
  rcases a.entered_cases q with h | ⟨r, -, h⟩ <;> simp [h]

@[simp] theorem category_registry_entered (c : Category) :
    ((a.entered q).registry c).category = (a.registry c).category := by
  rcases a.entered_cases q with h | ⟨r, hr, h⟩
  · rw [h]
  · by_cases hc : c = q.category
    · subst hc
      rw [h, registry_withRegistry, hr]
    · rw [h, registry_withRegistry_of_ne a hc]

@[simp] theorem failure?_entered : (a.entered q).failure? = a.failure? :=
  failure?_congr (catalog_entered q) (category_registry_entered q)

theorem prefixes_foldl_entered (qs : List Request) :
    (qs.foldl entered a).prefixes = a.prefixes := by
  induction qs generalizing a with
  | nil => rfl
  | cons q qs ih => rw [List.foldl_cons, ih, prefixes_entered]

end AlgorithmRegistry

namespace PrefixTable

/-! ### Prefixes -/

theorem bind_of_conflict {t : PrefixTable} {uri label : String} {c : PrefixConflict}
    (h : t.conflict? uri label = some c) : t.bind uri label = .error c := by
  simp [bind, h]

theorem bind_of_no_conflict {t : PrefixTable} {uri label : String}
    (h : t.conflict? uri label = none) :
    t.bind uri label = .ok ⟨t.bindings.insert uri label⟩ := by
  simp [bind, h]

/-- The table after a namespace was bound to its prefix, or could not be. -/
def after (t : PrefixTable) (m : PrefixMapping) : PrefixTable :=
  match t.bind m.uri m.label with
  | .ok t' => t'
  | .error _ => t

theorem after_of_conflict {t : PrefixTable} {m : PrefixMapping} {c : PrefixConflict}
    (h : t.conflict? m.uri m.label = some c) : t.after m = t := by
  simp [after, bind_of_conflict h]

/-- The conflicts on the way when namespaces are bound to their prefixes in order. -/
def conflicts : PrefixTable → List PrefixMapping → List PrefixConflict
  | _, [] => []
  | t, m :: ms => (t.conflict? m.uri m.label).toList ++ conflicts (t.after m) ms

end PrefixTable

namespace Progress

variable {p : Progress}

/-! ### All entries -/

theorem enter_yields_of_none (h : p.registry.catalog.Steady) {q : Request}
    (hq : p.registry.failure? q = none) :
    (p.enter q).Yields
      ⟨p.registry.entered q,
        { p.report with registered := p.report.registered ++ [q.registration] }⟩ := by
  intro j
  have hyields := AlgorithmRegistry.attempt_yields q h j
  rcases hr : p.registry.registerDescribed q.category q.id q.implementation q.description j
    with ⟨outcome, j'⟩
  rw [hr] at hyields
  simp only [AlgorithmRegistry.failure?, ← hyields] at hq
  cases outcome with
  | error e => contradiction
  | ok b =>
    rw [enter_of_ok p hr, AlgorithmRegistry.entered, ← hyields]
    rfl

theorem enter_yields_of_some (h : p.registry.catalog.Steady) {q : Request} {f : EntryFailure}
    (hq : p.registry.failure? q = some f) :
    (p.enter q).Yields
      { p with report := { p.report with failures := p.report.failures ++ [f] } } := by
  intro j
  have hyields := AlgorithmRegistry.attempt_yields q h j
  rcases hr : p.registry.registerDescribed q.category q.id q.implementation q.description j
    with ⟨outcome, j'⟩
  rw [hr] at hyields
  simp only [AlgorithmRegistry.failure?, ← hyields] at hq
  cases outcome with
  | error e =>
    obtain rfl := Option.some.inj hq
    rw [enter_of_error p hr]
  | ok b => contradiction

theorem enterAll_cons (q : Request) (qs : List Request) :
    p.enterAll (q :: qs) = p.enter q >>= fun p' => p'.enterAll qs :=
  List.foldlM_cons

theorem bindPrefixes_cons (m : PrefixMapping) (ms : List PrefixMapping) :
    p.bindPrefixes (m :: ms) = p.bindPrefix m >>= fun p' => p'.bindPrefixes ms :=
  List.foldlM_cons

/-- The entries that do not fail are registered, in order, and the others are reported. -/
theorem enterAll_yields (h : p.registry.catalog.Steady) (qs : List Request) :
    let kept := qs.filter fun q => (p.registry.failure? q).isNone
    (p.enterAll qs).Yields
      ⟨kept.foldl .entered p.registry,
        { p.report with
          registered := p.report.registered ++ kept.map Request.registration
          failures := p.report.failures ++ qs.filterMap p.registry.failure? }⟩ := by
  induction qs generalizing p with
  | nil =>
    simp only [List.filter_nil, List.foldl_nil, List.map_nil, List.filterMap_nil, List.append_nil]
    exact .pure p
  | cons q qs ih =>
    cases hq : p.registry.failure? q with
    | none =>
      have hfirst := enter_yields_of_none h hq
      have hrest := hfirst.bind (f := fun p' => p'.enterAll qs) (ih (by simpa using h))
      simpa [enterAll_cons, hq] using hrest
    | some f =>
      have hfirst := enter_yields_of_some h hq
      have hrest := hfirst.bind (f := fun p' => p'.enterAll qs) (ih (by exact h))
      simpa [enterAll_cons, hq] using hrest

theorem bindPrefixes_yields (ms : List PrefixMapping) :
    (p.bindPrefixes ms).Yields
      ⟨{ p.registry with prefixes := ms.foldl .after p.registry.prefixes },
        { p.report with
          prefixConflicts :=
            p.report.prefixConflicts ++ p.registry.prefixes.conflicts ms }⟩ := by
  induction ms generalizing p with
  | nil =>
    simp only [List.foldl_nil, PrefixTable.conflicts, List.append_nil]
    exact .pure p
  | cons m ms ih =>
    cases hm : p.registry.prefixes.conflict? m.uri m.label with
    | none =>
      have hbind := PrefixTable.bind_of_no_conflict hm
      have hfirst : (p.bindPrefix m).Yields
          { p with registry := { p.registry with prefixes := p.registry.prefixes.after m } } := by
        intro j
        rw [bindPrefix_of_ok p hbind, PrefixTable.after, hbind]
      have hrest := hfirst.bind (f := fun p' => p'.bindPrefixes ms) ih
      simpa [bindPrefixes_cons, PrefixTable.conflicts, hm] using hrest
    | some c =>
      have hbind := PrefixTable.bind_of_conflict hm
      have hfirst : (p.bindPrefix m).Yields
          { p with report := { p.report with
            prefixConflicts := p.report.prefixConflicts ++ [c] } } := by
        intro j
        rw [bindPrefix_of_error p hbind]
      have hrest := hfirst.bind (f := fun p' => p'.bindPrefixes ms) ih
      simpa [bindPrefixes_cons, PrefixTable.conflicts, PrefixTable.after_of_conflict hm, hm]
        using hrest

end Progress

namespace AlgorithmRegistry

variable (a : AlgorithmRegistry)

/-- What applying a document comes to. -/
def applied (c : Configuration) (mode : Mode) : Progress :=
  let kept := c.requests.filter fun q => (a.failure? q).isNone
  let settled := { a with
    locale := c.locale.or a.locale
    providerMappings := c.providerMappings.or a.providerMappings }
  { registry := { kept.foldl entered settled with
      prefixes := c.prefixMappings.foldl .after a.prefixes }
    report := {
      mode
      registered := kept.map Request.registration
      failures := c.requests.filterMap a.failure?
      prefixConflicts := a.prefixes.conflicts c.prefixMappings
      skipped := c.skipped } }

variable {a}

/-- If constructors are steady, applying a document enters the entries that do not fail, in order,
and whether an entry fails depends on no other. -/
theorem apply_yields (h : a.catalog.Steady) (c : Configuration) (mode : Mode) :
    (a.apply c mode).Yields (a.applied c mode) := by
  have hfailure : { a with
      locale := c.locale.or a.locale
      providerMappings := c.providerMappings.or a.providerMappings }.failure? = a.failure? :=
    failure?_congr rfl fun d => by cases d <;> rfl
  intro j
  have hentered := (Progress.enterAll_yields (p := ⟨{ a with
      locale := c.locale.or a.locale
      providerMappings := c.providerMappings.or a.providerMappings }, { mode }⟩) h c.requests) j
  simp only [apply, Traced.bind_apply, Traced.pure_apply, hentered,
    Progress.bindPrefixes_yields c.prefixMappings _]
  simp only [hfailure, prefixes_foldl_entered, applied, List.nil_append]

end AlgorithmRegistry

end DsigRegistry
