import DsigRegistry.Proofs.Accounting

/-!
# What a report says

When requests are registered one by one, each is registered or refused, whatever comes of the
others. A bootstrap reports these verdicts, and the registries it leaves behind are those that the
requests have made that were registered. Nothing is assumed of constructors: they may fail on some
calls only. Main fact: `report_truthful`.
-/

namespace DsigRegistry

/-- A request with the error that it was refused with, if it was. -/
structure Verdict where
  request : Request
  error? : Option RegistrationError
deriving DecidableEq

namespace Verdict

/-- The request, if it was registered. -/
def success? (v : Verdict) : Option Request :=
  if v.error?.isNone then some v.request else none

/-- The failure, if it was refused. -/
def failure? (v : Verdict) : Option EntryFailure :=
  v.error?.map fun e => ⟨v.request.category, e⟩

/-- The requests of a category that were registered, in order. -/
def successesIn (vs : List Verdict) (c : Category) : List Request :=
  (vs.filterMap success?).filter fun q => q.category = c

/-- The last request that was registered in the category under the identifier. -/
def latest? (vs : List Verdict) (c : Category) (id : String) : Option Request :=
  ((successesIn vs c).filter fun q => q.id = id).getLast?

variable {vs : List Verdict} {q : Request}

@[simp] theorem success?_of_none : success? ⟨q, none⟩ = some q := rfl

@[simp] theorem success?_of_some (e : RegistrationError) : success? ⟨q, some e⟩ = none := rfl

@[simp] theorem failure?_of_none : failure? ⟨q, none⟩ = none := rfl

@[simp] theorem failure?_of_some (e : RegistrationError) :
    failure? ⟨q, some e⟩ = some ⟨q.category, e⟩ := rfl

/-- Every verdict is either a success or a failure. -/
theorem length_successes_add_failures (vs : List Verdict) :
    (vs.filterMap success?).length + (vs.filterMap failure?).length = vs.length := by
  induction vs with
  | nil => rfl
  | cons v vs ih =>
    obtain ⟨q, none | e⟩ := v
    · rw [List.filterMap_cons_some success?_of_none, List.filterMap_cons_none failure?_of_none,
        List.length_cons, List.length_cons]
      omega
    · rw [List.filterMap_cons_none (success?_of_some e),
        List.filterMap_cons_some (failure?_of_some e), List.length_cons, List.length_cons]
      omega

theorem successesIn_concat_of_success :
    successesIn (vs ++ [⟨q, none⟩]) q.category = successesIn vs q.category ++ [q] := by
  simp [successesIn]

theorem successesIn_concat_of_ne {c : Category} (h : q.category ≠ c) :
    successesIn (vs ++ [⟨q, none⟩]) c = successesIn vs c := by
  simp [successesIn, h]

theorem successesIn_concat_of_failure (e : RegistrationError) :
    successesIn (vs ++ [⟨q, some e⟩]) = successesIn vs := by
  funext c
  simp [successesIn]

end Verdict

/-- The mappings that are refused when namespaces are bound to their prefixes in order. -/
def PrefixTable.refused : PrefixTable → List PrefixMapping → List PrefixMapping
  | _, [] => []
  | t, m :: ms =>
    match t.bind m.uri m.label with
    | .ok t' => refused t' ms
    | .error _ => m :: refused t ms

/-- Each mapping that is refused has its own conflict. -/
theorem PrefixTable.forall₂_refused_conflicts (t : PrefixTable) (ms : List PrefixMapping) :
    List.Forall₂ (fun m c => c.label = m.label ∧ c.requested = m.uri ∧ c.existing ≠ m.uri)
      (t.refused ms) (t.conflicts ms) := by
  induction ms generalizing t with
  | nil => exact .nil
  | cons m ms ih =>
    cases h : t.conflict? m.uri m.label with
    | none =>
      have hafter : t.after m = ⟨t.bindings.insert m.uri m.label⟩ := by
        rw [after, bind_of_no_conflict h]
      simpa [refused, conflicts, bind_of_no_conflict h, h, hafter] using ih _
    | some c =>
      have hconflict : c.label = m.label ∧ c.requested = m.uri ∧ c.existing ≠ m.uri := by
        obtain ⟨b, hb, rfl⟩ := Option.map_eq_some_iff.1 h
        have hfound := List.find?_some hb
        simp only [Bool.and_eq_true, bne_iff_ne] at hfound
        exact ⟨rfl, rfl, hfound.2⟩
      simp only [refused, conflicts, bind_of_conflict h, h, after_of_conflict h]
      exact .cons hconflict (ih t)

namespace AlgorithmRegistry

/-- Register requests one by one, whatever comes of each, with the verdicts. -/
def registerEach :
    AlgorithmRegistry → List Request → Traced (AlgorithmRegistry × List Verdict)
  | a, [] => return (a, [])
  | a, q :: qs => do
    match ← a.registerDescribed q.category q.id q.implementation q.description with
    | .ok b =>
      let (after, vs) ← b.registerEach qs
      return (after, ⟨q, none⟩ :: vs)
    | .error e =>
      let (after, vs) ← a.registerEach qs
      return (after, ⟨q, some e⟩ :: vs)

/-- What comes of requests that are registered one by one. -/
def verdicts (a : AlgorithmRegistry) (qs : List Request) (j : Journal) : List Verdict :=
  (a.registerEach qs j).1.2

variable {a b : AlgorithmRegistry} {q : Request} {j j' : Journal}

theorem registerEach_of_ok
    (h : a.registerDescribed q.category q.id q.implementation q.description j = (.ok b, j'))
    (qs : List Request) :
    (a.registerEach (q :: qs) j).1 =
      ((b.registerEach qs j').1.1, ⟨q, none⟩ :: (b.registerEach qs j').1.2) := by
  simp [registerEach, h]

theorem registerEach_of_error {e : RegistrationError}
    (h : a.registerDescribed q.category q.id q.implementation q.description j = (.error e, j'))
    (qs : List Request) :
    (a.registerEach (q :: qs) j).1 =
      ((a.registerEach qs j').1.1, ⟨q, some e⟩ :: (a.registerEach qs j').1.2) := by
  simp [registerEach, h]

/-- There is one verdict for each request. -/
theorem map_request_verdicts (qs : List Request) :
    (a.verdicts qs j).map Verdict.request = qs := by
  unfold verdicts
  induction qs generalizing a j with
  | nil => rfl
  | cons q qs ih =>
    rcases h : a.registerDescribed q.category q.id q.implementation q.description j
      with ⟨outcome, j'⟩
    cases outcome with
    | ok b => rw [registerEach_of_ok h, List.map_cons, ih]
    | error e => rw [registerEach_of_error h, List.map_cons, ih]

theorem names_of_mem_verdicts {qs : List Request} {v : Verdict} (hv : v ∈ a.verdicts qs j) :
    ∀ e ∈ v.error?, e.id = v.request.id ∧ e.implementation = v.request.implementation := by
  unfold verdicts at hv
  induction qs generalizing a j with
  | nil => cases hv
  | cons q qs ih =>
    rcases h : a.registerDescribed q.category q.id q.implementation q.description j
      with ⟨outcome, j'⟩
    cases outcome with
    | ok b =>
      rw [registerEach_of_ok h] at hv
      rcases List.mem_cons.1 hv with rfl | hv
      · exact nofun
      · exact ih hv
    | error e =>
      rw [registerEach_of_error h] at hv
      rcases List.mem_cons.1 hv with rfl | hv
      · rintro _ ⟨⟩
        exact names_of_error h
      · exact ih hv

/-! ### Registries and verdicts -/

/-- The registries are those that the requests have made that were registered. -/
structure Reflects (a : AlgorithmRegistry) (vs : List Verdict) : Prop where
  ids : ∀ c, (a.registry c).ids = ((Verdict.successesIn vs c).map (·.id)).eraseDups
  latest : ∀ c id,
    ((a.registry c).lookup? id).map (fun d => (d.implementation, d.description)) =
      (Verdict.latest? vs c id).map fun q => (q.implementation, q.description)

theorem reflects_ofCatalog (k : Catalog) : (ofCatalog k).Reflects [] where
  ids c := by cases c <;> rfl
  latest c id := by cases c <;> rfl

variable {vs : List Verdict}

theorem Reflects.concat_of_ok (ha : a.Reflects vs) (hq : q.description ≠ some "")
    (h : a.registerDescribed q.category q.id q.implementation q.description j = (.ok b, j')) :
    b.Reflects (vs ++ [⟨q, none⟩]) := by
  obtain ⟨factory, rfl⟩ := exists_factory_of_ok h
  constructor
  · intro c
    by_cases hc : q.category = c
    · subst hc
      rw [withDescribed, registry_withRegistry, Registry.ids_put, ha.ids,
        Verdict.successesIn_concat_of_success, List.map_append, List.map_singleton,
        eraseDups_concat]
    · rw [withDescribed, registry_withRegistry_of_ne a (Ne.symm hc), ha.ids,
        Verdict.successesIn_concat_of_ne hc]
  · intro c id
    by_cases hc : q.category = c
    · subst hc
      rw [withDescribed, registry_withRegistry, Registry.lookup?_put, Verdict.latest?,
        Verdict.successesIn_concat_of_success, List.filter_append]
      by_cases hid : q.id = id
      · simp [hid, Descriptor.description_described hq]
      · simpa [hid, Verdict.latest?] using ha.latest q.category id
    · rw [withDescribed, registry_withRegistry_of_ne a (Ne.symm hc), ha.latest, Verdict.latest?,
        Verdict.latest?, Verdict.successesIn_concat_of_ne hc]

theorem Reflects.concat_of_error (ha : a.Reflects vs) (e : RegistrationError) :
    a.Reflects (vs ++ [⟨q, some e⟩]) where
  ids c := by rw [Verdict.successesIn_concat_of_failure, ha.ids]
  latest c id := by
    rw [Verdict.latest?, Verdict.successesIn_concat_of_failure, ha.latest, Verdict.latest?]

/-- However requests fare, the registries are those that the registered ones have made. -/
theorem Reflects.registerEach (ha : a.Reflects vs) {qs : List Request}
    (hqs : ∀ q ∈ qs, q.description ≠ some "") (j : Journal) :
    (a.registerEach qs j).1.1.Reflects (vs ++ a.verdicts qs j) := by
  unfold verdicts
  induction qs generalizing a vs j with
  | nil => simpa [AlgorithmRegistry.registerEach] using ha
  | cons q qs ih =>
    have hrest : ∀ q ∈ qs, q.description ≠ some "" :=
      fun q' hq' => hqs q' (List.mem_cons_of_mem q hq')
    rcases h : a.registerDescribed q.category q.id q.implementation q.description j
      with ⟨outcome, j'⟩
    cases outcome with
    | ok b =>
      rw [registerEach_of_ok h, List.append_cons]
      exact ih (ha.concat_of_ok (hqs q List.mem_cons_self) h) hrest j'
    | error e =>
      rw [registerEach_of_error h, List.append_cons]
      exact ih (ha.concat_of_error e) hrest j'

/-! ### The same registries -/

/-- The catalog and the five registries are the same. -/
structure Alike (a b : AlgorithmRegistry) : Prop where
  catalog : b.catalog = a.catalog
  registry : ∀ c, b.registry c = a.registry c

theorem Alike.withRegistry (h : a.Alike b) (c : Category) (r : Registry c.Interface) :
    (a.withRegistry c r).Alike (b.withRegistry c r) where
  catalog := by rw [catalog_withRegistry, catalog_withRegistry, h.catalog]
  registry d := by
    by_cases hd : d = c
    · subst hd
      rw [registry_withRegistry, registry_withRegistry]
    · rw [registry_withRegistry_of_ne b hd, registry_withRegistry_of_ne a hd, h.registry]

theorem Alike.reflects (h : a.Alike b) (ha : a.Reflects vs) : b.Reflects vs where
  ids c := by rw [h.registry, ha.ids]
  latest c id := by rw [h.registry, ha.latest]

/-- Registering a request comes to the same where the registries are the same and constructors have
been called as often. -/
theorem Alike.registerDescribed (h : a.Alike b) (hj : j.SameConstructions j') (c : Category)
    (id implementation : String) (description : Option String) :
    (∃ a' b' k k', a.registerDescribed c id implementation description j = (.ok a', k) ∧
      b.registerDescribed c id implementation description j' = (.ok b', k') ∧
      a'.Alike b' ∧ b'.prefixes = b.prefixes ∧ k.SameConstructions k') ∨
    ∃ e k k', a.registerDescribed c id implementation description j = (.error e, k) ∧
      b.registerDescribed c id implementation description j' = (.error e, k') ∧
      k.SameConstructions k' := by
  simp only [registerDescribed_apply, h.catalog, h.registry]
  cases a.catalog.resolve c id implementation with
  | error e => exact .inr ⟨e, j, j', rfl, rfl, hj⟩
  | ok factory =>
    simp only [← hj factory.id]
    cases factory.build (j.constructions factory.id) with
    | error cause => exact .inr ⟨_, _, _, rfl, rfl, hj.append _⟩
    | ok x =>
      refine .inl ⟨_, _, _, _, rfl, rfl, ?_, prefixes_withRegistry b c _, hj.append _⟩
      rw [withDescribed, withDescribed, h.registry]
      exact h.withRegistry c _

end AlgorithmRegistry

namespace Progress

open AlgorithmRegistry

variable {a : AlgorithmRegistry} {p : Progress} {j j' : Journal}

/-- A bootstrap registers its requests one by one and reports the verdicts. -/
theorem enterAll_verdicts (h : a.Alike p.registry) (hj : j.SameConstructions j')
    (qs : List Request) :
    let entered := (p.enterAll qs j').1
    let vs := a.verdicts qs j
    (a.registerEach qs j).1.1.Alike entered.registry ∧
      entered.registry.prefixes = p.registry.prefixes ∧
      entered.report = { p.report with
        registered :=
          p.report.registered ++ (vs.filterMap Verdict.success?).map Request.registration
        failures := p.report.failures ++ vs.filterMap Verdict.failure? } := by
  unfold verdicts
  induction qs generalizing a p j j' with
  | nil => simpa [enterAll, registerEach] using h
  | cons q qs ih =>
    rw [enterAll_cons, Traced.bind_apply]
    rcases h.registerDescribed hj q.category q.id q.implementation q.description with
      ⟨a', b', k, k', ha, hb, halike, hprefixes, hk⟩ | ⟨e, k, k', ha, hb, hk⟩
    · obtain ⟨hregistry, hprefixes', hreport⟩ :=
        @ih a' ⟨b', { p.report with
          registered := p.report.registered ++ [q.registration] }⟩ k k' halike hk
      rw [registerEach_of_ok ha, p.enter_of_ok hb]
      refine ⟨hregistry, hprefixes'.trans hprefixes, hreport.trans ?_⟩
      simp [List.filterMap_cons]
    · obtain ⟨hregistry, hprefixes', hreport⟩ :=
        @ih a { p with report := { p.report with
          failures := p.report.failures ++ [⟨q.category, e⟩] } } _ _ h
          (hk.trans (Journal.sameConstructions_reported _ k'))
      rw [registerEach_of_error ha, p.enter_of_error hb]
      refine ⟨hregistry, hprefixes', hreport.trans ?_⟩
      simp [List.filterMap_cons]

/-- Binding prefixes calls no constructor. -/
theorem bindPrefixes_sameConstructions (ms : List PrefixMapping) (j : Journal) :
    j.SameConstructions (p.bindPrefixes ms j).2 := by
  induction ms generalizing p j with
  | nil => exact .refl j
  | cons m ms ih =>
    rw [bindPrefixes_cons, Traced.bind_apply]
    refine Journal.SameConstructions.trans ?_ (ih _)
    cases h : p.registry.prefixes.bind m.uri m.label with
    | ok t =>
      rw [p.bindPrefix_of_ok h]
      exact Journal.sameConstructions_reported _ j
    | error c =>
      rw [p.bindPrefix_of_error h]
      exact Journal.sameConstructions_reported _ j

end Progress

theorem Configuration.description_of_mem_requests {ss : List (Xml.Element Xml.Name)} {q : Request}
    (h : q ∈ (ofSections ss).requests) : q.description ≠ some "" := by
  obtain ⟨o, ho, hq⟩ := List.mem_filterMap.1 h
  obtain ⟨t, ht⟩ := exists_amounts ho
  rw [Outcome.request?_eq_some_iff.1 hq] at ht
  intro hdescription
  exact (ht.trimmed_request.2.2 "" hdescription).ne_empty rfl

theorem Defaults.description_of_mem_requests {q : Request} (h : q ∈ requests) :
    q.description ≠ some "" := by
  rcases List.mem_append.1 h with h | h
  · obtain ⟨row, -, rfl⟩ := List.mem_map.1 h
    exact nofun
  · obtain ⟨row, -, rfl⟩ := List.mem_map.1 h
    exact nofun

/-- Each failure is an error or a warning, and none is both. -/
theorem Report.errors_append_warnings_perm (r : Report) :
    (r.errors ++ r.warnings).Perm r.failures ∧ r.errors.Disjoint r.warnings := by
  constructor
  · have hwarnings : r.warnings = r.failures.filter fun f => !decide (f.severity = .error) := by
      refine List.filter_congr fun f _ => ?_
      cases f.severity <;> rfl
    rw [hwarnings]
    exact List.filter_append_perm _ r.failures
  · intro f herror hwarning
    have herror' : f.severity = .error := of_decide_eq_true (List.mem_filter.1 herror).2
    have hwarning' : f.severity = .warning := of_decide_eq_true (List.mem_filter.1 hwarning).2
    rw [herror'] at hwarning'
    contradiction

namespace AlgorithmRegistry

/-- What was asked for, what came of each request, the registries and the report agree. -/
structure Truthful (qs : List Request) (ms : List PrefixMapping) (es : List SkippedEntry)
    (vs : List Verdict) (a : AlgorithmRegistry) (r : Report) : Prop where
  requests : vs.map Verdict.request = qs
  names : ∀ v ∈ vs, ∀ e ∈ v.error?,
    e.id = v.request.id ∧ e.implementation = v.request.implementation
  registered : r.registered = (vs.filterMap Verdict.success?).map Request.registration
  failures : r.failures = vs.filterMap Verdict.failure?
  total : r.registered.length + r.failures.length = qs.length
  severities : (r.errors ++ r.warnings).Perm r.failures ∧ r.errors.Disjoint r.warnings
  ids : ∀ c, (a.registry c).ids = (r.registeredIn c).eraseDups
  latest : ∀ c id,
    ((a.registry c).lookup? id).map (fun d => (d.implementation, d.description)) =
      (Verdict.latest? vs c id).map fun q => (q.implementation, q.description)
  skipped : r.skipped = es
  prefixConflicts :
    List.Forall₂ (fun m c => c.label = m.label ∧ c.requested = m.uri ∧ c.existing ≠ m.uri)
      (PrefixTable.empty.refused ms) r.prefixConflicts
  prefixes : a.prefixes = ms.foldl .after .empty

variable {a b : AlgorithmRegistry}

/-- A report of the verdicts agrees with the registries that the same requests have made. -/
theorem truthful_of_verdicts {k : Catalog} {qs : List Request} {ms : List PrefixMapping}
    {es : List SkippedEntry} {r : Report} {j : Journal} (hqs : ∀ q ∈ qs, q.description ≠ some "")
    (halike : ((ofCatalog k).registerEach qs j).1.1.Alike a)
    (hregistered : r.registered =
      (((ofCatalog k).verdicts qs j).filterMap Verdict.success?).map Request.registration)
    (hfailures : r.failures = ((ofCatalog k).verdicts qs j).filterMap Verdict.failure?)
    (hskipped : r.skipped = es)
    (hconflicts : r.prefixConflicts = PrefixTable.empty.conflicts ms)
    (hprefixes : a.prefixes = ms.foldl .after .empty) :
    Truthful qs ms es ((ofCatalog k).verdicts qs j) a r := by
  have hreflects := halike.reflects ((reflects_ofCatalog k).registerEach hqs j)
  refine {
    requests := map_request_verdicts qs
    names := fun v hv => names_of_mem_verdicts hv
    registered := hregistered
    failures := hfailures
    total := ?_
    severities := r.errors_append_warnings_perm
    ids := fun c => ?_
    latest := hreflects.latest
    skipped := hskipped
    prefixConflicts := ?_
    prefixes := hprefixes }
  · rw [hregistered, hfailures, List.length_map, Verdict.length_successes_add_failures,
      ← List.length_map Verdict.request, map_request_verdicts]
  · rw [hreflects.ids, Report.registeredIn, hregistered, List.filter_map, List.map_map]
    rfl
  · rw [hconflicts]
    exact PrefixTable.forall₂_refused_conflicts _ ms

/-- The rest of a registry does not matter. -/
theorem Alike.update (h : a.Alike b) (prefixes : PrefixTable)
    (locale : Option Locale) (providerMappings : Option String) (report : Option Report) :
    a.Alike { b with prefixes, locale, providerMappings, report } where
  catalog := h.catalog
  registry c := by
    rw [← h.registry]
    cases c <;> rfl

/-- A document that has been applied has a report that agrees with the registries. -/
theorem apply_truthful (k : Catalog) (c : Configuration)
    (hc : ∀ q ∈ c.requests, q.description ≠ some "") (mode : Mode) {j j' : Journal}
    (hj : j.SameConstructions j') :
    let applied := ((ofCatalog k).apply c mode j').1
    Truthful c.requests c.prefixMappings c.skipped ((ofCatalog k).verdicts c.requests j)
      { applied.registry with report := some applied.report } applied.report := by
  let settled : AlgorithmRegistry := { ofCatalog k with
    locale := c.locale.or (ofCatalog k).locale
    providerMappings := c.providerMappings.or (ofCatalog k).providerMappings }
  have hsettled : (ofCatalog k).Alike settled := Alike.update ⟨rfl, fun _ => rfl⟩ ..
  obtain ⟨halike, hprefixes, hreport⟩ :=
    @Progress.enterAll_verdicts _ ⟨settled, { mode }⟩ j j' hsettled hj c.requests
  simp only [apply, Traced.bind_apply, Traced.pure_apply,
    Progress.bindPrefixes_yields c.prefixMappings _]
  generalize (Progress.enterAll ⟨settled, { mode }⟩ c.requests j').1 = entered at *
  refine truthful_of_verdicts hc (halike.update ..) ?_ ?_ rfl ?_ ?_
  · exact congrArg Report.registered hreport
  · exact congrArg Report.failures hreport
  · simp only [hprefixes, hreport]
    rfl
  · simp only [hprefixes]
    rfl

/-- It makes no difference if the prefixes are bound first. -/
theorem bindPrefixes_enterAll_truthful (k : Catalog) {qs : List Request}
    (hqs : ∀ q ∈ qs, q.description ≠ some "") (ms : List PrefixMapping) {p : Progress}
    {mode : Mode} (halike : (ofCatalog k).Alike p.registry) (hempty : p.registry.prefixes = .empty)
    (hreport : p.report = { mode }) (j : Journal) :
    let bound := p.bindPrefixes ms j
    let entered := (bound.1.enterAll qs bound.2).1
    Truthful qs ms [] ((ofCatalog k).verdicts qs j)
      { entered.registry with report := some entered.report } entered.report := by
  have hbound := p.bindPrefixes_yields ms j
  have hj := p.bindPrefixes_sameConstructions ms j
  rw [hempty, hreport] at hbound
  generalize p.bindPrefixes ms j = bound at *
  have halike' : (ofCatalog k).Alike bound.1.registry := by
    rw [hbound]
    exact halike.update ..
  have hprefixes : bound.1.registry.prefixes = ms.foldl .after .empty := by rw [hbound]
  have hreported : bound.1.report =
      { mode, prefixConflicts := PrefixTable.empty.conflicts ms } := by rw [hbound]; rfl
  obtain ⟨hregistry, hprefixes', hentered⟩ := Progress.enterAll_verdicts halike' hj qs
  rw [hreported] at hentered
  refine truthful_of_verdicts hqs (hregistry.update ..) ?_ ?_ ?_ ?_ (hprefixes'.trans hprefixes)
  · exact congrArg Report.registered hentered
  · exact congrArg Report.failures hentered
  · exact congrArg Report.skipped hentered
  · exact congrArg Report.prefixConflicts hentered

theorem applyDefaults_truthful (k : Catalog) (j : Journal) :
    let applied := ((ofCatalog k).applyDefaults j).1
    Truthful Defaults.requests Defaults.prefixMappings []
      ((ofCatalog k).verdicts Defaults.requests j)
      { applied.registry with report := some applied.report } applied.report := by
  unfold applyDefaults
  -- The tables do not matter any more, and nothing is to look into them.
  have hdefaults : ∀ q ∈ Defaults.requests, q.description ≠ some "" :=
    fun q hq => Defaults.description_of_mem_requests hq
  generalize Defaults.prefixMappings = ms
  generalize Defaults.requests = qs at hdefaults
  have hsettled : (ofCatalog k).Alike { ofCatalog k with locale := some Defaults.locale } :=
    Alike.update ⟨rfl, fun _ => rfl⟩ ..
  exact bindPrefixes_enterAll_truthful k hdefaults ms hsettled rfl rfl j

/-- After a document has been read and a fresh registry populated from it, and after a fresh
registry has been populated from the default tables, the report and the registries agree with what
comes of the requests when they are registered one by one. -/
theorem report_truthful (k : Catalog) (j : Journal) :
    (∀ p o c, (readConfiguration p o.path j).1 = .ok c →
      ∃ b r j', (ofCatalog k).init p o j = ((b, .ok r), j') ∧
        Truthful c.requests c.prefixMappings c.skipped
          ((ofCatalog k).verdicts c.requests j) b r) ∧
    ∃ b r j', (ofCatalog k).initDefaults j = ((b, r), j') ∧
      Truthful Defaults.requests Defaults.prefixMappings []
        ((ofCatalog k).verdicts Defaults.requests j) b r := by
  constructor
  · intro p o c hc
    cases hread : p.sections? o.path with
    | error e =>
      rw [readConfiguration_of_error hread] at hc
      cases hc
    | ok ss =>
      rw [readConfiguration_of_ok hread] at hc
      cases hc
      have hj : j.SameConstructions (j ++ p.fetching o.path ++
          (ss.flatMap Configuration.sectionEvents).map .reported) := by
        rw [List.append_assoc]
        exact Journal.sameConstructions_append (by simp [Provider.fetching]) j
      exact ⟨_, _, _, once_of_ok rfl (load_of_sections hread j),
        apply_truthful k (.ofSections ss)
          (fun q hq => Configuration.description_of_mem_requests hq) (.configuration o.path) hj⟩
  · have happlied := applyDefaults_truthful k j
    have hload := (ofCatalog k).loadDefaults_apply j
    generalize (ofCatalog k).applyDefaults j = applied at hload happlied
    exact ⟨_, _, _, initDefaults_of_ok rfl hload, happlied⟩

/-- A section with two entries for one resolver. -/
def repeatedResolver : Xml.Element Xml.Name where
  name := ⟨some Namespace.configuration, "KeyResolver"⟩
  attributes := []
  children :=
    [resolverEntry "k" "<Resolver JAVACLASS=\"k\"/>",
      resolverEntry "k" "<Resolver JAVACLASS=\"k\"/>"]
  source := "<KeyResolver><Resolver JAVACLASS=\"k\"/><Resolver JAVACLASS=\"k\"/></KeyResolver>"

/-- The constructor of the resolver works once. The second entry is refused, and what the first one
registered stays. -/
theorem report_truthful_repeated :
    let i := Implementation.const (.builtin "k") .keyResolver .keyName
    let k := Catalog.empty.provide "k" (i.failingAfter 1 (.key "spent"))
    let p := keyResolversProvider "<Resolver JAVACLASS=\"k\"/><Resolver JAVACLASS=\"k\"/>"
    ∃ b r j', (ofCatalog k).init p {} [] = ((b, .ok r), j') ∧
      r.registered = [⟨.keyResolver, "k", "k"⟩] ∧ r.failures.length = 1 ∧
      (b.registry .keyResolver).ids = ["k"] := by
  intro i k p
  have hread : p.sections? Options.defaultPath = .ok [repeatedResolver] := by cbv
  have hc : (readConfiguration p Options.defaultPath []).1 =
      .ok (Configuration.ofSections [repeatedResolver]) := by
    rw [readConfiguration_of_ok hread]
  obtain ⟨b, r, j', hinit, htruthful⟩ := (report_truthful k []).1 p {} _ hc
  have hregistered : r.registered = [⟨.keyResolver, "k", "k"⟩] := htruthful.registered
  have hfailures : r.failures.length = 1 := by
    rw [htruthful.failures]
    rfl
  refine ⟨b, r, j', hinit, hregistered, hfailures, ?_⟩
  rw [htruthful.ids, Report.registeredIn, hregistered]
  rfl

end AlgorithmRegistry

end DsigRegistry
