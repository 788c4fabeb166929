import DsigRegistry.Proofs.Call
import DsigRegistry.Proofs.History

/-!
# What every run keeps

Whatever is called, the five registries change only by registrations that succeed. A property of
them that these keep holds through every run, and it is enough if those keep it that are asked for.
What is asked for may be known from the calls (`Stable`), or be restricted for a host while
documents ask for what they like (`Kept`). Main facts: `Stable.run`, `Kept.run` and, with them,
that every registry in a run has a history, `exists_history_run`.
-/

namespace DsigRegistry

/-- What may be registered: an implementation under an identifier in a category. -/
abbrev Admission := Category → (id implementation : String) → Prop

/-- Everything may be registered. -/
def Admission.free : Admission := fun _ _ _ => True

namespace Call

/-- If the call is a registration, it may be made. -/
def Admitted (admits : Admission) : Call → Prop
  | .register category id implementation => admits category id implementation
  | .init .. | .initDefaults | .provide .. | .declareUnavailable .. => True

theorem admitted_free (call : Call) : call.Admitted .free := by
  cases call <;> exact trivial

/-- What a call asks to register, unless the registry is ready. -/
def requests : Call → List Request
  | .init provider options =>
    match provider.sections? options.path with
    | .ok sections => (Configuration.ofSections sections).requests
    | .error _ => []
  | .initDefaults => Defaults.requests
  | .register category id implementation => [⟨category, id, implementation, none⟩]
  | .provide .. | .declareUnavailable .. => []

/-- The call is not one on the catalog. -/
def KeepsCatalog : Call → Prop
  | .init .. | .initDefaults | .register .. => True
  | .provide .. | .declareUnavailable .. => False

end Call

namespace AlgorithmRegistry

/-! ### Registrations that are asked for -/

/-- Registrations that are asked for and succeed keep the property, and apart from the registries
nothing but the catalog matters to it. -/
structure Stable (asks : Request → Prop) (P : AlgorithmRegistry → Prop) : Prop where
  registered : ∀ a q b j j', asks q → P a →
    a.registerDescribed q.category q.id q.implementation q.description j = (.ok b, j') → P b
  others : ∀ a prefixes locale providerMappings report, P a →
    P { a with prefixes, locale, providerMappings, report }

namespace Stable

variable {asks : Request → Prop} {P : AlgorithmRegistry → Prop} (hP : Stable asks P)
  {a : AlgorithmRegistry} {p : Progress}
include hP

theorem enter (hp : P p.registry) {q : Request} (hq : asks q) (j : Journal) :
    P (p.enter q j).1.registry := by
  rcases h : p.registry.registerDescribed q.category q.id q.implementation q.description j
    with ⟨outcome, j'⟩
  cases outcome with
  | ok b =>
    rw [Progress.enter_of_ok p h]
    exact hP.registered p.registry q b j j' hq hp h
  | error e =>
    rw [Progress.enter_of_error p h]
    exact hp

theorem bindPrefix (hp : P p.registry) (m : PrefixMapping) (j : Journal) :
    P (p.bindPrefix m j).1.registry := by
  cases h : p.registry.prefixes.bind m.uri m.label with
  | ok t =>
    rw [Progress.bindPrefix_of_ok p h]
    exact hP.others p.registry t _ _ _ hp
  | error c =>
    rw [Progress.bindPrefix_of_error p h]
    exact hp

theorem enterAll (hp : P p.registry) {requests : List Request} (hrequests : ∀ q ∈ requests, asks q)
    (j : Journal) : P (p.enterAll requests j).1.registry :=
  Traced.foldlM_induction (P := fun p : Progress => P p.registry)
    (fun _ q hq j hp => hP.enter hp (hrequests q hq) j) hp j

theorem bindPrefixes (hp : P p.registry) (mappings : List PrefixMapping) (j : Journal) :
    P (p.bindPrefixes mappings j).1.registry :=
  Traced.foldlM_induction (P := fun p : Progress => P p.registry)
    (fun _ m _ j hp => hP.bindPrefix hp m j) hp j

/-! ### Bootstraps -/

theorem load (ha : P a) {provider : Provider} {options : Options}
    (hrequests : ∀ q ∈ (Call.init provider options).requests, asks q) (j : Journal) :
    P (a.load provider options j).1.1 := by
  cases hread : provider.sections? options.path with
  | error e =>
    cases hpolicy : options.failurePolicy with
    | strict =>
      rw [load_of_strict hread hpolicy]
      exact ha
    | lenient =>
      rw [load_of_lenient hread hpolicy]
      exact ha
  | ok sections =>
    simp only [Call.requests, hread] at hrequests
    rw [load_of_sections hread]
    simp only [apply, Traced.bind_apply, Traced.pure_apply]
    exact hP.bindPrefixes (hP.enterAll (hP.others a _ _ _ _ ha) hrequests _) _ _

theorem applyDefaults (ha : P a) (hdefaults : ∀ q ∈ Defaults.requests, asks q) (j : Journal) :
    P (a.applyDefaults j).1.registry := by
  unfold AlgorithmRegistry.applyDefaults
  -- The tables do not matter any more, and nothing is to look into them.
  generalize Defaults.prefixMappings = mappings
  generalize Defaults.requests = requests at hdefaults
  rw [Traced.bind_apply]
  exact hP.enterAll (hP.bindPrefixes (hP.others a _ _ _ _ ha) _ _) hdefaults _

theorem loadDefaults (ha : P a) (hdefaults : ∀ q ∈ Defaults.requests, asks q) (j : Journal) :
    P (a.loadDefaults j).1.1 := by
  have happlied := hP.applyDefaults ha hdefaults j
  have hload := a.loadDefaults_apply j
  generalize a.applyDefaults j = applied at hload happlied
  rw [hload]
  exact happlied

theorem once {ε : Type} {load : Traced (AlgorithmRegistry × Except ε Report)} {j : Journal}
    (ha : P a) (hload : P (load j).1.1) : P (a.once load j).1.1 := by
  cases h : a.report with
  | some report =>
    rw [once_of_ready h]
    exact ha
  | none =>
    rcases hresult : load j with ⟨⟨populated, outcome⟩, j'⟩
    rw [hresult] at hload
    cases outcome with
    | ok report =>
      rw [once_of_ok h hresult]
      exact hP.others populated _ _ _ _ hload
    | error e =>
      rw [once_of_error h hresult]
      exact hload

/-! ### Runs -/

theorem perform (ha : P a) {call : Call} (hcall : call.KeepsCatalog)
    (hrequests : ∀ q ∈ call.requests, asks q) (j : Journal) : P (a.perform call j).1.1 := by
  cases call with
  | init provider options =>
    have hinit := hP.once ha (hP.load ha hrequests j)
    rcases h : a.init provider options j with ⟨⟨b, outcome⟩, j'⟩
    rw [← init, h] at hinit
    cases outcome with
    | ok report => simpa [AlgorithmRegistry.perform, h] using hinit
    | error e => simpa [AlgorithmRegistry.perform, h] using hinit
  | initDefaults =>
    have hinit := hP.once ha (hP.loadDefaults ha hrequests j)
    rcases h : a.once a.loadDefaults j with ⟨⟨b, outcome⟩, j'⟩
    rw [h] at hinit
    cases outcome with
    | ok report => simpa [AlgorithmRegistry.perform, initDefaults, h] using hinit
    | error e => exact e.elim
  | register category id implementation =>
    have hq := hrequests ⟨category, id, implementation, none⟩ List.mem_cons_self
    rcases h : a.registerImplementation category id implementation j with ⟨outcome, j'⟩
    cases outcome with
    | ok b => simpa [AlgorithmRegistry.perform, h] using hP.registered a _ b j j' hq ha h
    | error e => simpa [AlgorithmRegistry.perform, h] using ha
  | provide id implementation => exact hcall.elim
  | declareUnavailable id category dependency => exact hcall.elim

theorem run (ha : P a) {calls : List Call} (hcalls : ∀ call ∈ calls, call.KeepsCatalog)
    (hrequests : ∀ call ∈ calls, ∀ q ∈ call.requests, asks q) (j : Journal) :
    P (a.run calls j).1.1 := by
  induction calls generalizing a j with
  | nil => exact ha
  | cons call calls ih =>
    have hperformed := hP.perform ha (hcalls call List.mem_cons_self)
      (hrequests call List.mem_cons_self) j
    exact ih hperformed (fun c hc => hcalls c (List.mem_cons_of_mem call hc))
      (fun c hc => hrequests c (List.mem_cons_of_mem call hc)) _

end Stable

/-! ### Registrations that a host may make -/

/-- Registrations that may be made and succeed keep the property, and nothing but the five
registries matters to it. What documents and the default tables ask for may be registered. -/
structure Kept (admits : Admission) (P : AlgorithmRegistry → Prop) : Prop where
  registered : ∀ a c id d j r, admits c id d.implementation → P a →
    ((a.registry c).register id d j).1 = .ok r → P (a.withRegistry c r)
  others : ∀ a prefixes catalog locale providerMappings report, P a →
    P { a with prefixes, catalog, locale, providerMappings, report }
  documented : ∀ sections, ∀ q ∈ (Configuration.ofSections sections).requests,
    admits q.category q.id q.implementation
  defaults : ∀ q ∈ Defaults.requests, admits q.category q.id q.implementation

namespace Kept

variable {admits : Admission} {P : AlgorithmRegistry → Prop} (hP : Kept admits P)
  {a : AlgorithmRegistry}
include hP

theorem registerDescribed {c : Category} {id implementation : String} {description : Option String}
    {b : AlgorithmRegistry} {j j' : Journal} (hadmits : admits c id implementation) (ha : P a)
    (h : a.registerDescribed c id implementation description j = (.ok b, j')) : P b := by
  unfold AlgorithmRegistry.registerDescribed at h
  cases hr : a.catalog.resolve c id implementation with
  | error e =>
    rw [hr] at h
    cases h
  | ok factory =>
    simp only [hr, AlgorithmRegistry.register, Traced.bind_apply] at h
    rcases hreg : (a.registry c).register id (.described implementation factory description) j
      with ⟨outcome, k⟩
    rw [hreg] at h
    cases outcome with
    | error e => cases h
    | ok r =>
      cases h
      refine hP.registered a c id _ j r ?_ ha (by rw [hreg])
      rwa [Descriptor.implementation_described]

theorem stable : Stable (fun q => admits q.category q.id q.implementation) P where
  registered _ _ _ _ _ hq ha h := hP.registerDescribed hq ha h
  others a _ _ _ _ ha := hP.others a _ _ _ _ _ ha

/-- What a call asks for may be registered if the host may ask for it. -/
theorem admits_requests {call : Call} (hcall : call.Admitted admits) :
    ∀ q ∈ call.requests, admits q.category q.id q.implementation := by
  cases call with
  | init provider options =>
    unfold Call.requests
    dsimp only
    split
    next sections _ => exact hP.documented sections
    next => exact nofun
  | initDefaults => exact hP.defaults
  | register category id implementation =>
    intro q hq
    rw [List.mem_singleton.1 hq]
    exact hcall
  | provide | declareUnavailable => exact nofun

theorem perform (ha : P a) {call : Call} (hcall : call.Admitted admits) (j : Journal) :
    P (a.perform call j).1.1 := by
  cases call with
  | init | initDefaults | register =>
    refine hP.stable.perform ha ?_ (hP.admits_requests hcall) j
    trivial
  | provide | declareUnavailable => exact hP.others a _ _ _ _ _ ha

theorem run (ha : P a) {calls : List Call} (hcalls : ∀ call ∈ calls, call.Admitted admits)
    (j : Journal) : P (a.run calls j).1.1 := by
  induction calls generalizing a j with
  | nil => exact ha
  | cons call calls ih =>
    have hperformed := hP.perform ha (hcalls call List.mem_cons_self) j
    exact ih hperformed (fun c hc => hcalls c (List.mem_cons_of_mem call hc)) _

end Kept

/-! ### Histories -/

/-- Each of the five registries is what some attempts have made of an empty one. -/
def HasHistory (a : AlgorithmRegistry) : Prop :=
  ∀ c, ∃ ts, a.registry c = .ofHistory c ts

theorem hasHistory_kept : Kept .free HasHistory where
  registered a c id d j r _ ha hr c' := by
    by_cases hc : c' = c
    · subst hc
      obtain ⟨ts, hts⟩ := ha c'
      refine ⟨ts ++ [⟨id, d, j⟩], ?_⟩
      rw [registry_withRegistry, Registry.ofHistory_concat, ← hts, Registry.attempt, hr]
    · rw [registry_withRegistry_of_ne a hc]
      exact ha c'
  others a _ _ _ _ _ ha c := by
    obtain ⟨ts, hts⟩ := ha c
    exact ⟨ts, by cases c <;> exact hts⟩
  documented _ _ _ := trivial
  defaults _ _ := trivial

/-- Every registry in a run has a history. -/
theorem exists_history_run (k : Catalog) (calls : List Call) (j : Journal) (c : Category) :
    ∃ ts, ((ofCatalog k).run calls j).1.1.registry c = .ofHistory c ts :=
  hasHistory_kept.run (fun c => ⟨[], by cases c <;> rfl⟩) (fun call _ => call.admitted_free) j c

end AlgorithmRegistry

end DsigRegistry
