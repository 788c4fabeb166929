import DsigRegistry.Catalog.Builtin
import DsigRegistry.Proofs.Call

/-!
# Histories of catalogs

A catalog is what the calls on it have made of an empty one, and of these the last one for an
identifier is all that counts. It decides, together with what the constructor answers now, whether
an implementation can be registered and why not. Main fact: `registration_by_last_call`.
-/

namespace DsigRegistry

/-- A call that changes what a catalog knows under an identifier. -/
inductive CatalogCall where
  | provide (id : String) (implementation : Implementation)
  | declareUnavailable (id : String) (category : Category) (dependency : String)

namespace CatalogCall

/-- The identifier that the call is for. -/
def id : CatalogCall → String
  | .provide id _ | .declareUnavailable id _ _ => id

/-- The category of the implementation that is provided or declared. -/
def category : CatalogCall → Category
  | .provide _ i => i.category
  | .declareUnavailable _ category _ => category

/-- What a catalog knows under the identifier from then on. -/
def entry : CatalogCall → CatalogEntry
  | .provide _ i => .available i
  | .declareUnavailable _ category dependency => .unavailable category dependency

/-- The call that makes a catalog know the entry. -/
def ofEntry : String × CatalogEntry → CatalogCall
  | (id, .available i) => .provide id i
  | (id, .unavailable category dependency) => .declareUnavailable id category dependency

/-- The last call for the identifier. -/
def lastFor? (calls : List CatalogCall) (id : String) : Option CatalogCall :=
  calls.reverse.find? fun call => call.id == id

@[simp] theorem id_ofEntry (e : String × CatalogEntry) : (ofEntry e).id = e.1 := by
  obtain ⟨id, _ | _⟩ := e <;> rfl

@[simp] theorem entry_ofEntry (e : String × CatalogEntry) : (ofEntry e).entry = e.2 := by
  obtain ⟨id, _ | _⟩ := e <;> rfl

theorem id_of_lastFor? {calls : List CatalogCall} {id : String} {call : CatalogCall}
    (h : lastFor? calls id = some call) : call.id = id := by
  simpa using List.find?_some h

end CatalogCall

namespace Catalog

/-- The catalog after a call. -/
def after (k : Catalog) : CatalogCall → Catalog
  | .provide id i => k.provide id i
  | .declareUnavailable id category dependency => k.declareUnavailable id category dependency

/-- The catalog that calls have made, the earliest first. -/
def ofCalls (calls : List CatalogCall) : Catalog :=
  calls.foldl after empty

/-- The calls that make the built-in catalog. -/
def builtinCalls (withLegacy : Bool) (files : FileSystem) : List CatalogCall :=
  (canonicalizers ++ transforms ++ signatureAlgorithms withLegacy ++ resourceResolvers files
    ++ keyResolvers).map .ofEntry

theorem entries_after (k : Catalog) (call : CatalogCall) :
    (k.after call).entries = k.entries.insert call.id call.entry := by
  cases call <;> rfl

theorem entries_foldl_after (calls : List CatalogCall) (k : Catalog) :
    (calls.foldl after k).entries =
      (calls.map fun call => (call.id, call.entry)).foldl (fun d (k, v) => d.insert k v)
        k.entries := by
  induction calls generalizing k with
  | nil => rfl
  | cons call calls ih => rw [List.foldl_cons, ih, entries_after, List.map_cons, List.foldl_cons]

theorem entries_ofCalls (calls : List CatalogCall) :
    (ofCalls calls).entries = .ofList (calls.map fun call => (call.id, call.entry)) :=
  entries_foldl_after calls empty

/-- The built-in catalog is made by calls as any other one. -/
theorem builtin_eq_ofCalls (withLegacy : Bool) (files : FileSystem) :
    builtin withLegacy files = ofCalls (builtinCalls withLegacy files) := by
  have hentries := entries_ofCalls (builtinCalls withLegacy files)
  simp only [builtinCalls, List.map_map, Function.comp_def, CatalogCall.id_ofEntry,
    CatalogCall.entry_ofEntry, List.map_id'] at hentries
  rw [builtin, ← hentries, builtinCalls]

/-- What a catalog knows under an identifier is what the last call for it said. -/
theorem get?_ofCalls (calls : List CatalogCall) (id : String) :
    (ofCalls calls).entries.get? id =
      (CatalogCall.lastFor? calls id).map CatalogCall.entry := by
  rw [entries_ofCalls, Dictionary.get?_ofList, ← List.map_reverse, List.find?_map,
    Option.map_map]
  rfl

end Catalog

namespace AlgorithmRegistry

variable {a b : AlgorithmRegistry} {c : Category} {id implementation : String} {j : Journal}

/-- Apart from one entry of one category, the registries and what belongs to them are the same. -/
structure SameBut (a b : AlgorithmRegistry) (c : Category) (id : String) : Prop where
  registries : ∀ d, d ≠ c → b.registry d = a.registry d
  entries : ((b.registry c).entries.filter fun e => e.1 != id) =
    (a.registry c).entries.filter fun e => e.1 != id
  ids : (b.registry c).ids =
    if id ∈ (a.registry c).ids then (a.registry c).ids else (a.registry c).ids ++ [id]
  category : (b.registry c).category = (a.registry c).category
  prefixes : b.prefixes = a.prefixes
  catalog : b.catalog = a.catalog
  locale : b.locale = a.locale
  providerMappings : b.providerMappings = a.providerMappings
  report : b.report = a.report

theorem filter_putEntry {α : Type} (id : String) (d : Descriptor α)
    (es : List (String × Descriptor α)) :
    (Registry.putEntry id d es).filter (fun e => e.1 != id) = es.filter fun e => e.1 != id := by
  induction es with
  | nil => simp [Registry.putEntry]
  | cons e es ih =>
    simp only [Registry.putEntry]
    split
    next he => simp [he]
    next he => simp [he, ih]

theorem sameBut_withDescribed (description : Option String) (factory : Factory c.Interface) :
    a.SameBut (a.withDescribed c id implementation description factory) c id where
  registries d hd := registry_withRegistry_of_ne a hd _
  entries := by
    rw [withDescribed, registry_withRegistry]
    exact filter_putEntry _ _ _
  ids := by rw [withDescribed, registry_withRegistry, Registry.ids_put]
  category := by rw [withDescribed, registry_withRegistry, Registry.category_put]
  prefixes := prefixes_withRegistry a c _
  catalog := catalog_withRegistry a c _
  locale := locale_withRegistry a c _
  providerMappings := providerMappings_withRegistry a c _
  report := report_withRegistry a c _

/-! ### One registration -/

section Register

variable {calls : List CatalogCall} (hcatalog : a.catalog = .ofCalls calls)

theorem perform_register_of_error {e : RegistrationError}
    (h : (a.registerDescribed c id implementation none j).1 = .error e) :
    (a.perform (.register c id implementation) j).1 = (a, .refused e) := by
  simp only [perform, registerImplementation, Traced.bind_apply, h, Traced.pure_apply]

theorem perform_register_of_ok (h : (a.registerDescribed c id implementation none j).1 = .ok b) :
    (a.perform (.register c id implementation) j).1 = (b, .registered) := by
  simp only [perform, registerImplementation, Traced.bind_apply, h, Traced.pure_apply]

include hcatalog

/-- Without a call for it an implementation is not known. -/
theorem perform_register_of_none (h : CatalogCall.lastFor? calls implementation = none) :
    (a.perform (.register c id implementation) j).1 =
      (a, .refused (.unresolvable c id implementation .notFound)) := by
  apply perform_register_of_error
  have hresolve : a.catalog.resolve c id implementation =
      .error (.unresolvable c id implementation .notFound) := by
    rw [hcatalog, Catalog.resolve, Catalog.get?_ofCalls, h, Option.map_none]
  rw [registerDescribed_apply, hresolve]

/-- That the implementation is of another category comes before that it is not there, and before
what its constructor answers. -/
theorem perform_register_of_other_category {call : CatalogCall}
    (h : CatalogCall.lastFor? calls implementation = some call) (hc : call.category ≠ c) :
    (a.perform (.register c id implementation) j).1 =
      (a, .refused (.capabilityMismatch id implementation c call.category)) := by
  apply perform_register_of_error
  have hresolve : a.catalog.resolve c id implementation =
      .error (.capabilityMismatch id implementation c call.category) := by
    rw [hcatalog, Catalog.resolve, Catalog.get?_ofCalls, h, Option.map_some]
    cases call with
    | provide id' i =>
      have hnone : i.factoryFor? c = none := dif_neg hc
      simp only [CatalogCall.entry, hnone, CatalogCall.category]
    | declareUnavailable id' found dependency =>
      have hne : found ≠ c := hc
      simp only [CatalogCall.entry, hne, if_false, CatalogCall.category]
  rw [registerDescribed_apply, hresolve]

theorem perform_register_of_declared {dependency : String}
    (h : CatalogCall.lastFor? calls implementation =
      some (.declareUnavailable implementation c dependency)) :
    (a.perform (.register c id implementation) j).1 =
      (a, .refused (.unresolvable c id implementation (.missingDependency dependency))) := by
  apply perform_register_of_error
  have hresolve : a.catalog.resolve c id implementation =
      .error (.unresolvable c id implementation (.missingDependency dependency)) := by
    rw [hcatalog, Catalog.resolve, Catalog.get?_ofCalls, h, Option.map_some]
    simp only [CatalogCall.entry, if_true]
  rw [registerDescribed_apply, hresolve]

/-- An implementation of the right category is left to its constructor. -/
theorem perform_register_of_provided {i : Implementation} {factory : Factory c.Interface}
    (h : CatalogCall.lastFor? calls implementation = some (.provide implementation i))
    (hfactory : i.factoryFor? c = some factory) :
    (a.perform (.register c id implementation) j).1 =
      match (factory.construct j).1 with
      | .error cause => (a, .refused
          (.unresolvable (a.registry c).category id implementation (.construction cause)))
      | .ok _ => (a.withDescribed c id implementation none factory, .registered) := by
  have hresolve : a.catalog.resolve c id implementation = .ok factory := by
    rw [hcatalog, Catalog.resolve, Catalog.get?_ofCalls, h, Option.map_some]
    simp only [CatalogCall.entry, hfactory]
  have happly := a.registerDescribed_apply c id implementation none j
  simp only [hresolve] at happly
  rw [Traced.construct_apply]
  cases hbuild : factory.build (j.constructions factory.id) with
  | error cause =>
    simp only [hbuild] at happly
    exact perform_register_of_error (by rw [happly])
  | ok value =>
    simp only [hbuild] at happly
    exact perform_register_of_ok (by rw [happly])

end Register

/-! ### Answers -/

/-- The answer to a registration is the one that the last call for the implementation calls for, and
what the constructor answers now where that call provided it. -/
structure Decided (c own : Category) (id implementation : String) (j : Journal)
    (last : Option CatalogCall) (answer : Answer) : Prop where
  registered : answer = .registered ↔
    ∃ i, last = some (.provide implementation i) ∧ i.category = c ∧
      ∃ value, (i.factory.construct j).1 = .ok value
  mismatch : ∀ found, answer = .refused (.capabilityMismatch id implementation c found) ↔
    ∃ call, last = some call ∧ call.category = found ∧ found ≠ c
  missingDependency : ∀ dependency, answer =
      .refused (.unresolvable c id implementation (.missingDependency dependency)) ↔
    last = some (.declareUnavailable implementation c dependency)
  notFound : answer = .refused (.unresolvable c id implementation .notFound) ↔ last = none
  construction : ∀ cause, answer =
      .refused (.unresolvable own id implementation (.construction cause)) ↔
    ∃ i, last = some (.provide implementation i) ∧ i.category = c ∧
      (i.factory.construct j).1 = .error cause

section Decided

variable {own : Category}

theorem decided_notFound :
    Decided c own id implementation j none
      (.refused (.unresolvable c id implementation .notFound)) where
  registered := by simp
  mismatch := by simp
  missingDependency := by simp
  notFound := by simp
  construction := by simp

theorem decided_mismatch {call : CatalogCall} (hc : call.category ≠ c) :
    Decided c own id implementation j (some call)
      (.refused (.capabilityMismatch id implementation c call.category)) where
  registered := by
    constructor
    · simp
    · rintro ⟨i, hcall, hi, -⟩
      cases hcall
      exact absurd hi hc
  mismatch found := by
    constructor
    · intro h
      cases h
      exact ⟨call, rfl, rfl, hc⟩
    · rintro ⟨_, hcall, rfl, -⟩
      cases hcall
      rfl
  missingDependency dependency := by
    constructor
    · simp
    · intro hcall
      cases hcall
      exact absurd rfl hc
  notFound := by simp
  construction cause := by
    constructor
    · simp
    · rintro ⟨i, hcall, hi, -⟩
      cases hcall
      exact absurd hi hc

theorem decided_missingDependency (dependency : String) :
    Decided c own id implementation j (some (.declareUnavailable implementation c dependency))
      (.refused (.unresolvable c id implementation (.missingDependency dependency))) where
  registered := by simp
  mismatch found := by
    constructor
    · simp
    · rintro ⟨_, hcall, rfl, hne⟩
      cases hcall
      exact absurd rfl hne
  missingDependency := by simp
  notFound := by simp
  construction := by simp

variable {i : Implementation}

theorem decided_construction {cause : Error} (h : (i.factory.construct j).1 = .error cause) :
    Decided i.category own id implementation j (some (.provide implementation i))
      (.refused (.unresolvable own id implementation (.construction cause))) where
  registered := by
    constructor
    · simp
    · rintro ⟨_, hcall, -, value, hvalue⟩
      cases hcall
      rw [h] at hvalue
      contradiction
  mismatch found := by
    constructor
    · simp
    · rintro ⟨_, hcall, rfl, hne⟩
      cases hcall
      exact absurd rfl hne
  missingDependency := by simp
  notFound := by simp
  construction cause' := by
    constructor
    · intro hcause
      cases hcause
      exact ⟨i, rfl, rfl, h⟩
    · rintro ⟨_, hcall, -, hcause⟩
      cases hcall
      rw [Except.error.inj (h.symm.trans hcause)]

theorem decided_registered {value : i.category.Interface}
    (h : (i.factory.construct j).1 = .ok value) :
    Decided i.category own id implementation j (some (.provide implementation i))
      .registered where
  registered := ⟨fun _ => ⟨i, rfl, rfl, value, h⟩, fun _ => rfl⟩
  mismatch found := by
    constructor
    · simp
    · rintro ⟨_, hcall, rfl, hne⟩
      cases hcall
      exact absurd rfl hne
  missingDependency := by simp
  notFound := by simp
  construction cause := by
    constructor
    · simp
    · rintro ⟨_, hcall, -, hcause⟩
      cases hcall
      rw [h] at hcause
      contradiction

end Decided

/-- Whatever calls have made the catalog, as they have made the built-in one, and whatever the
registries hold: an implementation is registered if and only if the last call for its identifier
provided it in the category that is asked for and its constructor works now. If there was no such
call, it is not found; if the call was for another category, that is the error, whatever else is
wrong; if it declared the implementation, the dependency is missing; and otherwise the constructor
has failed. An error names what was asked for and leaves everything as it was, and a registration
changes one entry only. -/
theorem registration_by_last_call :
    (∀ withLegacy files, Catalog.builtin withLegacy files =
      .ofCalls (Catalog.builtinCalls withLegacy files)) ∧
    ∀ (a : AlgorithmRegistry) (calls : List CatalogCall) (c : Category)
      (id implementation : String) (j : Journal),
      let a : AlgorithmRegistry := { a with catalog := .ofCalls calls }
      let last := CatalogCall.lastFor? calls implementation
      let after := (a.perform (.register c id implementation) j).1.1
      let answer := (a.perform (.register c id implementation) j).1.2
      Decided c (a.registry c).category id implementation j last answer ∧
      ((∃ e, answer = .refused e ∧ e.id = id ∧ e.implementation = implementation ∧ after = a) ∨
        answer = .registered ∧ a.SameBut after c id ∧
          ∃ i factory, last = some (.provide implementation i) ∧
            i.factoryFor? c = some factory ∧
            (after.registry c).lookup? id = some ⟨implementation, none, factory⟩) := by
  refine ⟨Catalog.builtin_eq_ofCalls, fun a calls c id implementation j => ?_⟩
  intro a last after answer
  cases hlast : last with
  | none =>
    have hperform : (a.perform (.register c id implementation) j).1 = _ :=
      perform_register_of_none rfl hlast
    dsimp only [after, answer]
    rw [hperform]
    exact ⟨decided_notFound, .inl ⟨_, rfl, rfl, rfl, rfl⟩⟩
  | some call =>
    have hid : call.id = implementation := CatalogCall.id_of_lastFor? hlast
    by_cases hc : call.category = c
    · cases call with
      | declareUnavailable id' found dependency =>
        obtain rfl : id' = implementation := hid
        obtain rfl : found = c := hc
        have hperform : (a.perform (.register _ id _) j).1 = _ :=
          perform_register_of_declared rfl hlast
        dsimp only [after, answer]
        rw [hperform]
        exact ⟨decided_missingDependency dependency, .inl ⟨_, rfl, rfl, rfl, rfl⟩⟩
      | provide id' i =>
        obtain rfl : id' = implementation := hid
        obtain rfl : i.category = c := hc
        have hperform : (a.perform (.register _ id _) j).1 = _ :=
          perform_register_of_provided rfl hlast i.factoryFor?_self
        cases hbuild : (i.factory.construct j).1 with
        | error cause =>
          rw [hbuild] at hperform
          dsimp only [after, answer]
          rw [hperform]
          exact ⟨decided_construction hbuild, .inl ⟨_, rfl, rfl, rfl, rfl⟩⟩
        | ok value =>
          rw [hbuild] at hperform
          dsimp only [after, answer]
          rw [hperform]
          refine ⟨decided_registered hbuild, .inr ⟨rfl, sameBut_withDescribed none i.factory,
            i, i.factory, rfl, i.factoryFor?_self, ?_⟩⟩
          rw [withDescribed, registry_withRegistry, Registry.lookup?_put, if_pos rfl]
          rfl
    · have hperform : (a.perform (.register c id implementation) j).1 = _ :=
        perform_register_of_other_category rfl hlast hc
      dsimp only [after, answer]
      rw [hperform]
      exact ⟨decided_mismatch hc, .inl ⟨_, rfl, rfl, rfl, rfl⟩⟩

end AlgorithmRegistry

end DsigRegistry
