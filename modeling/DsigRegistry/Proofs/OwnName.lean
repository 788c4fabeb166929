import DsigRegistry.Proofs.Reach
import DsigRegistry.Proofs.Scope
import DsigRegistry.Stub

/-!
# Resolvers under their own names

A scope lists identifiers under which resolvers are registered. Documents register a resolver
under the identifier of its implementation, so that a scope limits which implementations run. A
host that registers a resolver under another name gives it whatever a scope allows to that name,
and no resolver comes by another name in any other way. Main facts: `scope_limits_implementations`
and, for such a host, `scope_allows_name_of_other`.
-/

namespace DsigRegistry

/-- Resolvers may be registered under the identifiers of their implementations alone. -/
def Admission.ownName : Admission :=
  fun category id implementation => category.isResolver = true → implementation = id

/-- They may also be registered under other names for which a host asks in one of its calls. -/
def Admission.ownNameUnless (calls : List Call) : Admission :=
  fun category id implementation =>
    Admission.ownName category id implementation ∨ .register category id implementation ∈ calls

theorem Call.admitted_ownNameUnless {calls : List Call} :
    ∀ call ∈ calls, call.Admitted (.ownNameUnless calls) := by
  intro call hcall
  cases call with
  | register category id implementation => exact .inr hcall
  | init | initDefaults | provide | declareUnavailable => trivial

/-! ### What documents and the default tables ask for -/

/-- The sections for algorithms are not for resolvers. -/
theorem Configuration.SectionKind.isResolver_of_algorithms {name entryName : String}
    {category : Category} (h : SectionKind.ofName name = .algorithms entryName category) :
    category.isResolver = false := by
  unfold SectionKind.ofName at h
  repeat' split at h
  all_goals cases h <;> rfl

/-- A request is for what a section is for; where it is a resolver, under its own name. -/
theorem Configuration.ownName_of_outcome {kind : SectionKind} {sectionName : String}
    {entry : Xml.Element Xml.Name} {q : Request}
    (hkind : ∀ entryName category, kind = .algorithms entryName category →
      category.isResolver = false)
    (h : outcome kind sectionName entry = .request q) :
    Admission.ownName q.category q.id q.implementation := by
  intro hresolver
  cases kind with
  | algorithms entryName category =>
    have hnot := hkind entryName category rfl
    unfold outcome at h
    dsimp only at h
    repeat' split at h
    all_goals cases h
    exact absurd hresolver (by simp [hnot])
  | resolvers category =>
    unfold outcome at h
    dsimp only at h
    split at h <;> cases h
    rfl
  | locale | providerMappings | prefixMappings | unknown =>
    unfold outcome at h
    dsimp only at h
    repeat' split at h
    all_goals cases h

theorem Configuration.ownName_of_mem_requests {sections : List (Xml.Element Xml.Name)}
    {q : Request} (h : q ∈ (ofSections sections).requests) :
    Admission.ownName q.category q.id q.implementation := by
  obtain ⟨o, ho, hq⟩ := List.mem_filterMap.1 h
  obtain ⟨s, -, hs⟩ := List.mem_flatMap.1 ho
  obtain ⟨entry, -, rfl⟩ := List.mem_map.1 hs
  cases houtcome : outcome (.ofName s.name.localPart) s.name.localPart entry with
  | request q' =>
    rw [houtcome] at hq
    cases hq
    exact ownName_of_outcome (fun _ _ => SectionKind.isResolver_of_algorithms) houtcome
  | mapping m =>
    rw [houtcome] at hq
    cases hq
  | skipped e =>
    rw [houtcome] at hq
    cases hq

theorem Defaults.isResolver_of_mem_requests {q : Request} (h : q ∈ requests) :
    q.category.isResolver = false := by
  rcases List.mem_append.1 h with h | h
  · obtain ⟨row, -, rfl⟩ := List.mem_map.1 h
    rfl
  · obtain ⟨row, -, rfl⟩ := List.mem_map.1 h
    rfl

/-! ### What registrations keep -/

theorem Registry.mem_entries_put {α : Type} {r : Registry α} {id : String} {d : Descriptor α}
    {e : String × Descriptor α} (h : e ∈ (r.put id d).entries) :
    e = (id, d) ∨ e ∈ r.entries := by
  obtain ⟨c, es⟩ := r
  change e ∈ putEntry id d es at h
  change e = (id, d) ∨ e ∈ es
  induction es with
  | nil => exact .inl (List.mem_singleton.1 h)
  | cons e' es ih =>
    unfold putEntry at h
    split at h
    · rcases List.mem_cons.1 h with h | h
      · exact .inl h
      · exact .inr (List.mem_cons_of_mem e' h)
    · rcases List.mem_cons.1 h with h | h
      · exact .inr (h ▸ List.mem_cons_self)
      · exact (ih h).imp_right (List.mem_cons_of_mem e')

namespace AlgorithmRegistry

variable {calls : List Call} {a : AlgorithmRegistry}

/-- Every resolver is registered under the identifier of its implementation, if not one of the calls
of the host has asked for another name. -/
def OwnNames (calls : List Call) (a : AlgorithmRegistry) : Prop :=
  ∀ c : Category, c.isResolver = true → ∀ e ∈ (a.registry c).entries,
    e.2.implementation = e.1 ∨ .register c e.1 e.2.implementation ∈ calls

theorem ownNames_kept : Kept (.ownNameUnless calls) (OwnNames calls) where
  registered a c id d j r hadmits ha hr c' hc' e he := by
    by_cases hc : c' = c
    · subst hc
      rw [registry_withRegistry] at he
      rw [Registry.register_apply] at hr
      cases hbuild : d.factory.build (j.constructions d.factory.id) with
      | error cause =>
        rw [hbuild] at hr
        cases hr
      | ok x =>
        rw [hbuild] at hr
        cases hr
        rcases Registry.mem_entries_put he with rfl | he
        · exact hadmits.imp_left fun hown => hown hc'
        · exact ha c' hc' e he
    · rw [registry_withRegistry_of_ne a hc] at he
      exact ha c' hc' e he
  others a _ _ _ _ _ ha c hc e he := by
    refine ha c hc e ?_
    cases c <;> exact he
  documented _ _ hq := .inl (Configuration.ownName_of_mem_requests hq)
  defaults _ hq :=
    .inl fun hresolver => absurd hresolver (by simp [Defaults.isResolver_of_mem_requests hq])

/-- After any calls, every resolver is under its own name or one that the host has asked for. -/
theorem ownNames_run (k : Catalog) (calls : List Call) (j : Journal) :
    ((ofCatalog k).run calls j).1.1.OwnNames calls := by
  refine ownNames_kept.run ?_ Call.admitted_ownNameUnless j
  intro c _ e he
  cases c <;> exact absurd he List.not_mem_nil

/-- The identifier of an entry in scope is listed in the scope, and so is its implementation, unless
the host has asked for another name. -/
theorem OwnNames.of_mem_restrict (h : a.OwnNames calls) {c : Category} (hc : c.isResolver = true)
    {ids : List String} {e : String × Descriptor c.Interface}
    (he : e ∈ ((a.registry c).restrict ids).entries) :
    e ∈ (a.registry c).entries ∧ e.1 ∈ ids ∧
      (e.2.implementation ∈ ids ∨ .register c e.1 e.2.implementation ∈ calls) := by
  obtain ⟨hmem, hscope⟩ := List.mem_filter.1 he
  have hid : e.1 ∈ ids := List.contains_iff_mem.1 hscope
  refine ⟨hmem, hid, ?_⟩
  rcases h c hc e hmem with hown | hcall
  · exact .inl (hown ▸ hid)
  · exact .inr hcall

end AlgorithmRegistry

/-! ### Scopes and implementations -/

open AlgorithmRegistry

/-- A scope limits which implementations run, whatever is called and whatever the resolvers are:
until a resolver takes over, everything that is done has to do with resolvers whose identifiers are
in the scope, and the one that takes over is one of them. Their implementations are in the scope
too, but for those that the host itself has asked to register under identifiers in it. -/
theorem scope_limits_implementations (k : Catalog) (j : Journal) (calls : List Call)
    (ids : List String) :
    let a := ((ofCatalog k).run calls j).1.1
    (∀ reference j', ∃ reached done,
      (∀ e ∈ reached, e ∈ a.resourceResolvers.entries ∧ e.1 ∈ ids ∧
        (e.2.implementation ∈ ids ∨
          .register .resourceResolver e.1 e.2.implementation ∈ calls)) ∧
      Trail reached done ∧
      (a.resolveResource reference (.only ids) j' =
          (.error (.unresolvable reference.uri), j' ++ done) ∨
        ∃ id d n x, (id, d) ∈ reached ∧ d.factory.build n = .ok x ∧
          a.resolveResource reference (.only ids) j' = x.resolve reference (j' ++ done))) ∧
    (∀ info keys j', ∃ reached done,
      (∀ e ∈ reached, e ∈ a.keyResolvers.entries ∧ e.1 ∈ ids ∧
        (e.2.implementation ∈ ids ∨ .register .keyResolver e.1 e.2.implementation ∈ calls)) ∧
      Trail reached done ∧
      (a.resolveKey info keys (.only ids) j' = (.error (.unresolvable info.text), j' ++ done) ∨
        ∃ id d n x, (id, d) ∈ reached ∧ d.factory.build n = .ok x ∧
          a.resolveKey info keys (.only ids) j' = (x.resolve info keys, j' ++ done))) := by
  intro a
  have hown : a.OwnNames calls := ownNames_run k calls j
  constructor
  · intro reference j'
    obtain ⟨reached, done, hpre, htrail, houtcome⟩ :=
      resolveResource_trail a.resourceResolvers reference ids j'
    refine ⟨reached, done, ?_, htrail, houtcome⟩
    intro e he
    exact hown.of_mem_restrict (c := .resourceResolver) rfl (hpre.subset he)
  · intro info keys j'
    obtain ⟨reached, done, hpre, htrail, houtcome⟩ :=
      resolveKey_trail a.keyResolvers info keys ids j'
    refine ⟨reached, done, ?_, htrail, houtcome⟩
    intro e he
    exact hown.of_mem_restrict (c := .keyResolver) rfl (hpre.subset he)

/-- A resolver that a host brings along: it claims every reference. -/
def hostResolver : Implementation :=
  .const (.host 0) .resourceResolver (Stub.resourceResolver (fun _ => true) (.ok [0x72]))

/-- A host's resolver under its own name has no part in what a scope for another one allows. -/
theorem scope_limits_implementations_host :
    let calls : List Call :=
      [.provide "host::Remote" hostResolver,
       .register .resourceResolver "host::Remote" "host::Remote"]
    let a := ((ofCatalog .empty).run calls []).1.1
    a.resourceResolvers.ids = ["host::Remote"] ∧
      ∀ reference j, a.resolveResource reference (.only [ImplementationId.localFile]) j =
        (.error (.unresolvable reference.uri), j) := by
  intro calls a
  have hentries : a.resourceResolvers.entries =
      [("host::Remote", .described "host::Remote" hostResolver.factory none)] := rfl
  refine ⟨rfl, ?_⟩
  intro reference j
  obtain ⟨reached, done, hreached, htrail, houtcome⟩ :=
    (scope_limits_implementations .empty [] calls [ImplementationId.localFile]).1 reference j
  obtain rfl : reached = [] := by
    refine List.eq_nil_iff_forall_not_mem.2 fun e he => ?_
    obtain ⟨hmem, hid, -⟩ := hreached e he
    change e ∈ a.resourceResolvers.entries at hmem
    rw [hentries, List.mem_singleton] at hmem
    subst hmem
    revert hid
    decide
  obtain rfl : done = [] := by
    refine List.eq_nil_iff_forall_not_mem.2 fun action haction => ?_
    obtain ⟨e, he, -⟩ := htrail.concerns action haction
    exact List.not_mem_nil he
  rcases houtcome with houtcome | ⟨id, d, n, x, hd, -⟩
  · rwa [List.append_nil] at houtcome
  · exact absurd hd List.not_mem_nil

/-- A scope goes by the names under which resolvers are registered: a host's resolver that is
registered under the name of another one runs in a scope for that name. -/
theorem scope_allows_name_of_other :
    let calls : List Call :=
      [.provide "host::Remote" hostResolver,
       .register .resourceResolver ImplementationId.localFile "host::Remote"]
    let a := ((ofCatalog .empty).run calls []).1.1
    (∃ d, a.resourceResolvers.lookup? ImplementationId.localFile = some d ∧
      d.implementation = "host::Remote" ∧ d.factory.id = .host 0) ∧
    "host::Remote" ∉ [ImplementationId.localFile] ∧
    a.resolveResource ⟨"http://example.org/", none⟩ (.only [ImplementationId.localFile]) [] =
      (.ok [0x72],
        [.constructed (.host 0), .asked ImplementationId.localFile,
         .reported (.resourceResolverClaimed ImplementationId.localFile "http://example.org/"),
         .resolved ImplementationId.localFile]) := by
  refine ⟨⟨_, rfl, rfl, rfl⟩, by decide, rfl⟩

end DsigRegistry
