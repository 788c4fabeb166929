import DsigRegistry.Catalog.Builtin
import DsigRegistry.Proofs.Isolation
import DsigRegistry.Proofs.OwnName

/-!
# Which signature algorithm is handed out

Over the built-in catalog the signature algorithms are message authentication codes, each with a URI
of its own. A document or a host may register one under any other URI. A policy is asked about the
URI that is requested, and about nothing else: a code whose own URI it rejects is handed out under
another one. Main facts: `signature_of_bound_hash` and, for such a document,
`rejected_hash_under_alias`.
-/

namespace DsigRegistry

/-! ### The built-in catalog -/

/-- A build with legacy algorithms provides every hash function. -/
theorem Hash.mem_provided (h : Hash) : h ∈ provided true := by
  cases h <;> decide

namespace Catalog

variable {withLegacy : Bool} {files : FileSystem} {id implementation : String}

theorem hmacId_injective {h h' : Hash} (heq : hmacId h = hmacId h') : h = h' := by
  have hall : ∀ h ∈ Hash.provided true, ∀ h' ∈ Hash.provided true,
      hmacId h = hmacId h' → h = h' := by decide
  exact hall h h.mem_provided h' h'.mem_provided heq

theorem available_notMem_missing (category : Category) (dependency : String) (ids : List String)
    (i : Implementation) : (id, .available i) ∉ missing category dependency ids := by
  simp [missing]

/-- All that the entries make available is of the category. -/
def Supplies (c : Category) (es : List (String × CatalogEntry)) : Prop :=
  ∀ id i, (id, .available i) ∈ es → i.category = c

section Supplies

variable {c : Category} {es es' : List (String × CatalogEntry)}

theorem supplies_of_forall (h : ∀ e ∈ es, ∃ id value, e = builtinEntry c id value) :
    Supplies c es := by
  intro id i hi
  obtain ⟨id', value, heq⟩ := h _ hi
  cases heq
  rfl

theorem Supplies.append (h : Supplies c es) (h' : Supplies c es') : Supplies c (es ++ es') := by
  intro id i hi
  rcases List.mem_append.1 hi with hi | hi
  · exact h id i hi
  · exact h' id i hi

/-- What is missing is not made available. -/
theorem Supplies.append_missing (h : Supplies c es) {category : Category} {dependency : String}
    {ids : List String} : Supplies c (es ++ missing category dependency ids) :=
  h.append fun _ i hi => (available_notMem_missing category dependency ids i hi).elim

end Supplies

theorem supplies_transforms : Supplies .transform transforms := by
  have hplain : Supplies .transform
      [builtinEntry .transform ImplementationId.base64Decode Transform.base64Decode,
        builtinEntry .transform ImplementationId.identity Transform.identity] :=
    supplies_of_forall (by simp [builtinEntry])
  have hc14n : Supplies .transform
      (C14nMode.all.map fun m => builtinEntry .transform (c14nTransformId m) (.c14n m)) := by
    refine supplies_of_forall fun e he => ?_
    obtain ⟨m, -, rfl⟩ := List.mem_map.1 he
    exact ⟨_, _, rfl⟩
  exact (hplain.append hc14n).append_missing.append_missing.append_missing

theorem supplies_resourceResolvers : Supplies .resourceResolver (resourceResolvers files) := by
  have hlocal : Supplies .resourceResolver
      [builtinEntry .resourceResolver ImplementationId.localFile (LocalFile.resolver files)] :=
    supplies_of_forall (by simp [builtinEntry])
  exact hlocal.append_missing.append_missing

theorem supplies_keyResolvers : Supplies .keyResolver keyResolvers := by
  have hkeys : Supplies .keyResolver
      [builtinEntry .keyResolver ImplementationId.keyName KeyResolver.keyName,
        builtinEntry .keyResolver ImplementationId.keyValue KeyResolver.keyValue] :=
    supplies_of_forall (by simp [builtinEntry])
  exact hkeys.append_missing

theorem mem_hmacs_of_available {i : Implementation}
    (hi : (id, .available i) ∈ signatureAlgorithms withLegacy) :
    (id, .available i) ∈ hmacs (Hash.provided withLegacy) := by
  rw [signatureAlgorithms, List.mem_append, List.mem_append] at hi
  obtain (hi | hi) | hi := hi
  · obtain ⟨h, hh, heq⟩ := List.mem_map.1 hi
    refine List.mem_map.2 ⟨h, ?_, heq⟩
    cases withLegacy with
    | false => exact hh
    | true => exact List.mem_append_left _ hh
  · cases withLegacy with
    | false => exact (available_notMem_missing _ _ _ i hi).elim
    | true =>
      obtain ⟨h, hh, heq⟩ := List.mem_map.1 hi
      exact List.mem_map.2 ⟨h, List.mem_append_right _ hh, heq⟩
  · exact (available_notMem_missing _ _ _ i hi).elim

/-- The signature algorithms that the built-in catalog has are authentication codes. -/
theorem exists_hash_of_available {i : Implementation}
    (hi : (id, .available i) ∈ canonicalizers ++ transforms ++ signatureAlgorithms withLegacy ++
      resourceResolvers files ++ keyResolvers) (hcategory : i.category = .signatureAlgorithm) :
    ∃ h ∈ Hash.provided withLegacy, id = hmacId h ∧
      i = .const (.builtin (hmacId h)) .signatureAlgorithm (Hmac.algorithm h) := by
  simp only [List.mem_append, or_assoc] at hi
  obtain hi | hi | hi | hi | hi := hi
  · exact (available_notMem_missing _ _ _ i hi).elim
  · cases hcategory.symm.trans (supplies_transforms id i hi)
  · obtain ⟨h, hh, heq⟩ := List.mem_map.1 (mem_hmacs_of_available hi)
    cases heq
    exact ⟨h, hh, rfl, rfl⟩
  · cases hcategory.symm.trans (supplies_resourceResolvers id i hi)
  · cases hcategory.symm.trans (supplies_keyResolvers id i hi)

theorem mem_of_get?_builtin {entry : CatalogEntry}
    (hget : (builtin withLegacy files).entries.get? id = some entry) :
    (id, entry) ∈ canonicalizers ++ transforms ++ signatureAlgorithms withLegacy ++
      resourceResolvers files ++ keyResolvers := by
  simp only [builtin] at hget
  exact Dictionary.mem_of_get?_ofList hget

theorem get?_builtin_of_provided {h : Hash} (hh : h ∈ Hash.provided withLegacy) :
    (builtin withLegacy files).entries.get? (hmacId h) =
      some (builtinEntry .signatureAlgorithm (hmacId h) (Hmac.algorithm h)).2 := by
  rw [builtin, Dictionary.get?_ofList]
  cases withLegacy <;> cases h <;> first | rfl | exact absurd hh (by decide)

/-- What the built-in catalog has of signature algorithms. -/
theorem resolve_builtin_eq_ok_iff {factory : Factory SignatureAlgorithm} :
    (builtin withLegacy files).resolve .signatureAlgorithm id implementation = .ok factory ↔
      ∃ h ∈ Hash.provided withLegacy, implementation = hmacId h ∧
        factory = .const (.builtin (hmacId h)) (Hmac.algorithm h) := by
  constructor
  · intro hresolve
    unfold resolve at hresolve
    split at hresolve
    next => cases hresolve
    next => split at hresolve <;> cases hresolve
    next i hget =>
      split at hresolve
      next factory' hfactory =>
        obtain rfl := Except.ok.inj hresolve
        obtain ⟨h, hh, hid, rfl⟩ := exists_hash_of_available (mem_of_get?_builtin hget)
          (Implementation.category_of_factoryFor? hfactory)
        refine ⟨h, hh, hid, ?_⟩
        exact Option.some.inj (hfactory.symm.trans (Implementation.factoryFor?_self _))
      next => cases hresolve
  · rintro ⟨h, hh, rfl, rfl⟩
    simp only [resolve, get?_builtin_of_provided hh, builtinEntry]
    rfl

end Catalog

/-! ### Own URIs -/

/-- Where the call asks for an authentication code under the URI, it is the one whose own URI that
is. -/
def Call.OwnUri (uri : String) (call : Call) : Prop :=
  ∀ q ∈ call.requests, q.category = .signatureAlgorithm → q.id = uri →
    ∀ h : Hash, q.implementation = Catalog.hmacId h → h.hmacUri = uri

/-- The default tables have every authentication code under its own URI. -/
theorem Call.ownUri_initDefaults (uri : String) : Call.initDefaults.OwnUri uri := by
  rintro q hq hcategory rfl h himplementation
  have hrows : ∀ row ∈ Defaults.signatureAlgorithms, ∀ h ∈ Hash.provided true,
      row.2 = Catalog.hmacId h → h.hmacUri = row.1 := by decide
  rcases List.mem_append.1 hq with hq | hq
  · obtain ⟨row, -, rfl⟩ := List.mem_map.1 hq
    cases hcategory
  · obtain ⟨row, hrow, rfl⟩ := List.mem_map.1 hq
    exact hrows row hrow h h.mem_provided himplementation

namespace Registry

variable {α : Type} {r : Registry α} {id : String} {j : Journal} {x : α}

theorem create_eq_ok_iff :
    (r.create id j).1 = .ok x ↔ ∃ d, r.lookup? id = some d ∧ (d.instantiate j).1 = .ok x := by
  unfold create
  cases r.lookup? id with
  | none => simp
  | some d => simp

end Registry

namespace AlgorithmRegistry

variable {a : AlgorithmRegistry} {uri : String} {alg : SignatureAlgorithm} {j : Journal}

theorem signature_eq_ok_iff {policy : Policy} :
    (a.signature uri policy j).1 = .ok alg ↔
      policy.permits uri = true ∧ (a.signatures.create uri j).1 = .ok alg := by
  unfold signature signatureFor
  split
  next h => simp [h]
  next h => simp [h]

/-- Every signature algorithm has been asked for, and is an authentication code of the built-in
catalog. -/
structure Grounded (asks : Request → Prop) (withLegacy : Bool) (files : FileSystem)
    (a : AlgorithmRegistry) : Prop where
  catalog : a.catalog = .builtin withLegacy files
  signatures : ∀ e ∈ a.signatures.entries, ∃ q h, asks q ∧ q.category = .signatureAlgorithm ∧
    q.id = e.1 ∧ q.implementation = Catalog.hmacId h ∧ e.2.implementation = Catalog.hmacId h ∧
    e.2.factory = .const (.builtin (Catalog.hmacId h)) (Hmac.algorithm h)

variable {asks : Request → Prop} {withLegacy : Bool} {files : FileSystem}

theorem grounded_stable : Stable asks (Grounded asks withLegacy files) where
  registered a q b j j' hq ha h := by
    obtain ⟨factory, hresolve, rfl⟩ := exists_resolve_of_ok h
    obtain ⟨category, id, implementation, description⟩ := q
    constructor
    · rw [withDescribed, catalog_withRegistry, ha.catalog]
    · intro e he
      by_cases hc : category = .signatureAlgorithm
      · subst hc
        rcases Registry.mem_entries_put he with rfl | he
        · rw [ha.catalog, Catalog.resolve_builtin_eq_ok_iff] at hresolve
          obtain ⟨hash, -, himplementation, hfactory⟩ := hresolve
          refine ⟨_, hash, hq, rfl, rfl, himplementation, ?_, ?_⟩
          · rw [Descriptor.implementation_described, himplementation]
          · rw [Descriptor.factory_described, hfactory]
        · exact ha.signatures e he
      · refine ha.signatures e ?_
        have hothers := registry_withRegistry_of_ne a (Ne.symm hc)
          ((a.registry category).put id (.described implementation factory description))
        change e ∈ ((a.withRegistry category _).registry .signatureAlgorithm).entries at he
        rwa [hothers] at he
  others _ _ _ _ _ ha := ⟨ha.catalog, ha.signatures⟩

/-- So it is in a run of calls on registries alone, and what has been asked for has been by one of
the calls. -/
theorem grounded_run {calls : List Call} (hcalls : ∀ call ∈ calls, call.KeepsCatalog)
    (j : Journal) :
    Grounded (fun q => ∃ call ∈ calls, q ∈ call.requests) withLegacy files
      ((ofCatalog (.builtin withLegacy files)).run calls j).1.1 :=
  grounded_stable.run ⟨rfl, fun _ he => absurd he List.not_mem_nil⟩ hcalls
    (fun call hcall _ hq => ⟨call, hcall, hq⟩) j

/-- What is made of an entry is the authentication code that it names. -/
theorem Grounded.instantiate (ha : a.Grounded asks withLegacy files)
    {d : Descriptor SignatureAlgorithm} (hd : a.signatures.lookup? uri = some d) (j : Journal) :
    ∃ q h, asks q ∧ q.category = .signatureAlgorithm ∧ q.id = uri ∧
      q.implementation = Catalog.hmacId h ∧ d.implementation = Catalog.hmacId h ∧
      (d.instantiate j).1 = .ok (Hmac.algorithm h) := by
  obtain ⟨q, h, hq, hcategory, hid, himplementation, hd, hfactory⟩ :=
    ha.signatures _ (Registry.mem_of_lookup? hd)
  refine ⟨q, h, hq, hcategory, hid, himplementation, hd, ?_⟩
  rw [Descriptor.instantiate, hfactory]
  rfl

/-! ### Codes under other URIs -/

/-- A code is handed out under the URI of its entry. -/
theorem signature_of_lookup? {policy : Policy} (hpermits : policy.permits uri = true) {h : Hash}
    (hbound : a.signatures.lookup? uri = some (.described (Catalog.hmacId h)
      (.const (.builtin (Catalog.hmacId h)) (Hmac.algorithm h)) none)) (j : Journal) :
    (a.signature uri policy j).1 = .ok (Hmac.algorithm h) :=
  signature_eq_ok_iff.2 ⟨hpermits, Registry.create_eq_ok_iff.2 ⟨_, hbound, rfl⟩⟩

/-- Whatever the URI is, a code of the built-in catalog can be registered under it. -/
theorem registerDescribed_hash (ha : a.catalog = .builtin withLegacy files) {h : Hash}
    (hh : h ∈ Hash.provided withLegacy) (j : Journal) :
    ∃ j', a.registerDescribed .signatureAlgorithm uri (Catalog.hmacId h) none j =
      (.ok (a.withDescribed .signatureAlgorithm uri (Catalog.hmacId h) none
        (.const (.builtin (Catalog.hmacId h)) (Hmac.algorithm h))), j') := by
  have hresolve := (@Catalog.resolve_builtin_eq_ok_iff withLegacy files uri _ _).2
    ⟨h, hh, rfl, rfl⟩
  rw [registerDescribed_apply, ha, hresolve]
  exact ⟨_, rfl⟩

theorem contains_run_register (ha : a.catalog = .builtin withLegacy files) {h : Hash}
    (hh : h ∈ Hash.provided withLegacy) {calls : List Call}
    (hcalls : calls = [.register .signatureAlgorithm uri (Catalog.hmacId h)]) (j : Journal) :
    (a.run calls j).1.1.signatures.contains uri = true := by
  subst hcalls
  obtain ⟨j', hregistered⟩ := @registerDescribed_hash a uri withLegacy files ha h hh j
  simp only [run, perform, registerImplementation, hregistered, Traced.bind_apply,
    Traced.pure_apply]
  change (a.signatures.put uri _).contains uri = true
  rw [Registry.contains_put, beq_self_eq_true, Bool.or_true]

/-- A document registers a code under any URI as well. -/
theorem lookup?_run_init (ha : a.catalog = .builtin withLegacy files) (hunready : a.report = none)
    {h : Hash} (hh : h ∈ Hash.provided withLegacy) {p : Provider}
    {ss : List (Xml.Element Xml.Name)} (hread : p.sections? Options.defaultPath = .ok ss)
    (hrequests : (Configuration.ofSections ss).requests =
      [⟨.signatureAlgorithm, uri, Catalog.hmacId h, none⟩])
    (hmappings : (Configuration.ofSections ss).prefixMappings = []) {calls : List Call}
    (hcalls : calls = [.init p {}]) (j : Journal) :
    (a.run calls j).1.1.signatures.lookup? uri = some (.described (Catalog.hmacId h)
      (.const (.builtin (Catalog.hmacId h)) (Hmac.algorithm h)) none) := by
  subst hcalls
  have hload := load_of_sections (a := a) (o := {}) hread j
  simp only [apply, hrequests, hmappings, Progress.enterAll, Progress.bindPrefixes,
    List.foldlM_cons, List.foldlM_nil, Traced.bind_apply, Traced.pure_apply] at hload
  obtain ⟨j', hregistered⟩ := @registerDescribed_hash { a with
      locale := (Configuration.ofSections ss).locale.or a.locale
      providerMappings := (Configuration.ofSections ss).providerMappings.or a.providerMappings }
    uri withLegacy files ha h hh
    (j ++ p.fetching _ ++ (ss.flatMap Configuration.sectionEvents).map .reported)
  rw [Progress.enter_of_ok _ hregistered] at hload
  have hinit := once_of_ok hunready hload
  simp only [run, perform, init, hinit, Traced.bind_apply, Traced.pure_apply]
  change (a.signatures.put uri _).lookup? uri = _
  rw [Registry.lookup?_put, if_pos rfl]

/-! ### Policies -/

/-- In every run of bootstraps and registrations over the built-in catalog, a signature algorithm is
handed out exactly if the policy permits the URI that is requested and something is registered under
it, and it is the authentication code that the entry names. If that is the code whose own URI is
the one that is requested, the policy permits its own URI as well. So it is if everything that the
run has asked for under the URI is the code whose own URI it is. -/
theorem signature_of_bound_hash (withLegacy : Bool) (files : FileSystem) (calls : List Call)
    (hcalls : ∀ call ∈ calls, call.KeepsCatalog) (j : Journal) (l : RejectList) (uri : String)
    (j' : Journal) :
    let a := ((ofCatalog (.builtin withLegacy files)).run calls j).1.1
    let answer := (a.signature uri l.policy j').1
    let Bound (h : Hash) :=
      (a.signatures.lookup? uri).map (·.implementation) = some (Catalog.hmacId h)
    ((∃ alg, answer = .ok alg) ↔
      l.policy.permits uri = true ∧ a.signatures.contains uri = true) ∧
    (∀ alg, answer = .ok alg → ∃ h, Bound h ∧ alg = Hmac.algorithm h) ∧
    (∀ h, Bound h → h.hmacUri = uri →
      ∀ alg, answer = .ok alg → alg.uri = uri ∧ l.policy.permits alg.uri = true) ∧
    ((∀ call ∈ calls, call.OwnUri uri) → ∀ h, Bound h → h.hmacUri = uri) := by
  intro a answer Bound
  have ha : a.Grounded _ withLegacy files := grounded_run hcalls j
  have hnamed : ∀ alg, answer = .ok alg → ∃ h, Bound h ∧ alg = Hmac.algorithm h := by
    intro alg halg
    obtain ⟨-, hcreate⟩ := signature_eq_ok_iff.1 halg
    obtain ⟨d, hd, hmade⟩ := Registry.create_eq_ok_iff.1 hcreate
    obtain ⟨q, h, -, -, -, -, hnamed, hmade'⟩ := ha.instantiate hd j'
    have hbound : Bound h := by simp only [Bound, hd, Option.map_some, hnamed]
    exact ⟨h, hbound, Except.ok.inj (hmade.symm.trans hmade')⟩
  refine ⟨?_, hnamed, ?_, ?_⟩
  · simp only [answer, signature_eq_ok_iff, exists_and_left]
    refine and_congr_right fun _ => ?_
    rw [Registry.contains_eq_isSome_lookup?, Option.isSome_iff_exists]
    constructor
    · rintro ⟨alg, halg⟩
      obtain ⟨d, hd, -⟩ := Registry.create_eq_ok_iff.1 halg
      exact ⟨d, hd⟩
    · rintro ⟨d, hd⟩
      obtain ⟨q, h, -, -, -, -, -, hmade⟩ := ha.instantiate hd j'
      exact ⟨_, Registry.create_eq_ok_iff.2 ⟨d, hd, hmade⟩⟩
  · intro h hbound huri alg halg
    obtain ⟨hpermits, -⟩ := signature_eq_ok_iff.1 halg
    obtain ⟨h', hbound', rfl⟩ := hnamed alg halg
    obtain rfl := Catalog.hmacId_injective (Option.some.inj (hbound'.symm.trans hbound))
    exact ⟨huri, by rwa [Hmac.algorithm, huri]⟩
  · intro hown h hbound
    obtain ⟨d, hd, himplementation⟩ := Option.map_eq_some_iff.1 hbound
    obtain ⟨q, h', ⟨call, hcall, hq⟩, hcategory, hid, hrequest, hnamed, -⟩ := ha.instantiate hd j'
    obtain rfl := Catalog.hmacId_injective (hnamed.symm.trans himplementation)
    exact hown call hcall q hq hcategory hid h' hrequest

/-- The code over SHA-256 under its own URI. -/
theorem signature_of_bound_hash_sha256 :
    let files : FileSystem := ⟨.emptyDirectory, []⟩
    let calls : List Call :=
      [.register .signatureAlgorithm Algorithm.hmacSha256 (Catalog.hmacId .sha256)]
    let a := ((ofCatalog (.builtin false files)).run calls []).1.1
    let l := RejectList.ofList [Algorithm.hmacSha1]
    (∀ call ∈ calls, call.KeepsCatalog) ∧ (∀ call ∈ calls, call.OwnUri Algorithm.hmacSha256) ∧
      ∃ alg, (a.signature Algorithm.hmacSha256 l.policy []).1 = .ok alg ∧
        alg.uri = Algorithm.hmacSha256 ∧ l.policy.permits alg.uri = true := by
  intro files calls a l
  have hcalls : ∀ call ∈ calls, call.KeepsCatalog := by simp [calls, Call.KeepsCatalog]
  have hown : ∀ call ∈ calls, call.OwnUri Algorithm.hmacSha256 := by
    intro call hcall
    rw [List.mem_singleton.1 hcall]
    intro q hq _ _ h hnamed
    rw [List.mem_singleton.1 hq] at hnamed
    rw [← Catalog.hmacId_injective (h := .sha256) hnamed]
    rfl
  have hcatalog : (ofCatalog (.builtin false files)).catalog = .builtin false files := rfl
  have hregister : calls =
    [.register .signatureAlgorithm Algorithm.hmacSha256 (Catalog.hmacId .sha256)] := rfl
  have hbound := contains_run_register hcatalog (by decide) hregister []
  obtain ⟨hdispatch, hnamed, huri, hasked⟩ := signature_of_bound_hash false files calls hcalls [] l
    Algorithm.hmacSha256 []
  obtain ⟨alg, halg⟩ := hdispatch.2 ⟨by decide, hbound⟩
  obtain ⟨h, hh, -⟩ := hnamed alg halg
  exact ⟨hcalls, hown, alg, halg, huri h hh (hasked hown h hh) alg halg⟩

/-- The section with an entry for the code over SHA-1 under another URI. -/
def aliasSection : Xml.Element Xml.Name where
  name := ⟨some Namespace.configuration, "SignatureAlgorithms"⟩
  attributes := []
  children := [.element ⟨some Namespace.configuration, "SignatureAlgorithm"⟩
    [(⟨none, "URI"⟩, "urn:alias"), (⟨none, "JAVACLASS"⟩, ImplementationId.hmacSha1)] []
    "<SignatureAlgorithm URI=\"urn:alias\" JAVACLASS=\"ulriksdal::crypto::HmacSha1\"/>"]
  source := "<SignatureAlgorithms><SignatureAlgorithm URI=\"urn:alias\" " ++
    "JAVACLASS=\"ulriksdal::crypto::HmacSha1\"/></SignatureAlgorithms>"

/-- The provider of a document with that section. -/
def aliasProvider : Provider where
  document _ := .ok ("<Configuration xmlns=\"http://www.xmlsecurity.org/NS/#configuration\">" ++
    aliasSection.source ++ "</Configuration>")

/-- A policy that rejects the code over SHA-1 lets it pass under the URI that a document has given
it. -/
theorem rejected_hash_under_alias :
    let files : FileSystem := ⟨.emptyDirectory, []⟩
    let calls : List Call := [.init aliasProvider {}]
    let a := ((ofCatalog (.builtin false files)).run calls []).1.1
    let l := RejectList.ofList [Algorithm.hmacSha1]
    (∀ call ∈ calls, call.KeepsCatalog) ∧
      (a.signature "urn:alias" l.policy []).1 = .ok (Hmac.algorithm .sha1) ∧
      l.policy.permits "urn:alias" = true ∧
      l.policy.permits (Hmac.algorithm .sha1).uri = false := by
  intro files calls a l
  have hread : aliasProvider.sections? Options.defaultPath = .ok [aliasSection] := by cbv
  have hcatalog : (ofCatalog (.builtin false files)).catalog = .builtin false files := rfl
  have hrequests : (Configuration.ofSections [aliasSection]).requests =
    [⟨.signatureAlgorithm, "urn:alias", Catalog.hmacId .sha1, none⟩] := rfl
  have hinit : calls = [.init aliasProvider {}] := rfl
  have hbound := lookup?_run_init hcatalog rfl (by decide) hread hrequests rfl hinit []
  have hpermits : l.policy.permits "urn:alias" = true := by decide
  have halg := signature_of_lookup? hpermits hbound []
  exact ⟨by simp [calls, Call.KeepsCatalog], halg, hpermits, by decide⟩

end AlgorithmRegistry

end DsigRegistry
