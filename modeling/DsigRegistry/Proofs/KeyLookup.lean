import DsigRegistry.Proofs.Chain
import DsigRegistry.Stub

/-!
# Looking up keys

A key store answers for a name with the key that was added last under it. Of the two key resolvers
of this library each claims one kind of description, so that neither is in the other's way: however
they were registered, and whatever other resolvers stand around them, a description that no other
resolver claims is answered by the one that it is meant for. Main fact:
`resolveKey_by_latest`.
-/

namespace DsigRegistry

/-! ### Stores -/

namespace KeyStore

variable {added : List (String × Key)} {name : String} {key : Key}

/-- The key was added under the name, and none was added under it later. -/
def Latest (added : List (String × Key)) (name : String) (key : Key) : Prop :=
  ∃ before after, added = before ++ (name, key) :: after ∧ ∀ k ∈ after, k.1 ≠ name

theorem ofList_concat (added : List (String × Key)) (name : String) (key : Key) :
    ofList (added ++ [(name, key)]) = (ofList added).add name key := by
  simp [ofList]

theorem keys_ofList (added : List (String × Key)) : (ofList added).keys = added.reverse := by
  induction added using List.reverseRecOn with
  | nil => rfl
  | append_singleton added k ih =>
    obtain ⟨name, key⟩ := k
    rw [ofList_concat, List.reverse_concat, ← ih]
    rfl

/-- Keys that are shadowed count as well. -/
theorem size_ofList (added : List (String × Key)) : (ofList added).size = added.length := by
  rw [size, keys_ofList, List.length_reverse]

theorem find?_ofList_eq_some_iff :
    (ofList added).find? name = some key ↔ Latest added name key := by
  rw [find?, keys_ofList, Option.map_eq_some_iff]
  constructor
  · rintro ⟨⟨name', key'⟩, hfind, rfl⟩
    obtain ⟨hname, after, before, hsplit, hafter⟩ := List.find?_eq_some_iff_append.1 hfind
    obtain rfl : name' = name := by simpa using hname
    refine ⟨before.reverse, after.reverse, ?_, ?_⟩
    · simpa using congrArg List.reverse hsplit
    · intro k hk
      simpa using hafter k (List.mem_reverse.1 hk)
  · rintro ⟨before, after, rfl, hafter⟩
    refine ⟨(name, key), List.find?_eq_some_iff_append.2 ⟨by simp, ?_⟩, rfl⟩
    refine ⟨after.reverse, before.reverse, by simp, ?_⟩
    intro k hk
    simpa using hafter k (List.mem_reverse.1 hk)

theorem find?_ofList_eq_none_iff :
    (ofList added).find? name = none ↔ ∀ k ∈ added, k.1 ≠ name := by
  rw [find?, keys_ofList, Option.map_eq_none_iff, List.find?_eq_none]
  simp

end KeyStore

/-! ### Resolvers that do not compete -/

namespace KeyResolver

variable {x : KeyResolver} {info : KeyInfo}

/-- The resolver is one of the two of this library. -/
def IsBuiltin (x : KeyResolver) : Prop := x = keyName ∨ x = keyValue

theorem eq_keyName_of_claims {name : String} (hx : x.IsBuiltin)
    (h : x.claims (.keyName name) = true) : x = keyName := by
  rcases hx with rfl | rfl
  · rfl
  · cases h

theorem eq_keyValue_of_claims {type : String} {der : Octets} (hx : x.IsBuiltin)
    (h : x.claims (.keyValue type der) = true) : x = keyValue := by
  rcases hx with rfl | rfl
  · cases h
  · rfl

end KeyResolver

section Chains

variable {r : Registry KeyResolver} {info : KeyInfo} {scope : ResolverScope}

theorem resolveKey_of_none
    (h : ∀ e ∈ r.entries, scope.allows e.1 = true → ∀ n x, e.2.factory.build n = .ok x →
      x.claims info = false) (keys : KeyStore) (j : Journal) :
    (resolveKey r info keys scope j).1 = .error (.unresolvable info.text) := by
  let q : Query KeyResolver := ⟨scope, (·.claims info), .keyResolverSkipped⟩
  have hnone : firstClaim scope (·.claims info) .keyResolverSkipped r.entries j =
      (none, r.entries.foldl q.passing j) := Query.firstClaim_of_none (q := q) h j
  simp only [resolveKey, Traced.bind_apply, hnone]
  rfl

theorem resolveKey_of_sole {x : KeyResolver}
    (hsole : ∀ e ∈ r.entries, scope.allows e.1 = true → ∀ n y, e.2.factory.build n = .ok y →
      y.claims info = true → y = x)
    (hpresent : ∃ e ∈ r.entries, scope.allows e.1 = true ∧ e.2.Makes x)
    (hx : x.claims info = true) (keys : KeyStore) (j : Journal) :
    (resolveKey r info keys scope j).1 = x.resolve info keys := by
  let q : Query KeyResolver := ⟨scope, (·.claims info), .keyResolverSkipped⟩
  obtain ⟨id, j', hfound⟩ := Query.firstClaim_of_sole (q := q) hsole hpresent hx j
  change firstClaim scope (·.claims info) .keyResolverSkipped r.entries j = _ at hfound
  simp only [resolveKey, Traced.bind_apply, hfound]
  rfl

/-- Both resolvers of this library can be reached in the scope, and none but them claims the
description there. -/
structure Registry.Serves (r : Registry KeyResolver) (scope : ResolverScope) (info : KeyInfo) :
    Prop where
  keyName : ∃ e ∈ r.entries, scope.allows e.1 = true ∧ e.2.Makes KeyResolver.keyName
  keyValue : ∃ e ∈ r.entries, scope.allows e.1 = true ∧ e.2.Makes KeyResolver.keyValue
  others : ∀ e ∈ r.entries, scope.allows e.1 = true → ∀ n x, e.2.factory.build n = .ok x →
    x.IsBuiltin ∨ x.claims info = false

theorem Registry.Serves.isBuiltin (h : r.Serves scope info) {e : String × Descriptor KeyResolver}
    (he : e ∈ r.entries) (hallowed : scope.allows e.1 = true) {n : Nat} {x : KeyResolver}
    (hbuild : e.2.factory.build n = .ok x) (hclaims : x.claims info = true) : x.IsBuiltin := by
  rcases h.others e he hallowed n x hbuild with hbuiltin | hdeclines
  · exact hbuiltin
  · cases hclaims.symm.trans hdeclines

/-- A description that is meant for neither of the two resolvers is claimed by none. -/
theorem Registry.Serves.unresolvable (h : r.Serves scope info)
    (hname : KeyResolver.keyName.claims info = false)
    (hvalue : KeyResolver.keyValue.claims info = false) (keys : KeyStore) (j : Journal) :
    (resolveKey r info keys scope j).1 = .error (.unresolvable info.text) := by
  apply resolveKey_of_none
  intro e he hallowed n x hbuild
  rcases h.others e he hallowed n x hbuild with (rfl | rfl) | hdeclines
  · exact hname
  · exact hvalue
  · exact hdeclines

/-- What a description has to be answered with after keys were added, the latest at the end. -/
inductive KeyInfo.Answer (added : List (String × Key)) : KeyInfo → Except Error Key → Prop
  | found {name : String} {key : Key} (h : KeyStore.Latest added name key) :
      Answer added (.keyName name) (.ok key)
  | notFound {name : String} (h : ∀ k ∈ added, k.1 ≠ name) :
      Answer added (.keyName name) (.error (.keyNotFound name))
  | given {type : String} {der : Octets} (h : der ≠ []) :
      Answer added (.keyValue type der) (.ok (.publicKey type der))
  | empty {type : String} : Answer added (.keyValue type []) (.error (.key "empty KeyValue"))
  | x509Certificate {der : Octets} :
      Answer added (.x509Certificate der)
        (.error (.unresolvable (KeyInfo.x509Certificate der).text))
  | retrievalMethod {uri : String} :
      Answer added (.retrievalMethod uri)
        (.error (.unresolvable (KeyInfo.retrievalMethod uri).text))

theorem Registry.Serves.answer (h : r.Serves scope info) (added : List (String × Key))
    (j : Journal) : info.Answer added (resolveKey r info (.ofList added) scope j).1 := by
  cases info with
  | keyName name =>
    have hsole : (resolveKey r (.keyName name) (.ofList added) scope j).1 =
        KeyResolver.keyName.resolve (.keyName name) (.ofList added) := by
      apply resolveKey_of_sole ?_ h.keyName rfl
      intro e he hallowed n y hbuild hclaims
      exact KeyResolver.eq_keyName_of_claims (h.isBuiltin he hallowed hbuild hclaims) hclaims
    rw [hsole]
    cases hfind : (KeyStore.ofList added).find? name with
    | none =>
      simp only [KeyResolver.keyName, hfind]
      exact .notFound (KeyStore.find?_ofList_eq_none_iff.1 hfind)
    | some key =>
      simp only [KeyResolver.keyName, hfind]
      exact .found (KeyStore.find?_ofList_eq_some_iff.1 hfind)
  | keyValue type der =>
    have hsole : (resolveKey r (.keyValue type der) (.ofList added) scope j).1 =
        KeyResolver.keyValue.resolve (.keyValue type der) (.ofList added) := by
      apply resolveKey_of_sole ?_ h.keyValue rfl
      intro e he hallowed n y hbuild hclaims
      exact KeyResolver.eq_keyValue_of_claims (h.isBuiltin he hallowed hbuild hclaims) hclaims
    rw [hsole]
    cases der with
    | nil => exact .empty
    | cons b der => exact .given (List.cons_ne_nil b der)
  | x509Certificate der =>
    rw [h.unresolvable rfl rfl]
    exact .x509Certificate
  | retrievalMethod uri =>
    rw [h.unresolvable rfl rfl]
    exact .retrievalMethod

end Chains

/-- Where both resolvers of this library can be reached in the scope, under whatever identifiers and
in whatever order, and nothing else there claims the description, a name stands for the key that was
added last under it, and otherwise is not found; a key that is given stands for itself unless it is
empty; and other descriptions are unresolvable. The store counts every key that was added. -/
theorem resolveKey_by_latest (added : List (String × Key)) :
    (∀ (r : Registry KeyResolver) (info : KeyInfo) (scope : ResolverScope),
      r.Serves scope info →
        ∀ j, info.Answer added (resolveKey r info (.ofList added) scope j).1) ∧
    (KeyStore.ofList added).size = added.length :=
  ⟨fun _ _ _ h j => h.answer added j, KeyStore.size_ofList added⟩

/-- The handle to the resolver that looks names up. -/
def keyNameDescriptor : Descriptor KeyResolver :=
  ⟨"KeyName", none, .const (.builtin "KeyName") .keyName⟩

/-- The handle to the resolver that takes keys as they are given. -/
def keyValueDescriptor : Descriptor KeyResolver :=
  ⟨"KeyValue", none, .const (.builtin "KeyValue") .keyValue⟩

/-- The handle to a resolver that claims nothing and cannot be constructed again. -/
def decliningDescriptor : Descriptor KeyResolver :=
  ⟨"Declining", none, Factory.failingAfter
    (.const (.host 0) (Stub.keyResolver false (.ok (.secret [])))) 1 (.other "down")⟩

/-- Both resolvers, each registered again in the place of the other, behind one that declines. -/
def exchangedResolvers : Registry KeyResolver :=
  .ofHistory .keyResolver
    [⟨"other", decliningDescriptor, []⟩, ⟨"first", keyValueDescriptor, []⟩,
     ⟨"second", keyNameDescriptor, []⟩, ⟨"first", keyNameDescriptor, []⟩,
     ⟨"second", keyValueDescriptor, []⟩]

theorem serves_exchangedResolvers (name : String) :
    exchangedResolvers.Serves .unrestricted (.keyName name) := by
  have hentries : exchangedResolvers.entries =
      [("other", decliningDescriptor), ("first", keyNameDescriptor),
       ("second", keyValueDescriptor)] := rfl
  refine ⟨⟨("first", keyNameDescriptor), by simp [hentries], rfl, fun _ => rfl⟩,
    ⟨("second", keyValueDescriptor), by simp [hentries], rfl, fun _ => rfl⟩, ?_⟩
  rw [hentries]
  intro e he _ n x hbuild
  rcases List.mem_cons.1 he with rfl | he
  · refine .inr ?_
    simp only [decliningDescriptor, Factory.failingAfter, Factory.const] at hbuild
    split at hbuild
    · cases hbuild
      rfl
    · cases hbuild
  · rcases List.mem_pair.1 he with rfl | rfl
    · cases hbuild
      exact .inl (.inl rfl)
    · cases hbuild
      exact .inl (.inr rfl)

/-- The later one of two keys is found, and not the one behind it, which has another name. -/
theorem resolveKey_by_latest_exchanged :
    let added := [("k", .secret [1]), ("k", .secret [2]), ("l", .secret [3])]
    exchangedResolvers.Serves .unrestricted (.keyName "k") ∧
      KeyStore.Latest added "k" (.secret [2]) ∧
      KeyInfo.Answer added (.keyName "k")
        (resolveKey exchangedResolvers (.keyName "k") (.ofList added) .unrestricted []).1 := by
  intro added
  have hserves := serves_exchangedResolvers "k"
  refine ⟨hserves, ⟨[("k", .secret [1])], [("l", .secret [3])], rfl, by simp⟩, ?_⟩
  exact (resolveKey_by_latest added).1 exchangedResolvers _ _ hserves []

end DsigRegistry
