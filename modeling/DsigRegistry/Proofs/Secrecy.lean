import Mathlib.Data.List.Forall2
import DsigRegistry.Proofs.Hmac
import DsigRegistry.Proofs.KeyLookup

/-!
# Secret key material

What is secret about a key are the octets of a shared secret and the encoding of a private key. Two
runs with keys that differ in nothing else show the same diagnostics, find keys in the same cases,
and fail in the same cases with the same errors. Main fact: `secrets_unnoticed`.
-/

namespace DsigRegistry

/-- Both succeed, with values that are related, or both fail with the same error. -/
inductive Matches {α β : Type} (R : α → β → Prop) : Except Error α → Except Error β → Prop
  | ok {x : α} {y : β} (h : R x y) : Matches R (.ok x) (.ok y)
  | error (e : Error) : Matches R (.error e) (.error e)

/-! ### Keys -/

/-- The keys differ in nothing but what is secret. The number of octets of a shared secret is
not. -/
inductive Key.Lookalike : Key → Key → Prop
  | secret {octets octets' : Octets} (h : octets.length = octets'.length) :
      Lookalike (.secret octets) (.secret octets')
  | publicKey (type : String) (der : Octets) :
      Lookalike (.publicKey type der) (.publicKey type der)
  | privateKey (type : String) (der der' : Octets) :
      Lookalike (.privateKey type der) (.privateKey type der')

namespace Key.Lookalike

variable {k k' : Key}

theorem text_eq (h : k.Lookalike k') : k.text = k'.text := by
  cases h with
  | secret h => simp only [Key.text, h]
  | publicKey type der => rfl
  | privateKey type der der' => rfl

variable (hash : Hash) (data signature : Octets)

theorem sign (h : k.Lookalike k') :
    Matches (fun code code' => code.length = code'.length)
      ((Hmac.algorithm hash).sign k data) ((Hmac.algorithm hash).sign k' data) := by
  cases h with
  | @secret octets octets' h =>
    have hlength : (Hmac.mac hash octets data).length = (Hmac.mac hash octets' data).length := by
      rw [Hmac.length_mac, Hmac.length_mac]
    exact .ok hlength
  | publicKey type der => exact .error _
  | privateKey type der der' => exact .error _

theorem verify (h : k.Lookalike k') :
    Matches (fun _ _ => True) ((Hmac.algorithm hash).verify k data signature)
      ((Hmac.algorithm hash).verify k' data signature) := by
  cases h with
  | @secret octets octets' h =>
    change Matches _ (Hmac.verify hash _ data signature) (Hmac.verify hash _ data signature)
    by_cases hlength : signature.length < Hmac.minimumLength hash
    · rw [Hmac.verify_of_short hash octets data hlength,
        Hmac.verify_of_short hash octets' data hlength]
      exact .error _
    · rw [Hmac.verify_of_long hash octets data (Nat.le_of_not_lt hlength),
        Hmac.verify_of_long hash octets' data (Nat.le_of_not_lt hlength)]
      exact .ok trivial
  | publicKey type der => exact .error _
  | privateKey type der der' => exact .error _

end Key.Lookalike

/-! ### Stores -/

/-- The same names in the same order, with keys that differ in nothing but what is secret. -/
def NamedLookalike (added added' : List (String × Key)) : Prop :=
  List.Forall₂ (fun k k' => k.1 = k'.1 ∧ k.2.Lookalike k'.2) added added'

namespace NamedLookalike

variable {added added' : List (String × Key)}

theorem keys_ofList (h : NamedLookalike added added') :
    NamedLookalike (KeyStore.ofList added).keys (KeyStore.ofList added').keys := by
  rw [KeyStore.keys_ofList, KeyStore.keys_ofList]
  exact List.forall₂_reverse_iff.2 h

theorem text_eq {s s' : KeyStore} (h : NamedLookalike s.keys s'.keys) : s.text = s'.text := by
  have hshown : ∀ f : String → String → String,
      s.keys.map (fun k => f k.1 k.2.text) = s'.keys.map (fun k => f k.1 k.2.text) := by
    intro f
    rw [← List.forall₂_eq_eq_eq, List.forall₂_map_left_iff, List.forall₂_map_right_iff]
    refine h.imp ?_
    rintro k k' ⟨hname, hkey⟩
    rw [hname, hkey.text_eq]
  unfold KeyStore.text
  congr 4
  exact hshown fun name text => "(" ++ Text.quote name ++ ", " ++ text ++ ")"

theorem find? {keys keys' : List (String × Key)} (h : NamedLookalike keys keys') (name : String) :
    Option.Rel Key.Lookalike (KeyStore.find? ⟨keys⟩ name) (KeyStore.find? ⟨keys'⟩ name) := by
  induction h with
  | nil => exact .none
  | @cons k k' keys keys' hk _ ih =>
    obtain ⟨hname, hkey⟩ := hk
    simp only [KeyStore.find?, List.find?_cons, hname]
    cases k'.1 == name with
    | true => exact .some hkey
    | false => exact ih

end NamedLookalike

/-! ### Resolvers -/

/-- No resolver is registered but those of this library. -/
def Registry.BuiltinOnly (r : Registry KeyResolver) : Prop :=
  ∀ e ∈ r.entries, ∀ n x, e.2.factory.build n = .ok x → x.IsBuiltin

section Resolvers

variable {s s' : KeyStore} {x : KeyResolver}

theorem KeyResolver.IsBuiltin.resolve (hx : x.IsBuiltin) (h : NamedLookalike s.keys s'.keys)
    (info : KeyInfo) : Matches Key.Lookalike (x.resolve info s) (x.resolve info s') := by
  rcases hx with rfl | rfl
  · cases info with
    | keyName name =>
      have hfound : Option.Rel Key.Lookalike (s.find? name) (s'.find? name) := h.find? name
      simp only [KeyResolver.keyName]
      generalize s.find? name = found, s'.find? name = found' at hfound ⊢
      cases hfound with
      | some hkey => exact .ok hkey
      | none => exact .error _
    | keyValue type der => exact .error _
    | x509Certificate der => exact .error _
    | retrievalMethod uri => exact .error _
  · cases info with
    | keyName name => exact .error _
    | keyValue type der =>
      cases der with
      | nil => exact .error _
      | cons b der => exact .ok (.publicKey type (b :: der))
    | x509Certificate der => exact .error _
    | retrievalMethod uri => exact .error _

/-- Which resolver answers does not depend on the store. -/
theorem Registry.BuiltinOnly.resolveKey {r : Registry KeyResolver} (hr : r.BuiltinOnly)
    (h : NamedLookalike s.keys s'.keys) (info : KeyInfo) (scope : ResolverScope) (j : Journal) :
    Matches Key.Lookalike (DsigRegistry.resolveKey r info s scope j).1
        (DsigRegistry.resolveKey r info s' scope j).1 ∧
      (DsigRegistry.resolveKey r info s scope j).2 =
        (DsigRegistry.resolveKey r info s' scope j).2 := by
  let q : Query KeyResolver := ⟨scope, (·.claims info), .keyResolverSkipped⟩
  simp only [DsigRegistry.resolveKey, Traced.bind_apply]
  rcases q.firstClaim_cases r.entries j with ⟨before, id, d, x, hfirst, heq⟩ | ⟨-, heq⟩
  · obtain ⟨after, hsplit⟩ := hfirst.split
    have hmem : (id, d) ∈ r.entries := by simp [hsplit]
    have hx : x.IsBuiltin := hr (id, d) hmem _ x hfirst.claims.constructed
    rw [heq]
    exact ⟨hx.resolve h info, rfl⟩
  · rw [heq]
    exact ⟨.error _, rfl⟩

end Resolvers

/-- Two runs with the same names and with keys that differ in nothing but what is secret show the
same texts for the keys and for the stores. With the resolvers of this library, a description of a
key is resolved in one exactly if it is in the other, with the same error if it is not, and with the
same journal in both cases. Signing and verifying fail in the same cases, with the same errors. -/
theorem secrets_unnoticed {added added' : List (String × Key)} (h : NamedLookalike added added') :
    (KeyStore.ofList added).text = (KeyStore.ofList added').text ∧
    (∀ r : Registry KeyResolver, r.BuiltinOnly → ∀ info scope j,
      let outcome := resolveKey r info (.ofList added) scope j
      let outcome' := resolveKey r info (.ofList added') scope j
      Matches Key.Lookalike outcome.1 outcome'.1 ∧ outcome.2 = outcome'.2) ∧
    List.Forall₂ (fun k k' => k.2.text = k'.2.text ∧
        ∀ hash data,
          Matches (fun code code' => code.length = code'.length)
            ((Hmac.algorithm hash).sign k.2 data) ((Hmac.algorithm hash).sign k'.2 data) ∧
          ∀ signature, Matches (fun _ _ => True)
            ((Hmac.algorithm hash).verify k.2 data signature)
            ((Hmac.algorithm hash).verify k'.2 data signature))
      added added' := by
  refine ⟨h.keys_ofList.text_eq, ?_, ?_⟩
  · intro r hr info scope j
    exact hr.resolveKey h.keys_ofList info scope j
  · refine h.imp ?_
    rintro k k' ⟨-, hkey⟩
    refine ⟨hkey.text_eq, ?_⟩
    intro hash data
    exact ⟨hkey.sign hash data, fun signature => hkey.verify hash data signature⟩

/-- The resolvers of this library and no others. -/
def builtinResolvers : Registry KeyResolver :=
  ⟨.keyResolver, [("KeyName", keyNameDescriptor), ("KeyValue", keyValueDescriptor)]⟩

theorem builtinOnly_builtinResolvers : builtinResolvers.BuiltinOnly := by
  intro e he n x hbuild
  rcases List.mem_pair.1 he with rfl | rfl
  · cases hbuild
    exact .inl rfl
  · cases hbuild
    exact .inr rfl

/-- Another secret of the same length under the same name gives another key, which nothing else
tells. -/
theorem secrets_unnoticed_exchanged :
    let added : List (String × Key) := [("mac", .secret [1]), ("pair", .privateKey "type" [1, 2])]
    let added' : List (String × Key) := [("mac", .secret [2]), ("pair", .privateKey "type" [])]
    let outcome := resolveKey builtinResolvers (.keyName "mac") (.ofList added) .unrestricted []
    let outcome' := resolveKey builtinResolvers (.keyName "mac") (.ofList added') .unrestricted []
    NamedLookalike added added' ∧ builtinResolvers.BuiltinOnly ∧
      (KeyStore.ofList added).text = (KeyStore.ofList added').text ∧
      Matches Key.Lookalike outcome.1 outcome'.1 ∧ outcome.2 = outcome'.2 ∧
      outcome.1 = .ok (.secret [1]) ∧ outcome'.1 = .ok (.secret [2]) := by
  intro added added' outcome outcome'
  have hnamed : NamedLookalike added added' :=
    .cons ⟨rfl, .secret rfl⟩ (.cons ⟨rfl, .privateKey "type" [1, 2] []⟩ .nil)
  obtain ⟨htext, hresolve, -⟩ := secrets_unnoticed hnamed
  obtain ⟨hkeys, hjournal⟩ :=
    hresolve builtinResolvers builtinOnly_builtinResolvers (.keyName "mac") .unrestricted []
  exact ⟨hnamed, builtinOnly_builtinResolvers, htext, hkeys, hjournal, rfl, rfl⟩

end DsigRegistry
