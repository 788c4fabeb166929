import DsigRegistry.Proofs.History
import DsigRegistry.Resolution

/-!
# Chains of resolvers

The first entry of a chain that is in scope, can be constructed at its turn, and claims what is to
be resolved answers for it. The entries before it are passed over, and those after it take no
part. Main facts: `Query.firstClaim_cases` and, with the history of a registry, what resolving
comes to.
-/

namespace DsigRegistry

variable {ρ : Type}

/-- The constructor of the descriptor gives the value on each call. -/
def Descriptor.Makes (d : Descriptor ρ) (x : ρ) : Prop :=
  ∀ n, d.factory.build n = .ok x

/-- What a chain is asked for in one operation. -/
structure Query (ρ : Type) where
  scope : ResolverScope
  claims : ρ → Bool
  /-- The event for a resolver that cannot be constructed. -/
  skipped : String → Error → Event

namespace Query

variable (q : Query ρ)

/-- The entry is in scope, its current descriptor constructs a resolver, and that one claims what
is to be resolved. -/
structure Claims (j : Journal) (e : String × Descriptor ρ) (x : ρ) : Prop where
  allowed : q.scope.allows e.1 = true
  constructed : (e.2.instantiate j).1 = .ok x
  claimed : q.claims x = true

/-- What has been done when an entry has been passed over: nothing if it is out of scope. -/
def passing (j : Journal) (e : String × Descriptor ρ) : Journal :=
  if q.scope.allows e.1 then
    match (e.2.instantiate j).1 with
    | .error cause => j ++ [.constructed e.2.factory.id, .reported (q.skipped e.1 cause)]
    | .ok _ => j ++ [.constructed e.2.factory.id, .asked e.1]
  else j

/-- None of the entries claims at its turn, when those before it have been passed over. -/
def Unclaimed (es : List (String × Descriptor ρ)) (j : Journal) : Prop :=
  ∀ before e after, es = before ++ e :: after → ∀ x, ¬q.Claims (before.foldl q.passing j) e x

/-- The entry is the first that claims, with others before it. -/
structure First (es : List (String × Descriptor ρ)) (j : Journal)
    (before : List (String × Descriptor ρ)) (e : String × Descriptor ρ) (x : ρ) : Prop where
  split : ∃ after, es = before ++ e :: after
  unclaimed : q.Unclaimed before j
  claims : q.Claims (before.foldl q.passing j) e x

variable {q} {es before : List (String × Descriptor ρ)} {e e' : String × Descriptor ρ} {x : ρ}
  {j : Journal}

/-! ### One entry -/

theorem Claims.firstClaim_cons (h : q.Claims j e x) :
    firstClaim q.scope q.claims q.skipped (e :: es) j =
      (some (e.1, x), j ++ [.constructed e.2.factory.id, .asked e.1]) := by
  have hbuild : e.2.factory.build (j.constructions e.2.factory.id) = .ok x := h.constructed
  simp [firstClaim, Descriptor.instantiate, h.allowed, hbuild, h.claimed]

theorem firstClaim_cons_of_not_claims (h : ∀ x, ¬q.Claims j e x) :
    firstClaim q.scope q.claims q.skipped (e :: es) j =
      firstClaim q.scope q.claims q.skipped es (q.passing j e) := by
  cases hallows : q.scope.allows e.1 with
  | false => simp [firstClaim, passing, hallows]
  | true =>
    cases hbuild : e.2.factory.build (j.constructions e.2.factory.id) with
    | error cause => simp [firstClaim, passing, Descriptor.instantiate, hallows, hbuild]
    | ok x =>
      have hclaims : q.claims x = false := by
        by_contra hx
        exact h x ⟨hallows, hbuild, by simpa using hx⟩
      simp [firstClaim, passing, Descriptor.instantiate, hallows, hbuild, hclaims]

theorem Unclaimed.nil : q.Unclaimed [] j := by
  intro before e after h
  simp at h

theorem Unclaimed.cons (he : ∀ x, ¬q.Claims j e x) (h : q.Unclaimed es (q.passing j e)) :
    q.Unclaimed (e :: es) j := by
  intro before e' after hsplit
  cases before with
  | nil =>
    obtain ⟨rfl, rfl⟩ := List.cons.inj hsplit
    exact he
  | cons e'' before =>
    obtain ⟨rfl, htail⟩ := List.cons.inj hsplit
    exact h before e' after htail

theorem unclaimed_cons_iff :
    q.Unclaimed (e :: es) j ↔ (∀ x, ¬q.Claims j e x) ∧ q.Unclaimed es (q.passing j e) := by
  constructor
  · intro h
    refine ⟨h [] e es rfl, ?_⟩
    intro before e' after hsplit
    exact h (e :: before) e' after (by rw [hsplit, List.cons_append])
  · rintro ⟨he, h⟩
    exact h.cons he

theorem First.cons (he : ∀ x, ¬q.Claims j e x) (h : q.First es (q.passing j e) before e' x) :
    q.First (e :: es) j (e :: before) e' x := by
  obtain ⟨after, hsplit⟩ := h.split
  exact ⟨⟨after, by rw [hsplit, List.cons_append]⟩, h.unclaimed.cons he, h.claims⟩

theorem First.not_unclaimed (h : q.First es j before e x) : ¬q.Unclaimed es j := by
  intro hunclaimed
  obtain ⟨after, hsplit⟩ := h.split
  exact hunclaimed before e after hsplit x h.claims

/-! ### All entries -/

/-- A chain stops at the first entry that claims. -/
theorem firstClaim_cases (q : Query ρ) (es : List (String × Descriptor ρ)) (j : Journal) :
    (∃ before id d x, q.First es j before (id, d) x ∧
      firstClaim q.scope q.claims q.skipped es j =
        (some (id, x), before.foldl q.passing j ++ [.constructed d.factory.id, .asked id])) ∨
    (q.Unclaimed es j ∧
      firstClaim q.scope q.claims q.skipped es j = (none, es.foldl q.passing j)) := by
  induction es generalizing j with
  | nil => exact .inr ⟨.nil, rfl⟩
  | cons e es ih =>
    by_cases he : ∃ x, q.Claims j e x
    · obtain ⟨x, hx⟩ := he
      exact .inl ⟨[], e.1, e.2, x, ⟨⟨es, rfl⟩, .nil, hx⟩, hx.firstClaim_cons⟩
    · have hpassed := not_exists.1 he
      rw [firstClaim_cons_of_not_claims hpassed, List.foldl_cons]
      rcases ih (q.passing j e) with ⟨before, id, d, x, hfirst, heq⟩ | ⟨hunclaimed, heq⟩
      · exact .inl ⟨e :: before, id, d, x, hfirst.cons hpassed, heq⟩
      · exact .inr ⟨hunclaimed.cons hpassed, heq⟩

/-- Entries that are passed over make no difference to those behind them but by what is done. -/
theorem firstClaim_append_of_unclaimed (h : q.Unclaimed before j)
    (es : List (String × Descriptor ρ)) :
    firstClaim q.scope q.claims q.skipped (before ++ es) j =
      firstClaim q.scope q.claims q.skipped es (before.foldl q.passing j) := by
  induction before generalizing j with
  | nil => rfl
  | cons e before ih =>
    obtain ⟨he, hrest⟩ := unclaimed_cons_iff.1 h
    rw [List.cons_append, firstClaim_cons_of_not_claims he, ih hrest, List.foldl_cons]

/-! ### Resolvers that are not in each other's way -/

/-- Nothing that the entries in scope can construct claims what is to be resolved. -/
theorem firstClaim_of_none
    (h : ∀ e ∈ es, q.scope.allows e.1 = true → ∀ n x, e.2.factory.build n = .ok x →
      q.claims x = false) (j : Journal) :
    firstClaim q.scope q.claims q.skipped es j = (none, es.foldl q.passing j) := by
  rcases q.firstClaim_cases es j with ⟨before, id, d, x, hfirst, -⟩ | ⟨-, heq⟩
  · obtain ⟨after, hsplit⟩ := hfirst.split
    have hmem : (id, d) ∈ es := by simp [hsplit]
    have hclaims := h (id, d) hmem hfirst.claims.allowed _ x hfirst.claims.constructed
    cases hclaims.symm.trans hfirst.claims.claimed
  · exact heq

/-- If all that the entries in scope can construct and that claims is one resolver, and that one
can be constructed at any time, then it is found wherever it stands. -/
theorem firstClaim_of_sole
    (hsole : ∀ e ∈ es, q.scope.allows e.1 = true → ∀ n y, e.2.factory.build n = .ok y →
      q.claims y = true → y = x)
    (hpresent : ∃ e ∈ es, q.scope.allows e.1 = true ∧ e.2.Makes x) (hx : q.claims x = true)
    (j : Journal) :
    ∃ id j', firstClaim q.scope q.claims q.skipped es j = (some (id, x), j') := by
  rcases q.firstClaim_cases es j with ⟨before, id, d, y, hfirst, heq⟩ | ⟨hunclaimed, -⟩
  · obtain ⟨after, hsplit⟩ := hfirst.split
    have hmem : (id, d) ∈ es := by simp [hsplit]
    have hy : y = x :=
      hsole (id, d) hmem hfirst.claims.allowed _ y hfirst.claims.constructed hfirst.claims.claimed
    rw [heq, hy]
    exact ⟨id, _, rfl⟩
  · obtain ⟨e, he, hallowed, hmakes⟩ := hpresent
    obtain ⟨before, after, hsplit⟩ := List.append_of_mem he
    exact absurd ⟨hallowed, hmakes _, hx⟩ (hunclaimed before e after hsplit x)

end Query

/-! ### References -/

section References

variable {r : Registry ResourceResolver} {reference : Reference} {scope : ResolverScope}

theorem resolveResource_of_none
    (h : ∀ e ∈ r.entries, scope.allows e.1 = true → ∀ n x, e.2.factory.build n = .ok x →
      x.claims reference = false) (j : Journal) :
    (resolveResource r reference scope j).1 = .error (.unresolvable reference.uri) := by
  let q : Query ResourceResolver := ⟨scope, (·.claims reference), .resourceResolverSkipped⟩
  have hnone : firstClaim scope (·.claims reference) .resourceResolverSkipped r.entries j =
      (none, r.entries.foldl q.passing j) := Query.firstClaim_of_none (q := q) h j
  simp only [resolveResource, Traced.bind_apply, hnone]
  rfl

theorem resolveResource_of_sole {x : ResourceResolver}
    (hsole : ∀ e ∈ r.entries, scope.allows e.1 = true → ∀ n y, e.2.factory.build n = .ok y →
      y.claims reference = true → y = x)
    (hpresent : ∃ e ∈ r.entries, scope.allows e.1 = true ∧ e.2.Makes x)
    (hx : x.claims reference = true) (j : Journal) :
    ∃ j', resolveResource r reference scope j = x.resolve reference j' := by
  let q : Query ResourceResolver := ⟨scope, (·.claims reference), .resourceResolverSkipped⟩
  obtain ⟨id, j', hfound⟩ := Query.firstClaim_of_sole (q := q) hsole hpresent hx j
  change firstClaim scope (·.claims reference) .resourceResolverSkipped r.entries j = _ at hfound
  simp only [resolveResource, Traced.bind_apply, hfound]
  exact ⟨_, rfl⟩

/-- A reference that gets as far as an entry is resolved there if the resolver claims it, and
otherwise by the entries behind. -/
theorem resolveResource_at_entry {x : ResourceResolver} {id : String}
    {d : Descriptor ResourceResolver} {before after : List (String × Descriptor ResourceResolver)}
    {j : Journal} (hentries : r.entries = before ++ (id, d) :: after)
    (hallowed : scope.allows id = true) (hmakes : d.Makes x) :
    let q : Query ResourceResolver := ⟨scope, (·.claims reference), .resourceResolverSkipped⟩
    let reached := before.foldl q.passing j ++ [.constructed d.factory.id, .asked id]
    q.Unclaimed before j →
      resolveResource r reference scope j =
        if x.claims reference then
          x.resolve reference
            (reached ++ [.reported (.resourceResolverClaimed id reference.uri), .resolved id])
        else resolveResource { r with entries := after } reference scope reached := by
  intro q reached hunclaimed
  have hchain : firstClaim scope (·.claims reference) .resourceResolverSkipped r.entries j =
      firstClaim q.scope q.claims q.skipped ((id, d) :: after) (before.foldl q.passing j) := by
    rw [hentries]
    exact Query.firstClaim_append_of_unclaimed hunclaimed _
  have hconstructed : (d.instantiate (before.foldl q.passing j)).1 = .ok x := hmakes _
  simp only [resolveResource, Traced.bind_apply, hchain]
  cases hx : x.claims reference with
  | true =>
    have hclaims : q.Claims (before.foldl q.passing j) (id, d) x := ⟨hallowed, hconstructed, hx⟩
    rw [hclaims.firstClaim_cons]
    simp [reached]
  | false =>
    have hpassed : ∀ y, ¬q.Claims (before.foldl q.passing j) (id, d) y := by
      intro y hclaims
      have hy : x = y := Except.ok.inj (hconstructed.symm.trans hclaims.constructed)
      cases hx.symm.trans (hy ▸ hclaims.claimed)
    have hreached : q.passing (before.foldl q.passing j) (id, d) = reached := by
      rw [Query.passing, if_pos hallowed, hconstructed]
    rw [Query.firstClaim_cons_of_not_claims hpassed, hreached]
    rfl

end References

/-- Whatever attempts to register resolvers were made, and in whatever order, a reference or a
description is resolved by the first entry that claims it, in the order of the first successful
registrations and with the descriptors of the last ones, and as that entry resolves it. If no
entry claims it, it is unresolvable. -/
theorem resolution_by_first_claim (category : Category) :
    (∀ (ts : List (Attempt ResourceResolver)) (reference : Reference) (scope : ResolverScope)
        (j : Journal),
      let q : Query ResourceResolver := ⟨scope, (·.claims reference), .resourceResolverSkipped⟩
      let es := History.current ts
      (¬q.Unclaimed es j ∧ ∃ before id d x, q.First es j before (id, d) x ∧
        resolveResource (.ofHistory category ts) reference scope j =
          x.resolve reference (before.foldl q.passing j ++
            [.constructed d.factory.id, .asked id,
              .reported (.resourceResolverClaimed id reference.uri), .resolved id])) ∨
      (q.Unclaimed es j ∧
        resolveResource (.ofHistory category ts) reference scope j =
          (.error (.unresolvable reference.uri), es.foldl q.passing j))) ∧
    (∀ (ts : List (Attempt KeyResolver)) (info : KeyInfo) (keys : KeyStore)
        (scope : ResolverScope) (j : Journal),
      let q : Query KeyResolver := ⟨scope, (·.claims info), .keyResolverSkipped⟩
      let es := History.current ts
      (¬q.Unclaimed es j ∧ ∃ before id d x, q.First es j before (id, d) x ∧
        resolveKey (.ofHistory category ts) info keys scope j =
          (x.resolve info keys, before.foldl q.passing j ++
            [.constructed d.factory.id, .asked id,
              .reported (.keyResolverClaimed id), .resolved id])) ∨
      (q.Unclaimed es j ∧
        resolveKey (.ofHistory category ts) info keys scope j =
          (.error (.unresolvable info.text), es.foldl q.passing j))) := by
  constructor
  · intro ts reference scope j q es
    simp only [resolveResource, Registry.entries_ofHistory, Traced.bind_apply]
    rcases q.firstClaim_cases es j with ⟨before, id, d, x, hfirst, heq⟩ | ⟨hunclaimed, heq⟩
    · refine .inl ⟨hfirst.not_unclaimed, before, id, d, x, hfirst, ?_⟩
      rw [heq]
      simp
    · refine .inr ⟨hunclaimed, ?_⟩
      rw [heq]
      rfl
  · intro ts info keys scope j q es
    simp only [resolveKey, Registry.entries_ofHistory, Traced.bind_apply]
    rcases q.firstClaim_cases es j with ⟨before, id, d, x, hfirst, heq⟩ | ⟨hunclaimed, heq⟩
    · refine .inl ⟨hfirst.not_unclaimed, before, id, d, x, hfirst, ?_⟩
      rw [heq]
      simp
    · refine .inr ⟨hunclaimed, ?_⟩
      rw [heq]
      rfl

end DsigRegistry
