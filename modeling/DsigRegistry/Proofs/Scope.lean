import DsigRegistry.Proofs.Chain
import DsigRegistry.Stub

/-!
# Scopes

A scope makes the resolvers outside it disappear: nothing that can be noticed tells whether they
are there. What a chain does before a resolver takes over are calls to the entries in scope, one
after the other. Main fact: `scope_noninterference`.
-/

namespace DsigRegistry

variable {ρ : Type}

/-- The resolver that an event tells of. -/
def Event.resolver? : Event → Option String
  | .resourceResolverSkipped id _ | .resourceResolverClaimed id _
  | .keyResolverSkipped id _ | .keyResolverClaimed id => some id
  | _ => none

/-- The registry without the entries whose identifiers are not listed. -/
def Registry.restrict (r : Registry ρ) (ids : List String) : Registry ρ :=
  { r with entries := r.entries.filter fun e => ids.contains e.1 }

/-! ### What a chain does with its entries -/

/-- The action has to do with one entry of a chain. -/
inductive Concerns (e : String × Descriptor ρ) : Action → Prop
  | constructed : Concerns e (.constructed e.2.factory.id)
  | asked : Concerns e (.asked e.1)
  | resolved : Concerns e (.resolved e.1)
  | reported {event : Event} (h : event.resolver? = some e.1) : Concerns e (.reported event)

/-- What was done has to do with the entries and nothing else, and the constructor of each was
called once, in their order. -/
structure Trail (es : List (String × Descriptor ρ)) (done : Journal) : Prop where
  concerns : ∀ action ∈ done, ∃ e ∈ es, Concerns e action
  factories : done.factories = es.map (·.2.factory.id)

namespace Trail

variable {es es' : List (String × Descriptor ρ)} {e : String × Descriptor ρ}
  {done done' : Journal}

theorem nil : Trail ([] : List (String × Descriptor ρ)) [] where
  concerns _ h := absurd h (by simp)
  factories := rfl

theorem append (h : Trail es done) (h' : Trail es' done') : Trail (es ++ es') (done ++ done') where
  concerns action haction := by
    rcases List.mem_append.1 haction with hdone | hdone'
    · obtain ⟨e, he, hconcerns⟩ := h.concerns action hdone
      exact ⟨e, List.mem_append_left es' he, hconcerns⟩
    · obtain ⟨e, he, hconcerns⟩ := h'.concerns action hdone'
      exact ⟨e, List.mem_append_right es he, hconcerns⟩
  factories := by
    rw [Journal.factories, List.filterMap_append, List.map_append, ← h.factories, ← h'.factories]
    rfl

/-- More may be done with an entry that was reached, but its constructor is not called again. -/
theorem snoc (h : Trail es done) (he : e ∈ es) {more : Journal}
    (hconcerns : ∀ action ∈ more, Concerns e action) (hfactories : more.factories = []) :
    Trail es (done ++ more) where
  concerns action haction := by
    rcases List.mem_append.1 haction with hdone | hmore
    · exact h.concerns action hdone
    · exact ⟨e, he, hconcerns action hmore⟩
  factories := by
    rw [← h.factories, Journal.factories, List.filterMap_append]
    change done.factories ++ more.factories = _
    rw [hfactories, List.append_nil]

theorem skipped {event : Event} (h : event.resolver? = some e.1) :
    Trail [e] [.constructed e.2.factory.id, .reported event] where
  concerns action haction := by
    refine ⟨e, List.mem_singleton_self e, ?_⟩
    rcases List.mem_pair.1 haction with rfl | rfl
    · exact .constructed
    · exact .reported h
  factories := rfl

theorem asked : Trail [e] [.constructed e.2.factory.id, .asked e.1] where
  concerns action haction := by
    refine ⟨e, List.mem_singleton_self e, ?_⟩
    rcases List.mem_pair.1 haction with rfl | rfl
    · exact .constructed
    · exact .asked
  factories := rfl

end Trail

/-! ### Chains -/

section Chain

variable (claims : ρ → Bool) {skipped : String → Error → Event}

/-- To try the entries in scope is to try all that are left without the others. -/
theorem firstClaim_only (ids : List String) (es : List (String × Descriptor ρ)) :
    firstClaim (.only ids) claims skipped es =
      firstClaim .unrestricted claims skipped (es.filter fun e => ids.contains e.1) := by
  induction es with
  | nil => rfl
  | cons e es ih =>
    rw [List.filter_cons]
    cases he : ids.contains e.1 with
    | true => simp only [firstClaim, ResolverScope.allows, he, if_true, ih]
    | false =>
      rw [if_neg Bool.false_ne_true, ← ih]
      simp only [firstClaim, ResolverScope.allows, he, Bool.false_eq_true, if_false]

/-- What has been done when an entry in scope has been passed over. -/
theorem passing_trail {q : Query ρ} (hskipped : ∀ id e, (q.skipped id e).resolver? = some id)
    {e : String × Descriptor ρ} (he : q.scope.allows e.1 = true) (j : Journal) :
    ∃ done, q.passing j e = j ++ done ∧ Trail [e] done := by
  rw [Query.passing, if_pos he]
  cases (e.2.instantiate j).1 with
  | error cause => exact ⟨_, rfl, .skipped (hskipped e.1 cause)⟩
  | ok x => exact ⟨_, rfl, .asked⟩

theorem foldl_passing_trail {q : Query ρ}
    (hskipped : ∀ id e, (q.skipped id e).resolver? = some id) {es : List (String × Descriptor ρ)}
    (hes : ∀ e ∈ es, q.scope.allows e.1 = true) (j : Journal) :
    ∃ done, es.foldl q.passing j = j ++ done ∧ Trail es done := by
  induction es generalizing j with
  | nil => exact ⟨[], (List.append_nil j).symm, .nil⟩
  | cons e es ih =>
    obtain ⟨he, hrest⟩ := List.forall_mem_cons.1 hes
    obtain ⟨done, hdone, htrail⟩ := passing_trail hskipped he j
    obtain ⟨more, hmore, hreached⟩ := ih hrest (j ++ done)
    refine ⟨done ++ more, ?_, htrail.append hreached⟩
    rw [List.foldl_cons, hdone, hmore, List.append_assoc]

/-- A chain without a scope reaches some of its entries, from the first one on; a resolver that
claims is one of theirs. -/
theorem firstClaim_trail (hskipped : ∀ id e, (skipped id e).resolver? = some id)
    (es : List (String × Descriptor ρ)) (j : Journal) :
    ∃ reached done, reached <+: es ∧ Trail reached done ∧
      (firstClaim .unrestricted claims skipped es j).2 = j ++ done ∧
      ∀ id x, (firstClaim .unrestricted claims skipped es j).1 = some (id, x) →
        ∃ d n, (id, d) ∈ reached ∧ d.factory.build n = .ok x := by
  let q : Query ρ := ⟨.unrestricted, claims, skipped⟩
  rcases q.firstClaim_cases es j with ⟨before, id, d, x, hfirst, heq⟩ | ⟨-, heq⟩
  · obtain ⟨after, hsplit⟩ := hfirst.split
    obtain ⟨done, hdone, htrail⟩ := foldl_passing_trail (q := q) hskipped (fun _ _ => rfl) j
    refine ⟨before ++ [(id, d)], done ++ [.constructed d.factory.id, .asked id], ?_,
      htrail.append .asked, ?_, ?_⟩
    · exact ⟨after, by rw [hsplit, List.append_assoc, List.singleton_append]⟩
    · rw [heq, hdone, List.append_assoc]
    · intro id' x' hx'
      rw [heq] at hx'
      cases hx'
      exact ⟨d, _, List.mem_append_right before (List.mem_singleton_self _),
        hfirst.claims.constructed⟩
  · obtain ⟨done, hdone, htrail⟩ := foldl_passing_trail (q := q) hskipped (fun _ _ => rfl) j
    refine ⟨es, done, List.prefix_rfl, htrail, ?_, ?_⟩
    · rw [heq, hdone]
    · intro id x hx
      rw [heq] at hx
      cases hx

/-- What becomes of a chain: the resolver that claims takes over, or there is none. -/
def settle {α : Type} (what : String) (claimed : String → Event)
    (takeOver : ρ → Traced (Except Error α)) : Option (String × ρ) → Traced (Except Error α)
  | none => return .error (.unresolvable what)
  | some (id, resolver) => do
    Traced.report (claimed id)
    Traced.record (.resolved id)
    takeOver resolver

/-- Until a resolver takes over, everything that is done has to do with the entries that are
reached. -/
theorem settle_trail {α : Type} {what : String} {claimed : String → Event}
    (takeOver : ρ → Traced (Except Error α)) (hskipped : ∀ id e, (skipped id e).resolver? = some id)
    (hclaimed : ∀ id, (claimed id).resolver? = some id) (es : List (String × Descriptor ρ))
    (j : Journal) :
    let outcome :=
      (firstClaim .unrestricted claims skipped es >>= settle what claimed takeOver) j
    ∃ reached done, reached <+: es ∧ Trail reached done ∧
      (outcome = (.error (.unresolvable what), j ++ done) ∨
        ∃ id d n x, (id, d) ∈ reached ∧ d.factory.build n = .ok x ∧
          outcome = takeOver x (j ++ done)) := by
  intro outcome
  obtain ⟨reached, done, hpre, htrail, hjournal, hclaimant⟩ :=
    firstClaim_trail claims hskipped es j
  have houtcome : outcome = settle what claimed takeOver
      (firstClaim .unrestricted claims skipped es j).1 (j ++ done) := by
    rw [← hjournal]
    rfl
  cases hfound : (firstClaim .unrestricted claims skipped es j).1 with
  | none =>
    refine ⟨reached, done, hpre, htrail, .inl ?_⟩
    rw [houtcome, hfound]
    rfl
  | some claimant =>
    obtain ⟨id, x⟩ := claimant
    obtain ⟨d, n, hd, hbuild⟩ := hclaimant id x hfound
    refine ⟨reached, done ++ [.reported (claimed id), .resolved id], hpre,
      htrail.snoc hd ?_ rfl, .inr ⟨id, d, n, x, hd, hbuild, ?_⟩⟩
    · intro action haction
      rcases List.mem_pair.1 haction with rfl | rfl
      · exact .reported (hclaimed id)
      · exact .resolved
    · rw [houtcome, hfound]
      simp [settle]

end Chain

/-! ### Resolving -/

theorem resolveResource_eq (r : Registry ResourceResolver) (reference : Reference)
    (scope : ResolverScope) :
    resolveResource r reference scope =
      (firstClaim scope (·.claims reference) .resourceResolverSkipped r.entries >>=
        settle reference.uri (.resourceResolverClaimed · reference.uri)
          (·.resolve reference)) := by
  unfold resolveResource
  congr 1
  funext found
  cases found <;> rfl

theorem resolveKey_eq (r : Registry KeyResolver) (info : KeyInfo) (keys : KeyStore)
    (scope : ResolverScope) :
    resolveKey r info keys scope =
      (firstClaim scope (·.claims info) .keyResolverSkipped r.entries >>=
        settle info.text .keyResolverClaimed fun x => pure (x.resolve info keys)) := by
  unfold resolveKey
  congr 1
  funext found
  cases found <;> rfl

theorem resolveResource_only (r : Registry ResourceResolver) (reference : Reference)
    (ids : List String) :
    resolveResource r reference (.only ids) =
      resolveResource (r.restrict ids) reference .unrestricted := by
  rw [resolveResource_eq, resolveResource_eq, firstClaim_only]
  rfl

theorem resolveKey_only (r : Registry KeyResolver) (info : KeyInfo) (keys : KeyStore)
    (ids : List String) :
    resolveKey r info keys (.only ids) = resolveKey (r.restrict ids) info keys .unrestricted := by
  rw [resolveKey_eq, resolveKey_eq, firstClaim_only]
  rfl

/-- Within a scope, nothing is done with entries outside it until a resolver takes over. -/
theorem resolveResource_trail (r : Registry ResourceResolver) (reference : Reference)
    (ids : List String) (j : Journal) :
    ∃ reached done, reached <+: (r.restrict ids).entries ∧ Trail reached done ∧
      (resolveResource r reference (.only ids) j =
          (.error (.unresolvable reference.uri), j ++ done) ∨
        ∃ id d n x, (id, d) ∈ reached ∧ d.factory.build n = .ok x ∧
          resolveResource r reference (.only ids) j = x.resolve reference (j ++ done)) := by
  rw [resolveResource_only, resolveResource_eq]
  exact settle_trail _ _ (fun _ _ => rfl) (fun _ => rfl) _ j

theorem resolveKey_trail (r : Registry KeyResolver) (info : KeyInfo) (keys : KeyStore)
    (ids : List String) (j : Journal) :
    ∃ reached done, reached <+: (r.restrict ids).entries ∧ Trail reached done ∧
      (resolveKey r info keys (.only ids) j = (.error (.unresolvable info.text), j ++ done) ∨
        ∃ id d n x, (id, d) ∈ reached ∧ d.factory.build n = .ok x ∧
          resolveKey r info keys (.only ids) j = (x.resolve info keys, j ++ done)) := by
  rw [resolveKey_only, resolveKey_eq]
  exact settle_trail _ _ (fun _ _ => rfl) (fun _ => rfl) _ j

/-- Resolving within a scope answers and does exactly what resolving without one does once the
other entries are gone, so that registries with the same entries in scope cannot be told apart.
Until a resolver that claims takes over, all that is done has to do with entries in scope, of
which some are reached from the first one on and the constructor of each is called once. -/
theorem scope_noninterference (ids : List String) :
    (∀ (r : Registry ResourceResolver) (reference : Reference),
      resolveResource r reference (.only ids) =
        resolveResource (r.restrict ids) reference .unrestricted ∧
      (∀ r' : Registry ResourceResolver, (r'.restrict ids).entries = (r.restrict ids).entries →
        resolveResource r' reference (.only ids) = resolveResource r reference (.only ids)) ∧
      ∀ j, ∃ reached done, reached <+: (r.restrict ids).entries ∧ Trail reached done ∧
        (resolveResource r reference (.only ids) j =
            (.error (.unresolvable reference.uri), j ++ done) ∨
          ∃ id d n x, (id, d) ∈ reached ∧ d.factory.build n = .ok x ∧
            resolveResource r reference (.only ids) j = x.resolve reference (j ++ done))) ∧
    (∀ (r : Registry KeyResolver) (info : KeyInfo) (keys : KeyStore),
      resolveKey r info keys (.only ids) =
        resolveKey (r.restrict ids) info keys .unrestricted ∧
      (∀ r' : Registry KeyResolver, (r'.restrict ids).entries = (r.restrict ids).entries →
        resolveKey r' info keys (.only ids) = resolveKey r info keys (.only ids)) ∧
      ∀ j, ∃ reached done, reached <+: (r.restrict ids).entries ∧ Trail reached done ∧
        (resolveKey r info keys (.only ids) j = (.error (.unresolvable info.text), j ++ done) ∨
          ∃ id d n x, (id, d) ∈ reached ∧ d.factory.build n = .ok x ∧
            resolveKey r info keys (.only ids) j = (x.resolve info keys, j ++ done))) := by
  constructor
  · intro r reference
    refine ⟨resolveResource_only r reference ids, ?_, resolveResource_trail r reference ids⟩
    intro r' h
    rw [resolveResource_only r', resolveResource_only r, resolveResource_eq, h,
      ← resolveResource_eq]
  · intro r info keys
    refine ⟨resolveKey_only r info keys ids, ?_, resolveKey_trail r info keys ids⟩
    intro r' h
    rw [resolveKey_only r', resolveKey_only r, resolveKey_eq, h, ← resolveKey_eq]

/-- A registry with one resolver, which claims every reference. -/
def localOnly : Registry ResourceResolver :=
  ⟨.resourceResolver,
    [("local", ⟨"local", none, .const (.host 0) (Stub.resourceResolver (fun _ => true) (.ok []))⟩)]⟩

/-- The same registry behind a resolver whose constructor fails. -/
def behindFailing : Registry ResourceResolver :=
  { localOnly with
    entries := ("net", ⟨"net", none, ⟨.host 1, fun _ => .error (.other "down")⟩⟩) ::
      localOnly.entries }

/-- A failing constructor can be told by the journal, but not in a scope that it is out of. -/
theorem scope_noninterference_failing :
    let reference : Reference := ⟨"x", none⟩
    (behindFailing.restrict ["local"]).entries = (localOnly.restrict ["local"]).entries ∧
    resolveResource behindFailing reference (.only ["local"]) =
      resolveResource localOnly reference (.only ["local"]) ∧
    (resolveResource behindFailing reference .unrestricted []).2 ≠
      (resolveResource localOnly reference .unrestricted []).2 := by
  intro reference
  obtain ⟨-, hsame, -⟩ := (scope_noninterference ["local"]).1 localOnly reference
  exact ⟨rfl, hsame behindFailing rfl, by decide⟩

end DsigRegistry
